import Stencil.Shell.Syntax.Word

/-!
# Reading shell commands

A script is read line by line, so that a line runs before the next one is looked at. Commands are
read by descent; `steps` bounds its depth.
-/

namespace Stencil.Shell

open Reader

/-- Refuses a token; `expected` is the one that has to stand there. -/
def refuse {α : Type} (t : Token) (expected : Option String) : Reader α :=
  fail (.unexpected t.nameOrKeyword expected)

def expectKeyword (t : Token) (k : String) : Reader Unit := do
  unless t.isKeyword k do refuse t (some ("\"" ++ k ++ "\""))

def expectClosing (t : Token) : Reader Unit :=
  match t with
  | .closing => pure ()
  | t => fail (.unexpected t.name (some Token.closing.name))

def after (before : Option Command) (c : Command) : Option Command :=
  match before with
  | some b => some (.sequence b c)
  | none => some c

def specialNames : List String :=
  [".", ":", "break", "continue", "eval", "exec", "exit", "export", "local", "readonly", "return", "set",
    "shift", "times", "trap", "unset"]

def withRedirects (line : Nat) (c : Command) (rs : List Redirect) : Command :=
  match c with
  | .subshell l body _ => .subshell l body rs
  | c => if rs.isEmpty then c else .redirected line (some c) rs

def loopWords (inner : Inner) : (count : Nat) → Reader (List Word)
  | 0 => pure []
  | count + 1 => do
    match ← next inner false with
    | .word w => return w :: (← loopWords inner count)
    | .newline | .semicolon => return []
    | t => fail (.unexpected t.name none)

def redirects (inner : Inner) : (count : Nat) → Reader (List Redirect)
  | 0 => pure []
  | count + 1 => do
    match ← next inner false with
    | .redirect r => return r :: (← redirects inner count)
    | t =>
      push t
      return []

/-- The patterns of a branch from the first one on, with the parenthesis after the last one. -/
def patterns (inner : Inner) (first : Token) : (count : Nat) → Reader (List Word)
  | 0 => pure []
  | count + 1 => do
    let w : Word := match first with
      | .word w => w
      | _ => []
    match ← next inner false with
    | .bar => return w :: (← patterns inner (← next inner false) count)
    | t =>
      expectClosing t
      return [w]

def enough : Reader Nat := do
  return (← get).rest.length + 2

mutual

def insideWord : (steps : Nat) → Inner
  | 0, _ => pure none
  | steps + 1, parenthesised => do
    let c ← list steps true none
    if parenthesised then expectClosing (← next (insideWord steps) false)
    return c

/-- Commands up to a token that ends them; there need not be any if `mayEnd` holds. -/
def list : (steps : Nat) → (mayEnd : Bool) → Option Command → Reader (Option Command)
  | 0, _, acc => pure acc
  | steps + 1, mayEnd, acc => do
    let t ← next (insideWord steps) true
    push t
    match t with
    | .eof => return acc
    | _ =>
      if mayEnd && t.endsList then return acc
      let c ← andOr steps
      match ← next (insideWord steps) false with
      | .ampersand => list steps true (after acc (.background c))
      | .semicolon => list steps true (after acc c)
      | .newline =>
        push .newline
        list steps true (after acc c)
      | t =>
        push t
        return after acc c

def andOr : (steps : Nat) → Reader Command
  | 0 => fail (.unexpected Token.eof.name none)
  | steps + 1 => do
    andOrRest steps (← pipeline steps)

def andOrRest : (steps : Nat) → Command → Reader Command
  | 0, c => pure c
  | steps + 1, c => do
    match ← next (insideWord steps) false with
    | .doubleAmpersand => andOrRest steps (.and c (← pipeline steps))
    | .doubleBar => andOrRest steps (.or c (← pipeline steps))
    | t =>
      push t
      return c

def pipeline : (steps : Nat) → Reader Command
  | 0 => fail (.unexpected Token.eof.name none)
  | steps + 1 => do
    let t ← next (insideWord steps) true
    let negated := t.isKeyword "!"
    let first ← if negated then next (insideWord steps) false else pure t
    let c ← command steps first
    let more ← pipeRest steps
    let c := if more.isEmpty then c else .pipe (c :: more)
    return if negated then .negated c else c

def pipeRest : (steps : Nat) → Reader (List Command)
  | 0 => pure []
  | steps + 1 => do
    match ← next (insideWord steps) false with
    | .bar =>
      let c ← command steps (← next (insideWord steps) true)
      return c :: (← pipeRest steps)
    | t =>
      push t
      return []

def command : (steps : Nat) → Token → Reader Command
  | 0, t => refuse t none
  | steps + 1, t => do
    let inner := insideWord steps
    let line := (← get).line
    let finish (c : Command) : Reader Command := do
      return withRedirects line c (← redirects inner (← enough))
    match t.keyword? with
    | some "if" => finish (← conditional steps)
    | some "while" | some "until" =>
      let condition ← list steps false none
      expectKeyword (← next inner true) "do"
      let body ← list steps false none
      expectKeyword (← next inner true) "done"
      finish (.loop (t.isKeyword "while") condition body)
    | some "for" =>
      match ← next inner false with
      | .word w =>
        match (Word.plain? w).filter Word.isName with
        | none => fail .loopVariable
        | some name =>
          let t ← next inner true
          let words ←
            if t.isKeyword "in" then some <$> loopWords inner (← enough)
            else
              match t with
              | .semicolon => pure none
              | t =>
                push t
                pure none
          expectKeyword (← next inner true) "do"
          let body ← list steps false none
          expectKeyword (← next inner true) "done"
          finish (.forEach line name words body)
      | _ => fail .loopVariable
    | some "case" =>
      match ← next inner false with
      | .word w =>
        expectKeyword (← next inner true) "in"
        finish (.cases line w (← branches steps))
      | t => fail (.unexpected t.name (some "word"))
    | some r"{" =>
      let body ← list steps false none
      expectKeyword (← next inner true) r"}"
      match body with
      | some c => finish c
      | none => refuse .eof none
    | some _ => refuse t none
    | none =>
      match t with
      | .opening =>
        let body ← list steps false none
        let t ← next inner true
        match t with
        | .closing => finish (.subshell line body [])
        | t => refuse t (some Token.closing.name)
      | .word _ | .redirect _ =>
        push t
        simple steps line [] [] []
      | t => refuse t none

def conditional : (steps : Nat) → Reader Command
  | 0 => fail (.unexpected Token.eof.name none)
  | steps + 1 => do
    let inner := insideWord steps
    let condition ← list steps false none
    expectKeyword (← next inner true) "then"
    let body ← list steps false none
    let t ← next inner true
    if t.isKeyword "elif" then
      return .ifs condition body (some (← conditional steps))
    else if t.isKeyword "else" then
      let otherwise ← list steps false none
      expectKeyword (← next inner true) "fi"
      return .ifs condition body otherwise
    else
      expectKeyword t "fi"
      return .ifs condition body none

def branches : (steps : Nat) → Reader (List (List Word × Option Command))
  | 0 => pure []
  | steps + 1 => do
    let inner := insideWord steps
    let t ← next inner true
    if t.isKeyword "esac" then return []
    let first ← match t with
      | .opening => next inner false
      | t => pure t
    let ps ← patterns inner first (← enough)
    let body ← list steps true none
    let t ← next inner true
    match t with
    | .doubleSemicolon => return (ps, body) :: (← branches steps)
    | t =>
      unless t.isKeyword "esac" do refuse t (some Token.doubleSemicolon.name)
      return [(ps, body)]

def simple : (steps : Nat) → (line : Nat) → List (Octets × Word) → List Word → List Redirect →
    Reader Command
  | 0, line, as, ws, rs => pure (.simple line as ws rs)
  | steps + 1, line, as, ws, rs => do
    let inner := insideWord steps
    match ← next inner false with
    | .word w =>
      match if ws.isEmpty then Word.assignment? w else none with
      | some a => simple steps line (as ++ [a]) ws rs
      | none => simple steps line as (ws ++ [w]) rs
    | .redirect r => simple steps line as ws (rs ++ [r])
    | .opening =>
      match as, ws, rs with
      | [], [w], [] =>
        expectClosing (← next inner false)
        match (Word.plain? w).filter Word.isName with
        | some name =>
          if specialNames.contains (String.ofList name) then fail .functionName
          return .define name (← command steps (← next inner true))
        | none => fail .functionName
      | _, _, _ =>
        push .opening
        return .simple line as ws rs
    | t =>
      push t
      return .simple line as ws rs

end

/-- The commands of a line, which may go over several lines; `none` if there are none. -/
def commandLine (inner : Inner) (steps : Nat) : (count : Nat) → Option Command → Reader (Option Command)
  | 0, acc => pure acc
  | count + 1, acc => do
    let t ← next inner false
    match t with
    | .newline => return acc
    | .eof => return acc
    | t =>
      push t
      let c ← andOr steps
      match ← next inner false with
      | .ampersand => commandLine inner steps count (after acc (.background c))
      | .semicolon => commandLine inner steps count (after acc c)
      | .newline | .eof => return after acc c
      | t => refuse t none

def Source.nextLine (s : Source) : Except SyntaxError (Option Command × Source) :=
  let steps := 8 * s.rest.length + 16
  (commandLine (insideWord steps) steps (s.rest.length + 1) none).run s

end Stencil.Shell
