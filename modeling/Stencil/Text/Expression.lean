import Stencil.Text.CharClass
import Stencil.Text.LetterCase
import Stencil.Text.Parser

/-!
# Regular expressions on texts

Expressions whose classes are those of Unicode. Only whether a part of a text fits is asked, so it
does not matter which of several parts is preferred.
-/

namespace Stencil

inductive CharTest where
  | nothing
  | range (first last : Char)
  /-- The same, where upper and lower case do not count. -/
  | foldedRange (first last : Char)
  | digit
  | word
  | blank
  | letter
  | upper
  | lower
  | numeric
  /-- Every character, or every one but the end of a line. -/
  | any (lineEnds : Bool)
  | not (t : CharTest)
  | either (l r : CharTest)
  | both (l r : CharTest)
  deriving DecidableEq, Repr

namespace CharTest

def one (folding : Bool) (c : Char) : CharTest :=
  if folding then .foldedRange c c else .range c c

def inRange (first last c : Char) : Bool :=
  Nat.ble first.toNat c.toNat && Nat.ble c.toNat last.toNat

def variants (c : Char) : List Char :=
  c :: ([upperChar c, lowerChar c].filter (·.length == 1)).flatten

def holds (c : Char) : CharTest → Bool
  | nothing => false
  | range first last => inRange first last c
  | foldedRange first last => (variants c).any (inRange first last)
  | digit => CharSet.decimalDigit.contains c || (c.toNat < 128 && c.isDigit)
  | word => isUnicodeWord c
  | blank => isBlank c
  | letter => isAlphabetic c
  | upper => isUppercase c
  | lower => isLowercase c
  | numeric => isNumeric c
  | any lineEnds => lineEnds || c != '\n'
  | not t => !t.holds c
  | either l r => l.holds c || r.holds c
  | both l r => l.holds c && r.holds c

def ascii? (name : String) : Option CharTest :=
  let ranges (rs : List (Char × Char)) : Option CharTest :=
    some (rs.foldr (fun r t => .either (.range r.1 r.2) t) .nothing)
  match name with
  | "alnum" => ranges [('0', '9'), ('A', 'Z'), ('a', 'z')]
  | "alpha" => ranges [('A', 'Z'), ('a', 'z')]
  | "ascii" => ranges [('\x00', '\x7f')]
  | "blank" => ranges [('\t', '\t'), (' ', ' ')]
  | "cntrl" => ranges [('\x00', '\x1f'), ('\x7f', '\x7f')]
  | "digit" => ranges [('0', '9')]
  | "graph" => ranges [('!', '~')]
  | "lower" => ranges [('a', 'z')]
  | "print" => ranges [(' ', '~')]
  | "punct" => ranges [('!', '/'), (':', '@'), ('[', '\x60'), ('{', '~')]
  | "space" => ranges [('\t', '\r'), (' ', ' ')]
  | "upper" => ranges [('A', 'Z')]
  | "word" => ranges [('0', '9'), ('A', 'Z'), ('a', 'z'), ('_', '_')]
  | "xdigit" => ranges [('0', '9'), ('A', 'F'), ('a', 'f')]
  | _ => none

def property? (name : String) : Option CharTest :=
  match name with
  | "L" | "Letter" | "Alphabetic" | "alpha" => some .letter
  | "Lu" | "Uppercase" | "Uppercase_Letter" => some .upper
  | "Ll" | "Lowercase" | "Lowercase_Letter" => some .lower
  | "N" | "Number" => some .numeric
  | "Nd" | "Decimal_Number" => some .digit
  | "White_Space" => some .blank
  | "Any" | "any" => some (.any true)
  | _ => none

end CharTest

inductive Expression where
  | empty
  | one (t : CharTest)
  /-- The beginning of the text, or of a line. -/
  | start (line : Bool)
  /-- The end of the text, or of a line. -/
  | stop (line : Bool)
  /-- The edge of a word, or any other place if `inside` holds. -/
  | edge (inside : Bool)
  | wordStart
  | wordEnd
  | sequence (l r : Expression)
  | choice (l r : Expression)
  | repeated (r : Expression) (least : Nat) (most : Option Nat)
  deriving Repr

namespace Expression

/-! ## Reading -/

structure Mode where
  folding : Bool := false
  /-- Whether `.` takes the end of a line. -/
  lineEnds : Bool := false
  /-- Whether `^` and `$` stand for the ends of lines. -/
  lines : Bool := false
  /-- Whether gaps and comments are passed over. -/
  spread : Bool := false

namespace Mode

def switch (m : Mode) (on : Bool) (c : Char) : Option Mode :=
  match c with
  | 'i' => some { m with folding := on }
  | 's' => some { m with lineEnds := on }
  | 'm' => some { m with lines := on }
  | 'x' => some { m with spread := on }
  | 'U' | 'R' => some m
  | 'u' => if on then some m else none
  | _ => none

/-- Switches what letters name; those after a sign of minus are switched off. -/
def switchAll (m : Mode) (letters : List Char) : Option Mode :=
  let on := letters.takeWhile (· != '-')
  let off := letters.drop (on.length + 1)
  if letters.isEmpty || (letters.length > on.length && off.isEmpty) then none
  else do off.foldlM (switch · false) (← on.foldlM (switch · true) m)

end Mode

open Stencil.Parser

def pass (m : Mode) : Parser Unit := do
  if m.spread then
    let rec go : (count : Nat) → List Char → List Char
      | 0, cs => cs
      | _, [] => []
      | count + 1, c :: cs =>
        if isBlank c then go count cs
        else if c == '#' then go count (cs.dropWhile (· != '\n'))
        else c :: cs
    modify fun cs => go (cs.length + 1) cs

def take : Parser Char := do
  match ← get with
  | c :: cs => set cs; return c
  | [] => failure

def accept (c : Char) : Parser Bool := do
  match ← get with
  | d :: cs => if c == d then do { set cs; return true } else return false
  | [] => return false

def number : Parser Nat := do
  return (← span1 Char.isDigit).foldl (fun n c => n * 10 + (c.toNat - '0'.toNat)) 0

/-- The character whose number is given in base 16, with a fixed count of digits or in braces. -/
def numbered (count : Nat) : Parser Char := do
  let digits ← if ← accept '{' then do
      let digits := (← get).takeWhile (· != '}')
      modify (·.drop digits.length)
      word r"}"
      pure digits
    else do
      let digits := (← get).take count
      modify (·.drop count)
      if digits.length < count then failure else pure digits
  let isHex (c : Char) : Bool := c.isDigit || CharTest.inRange 'a' 'f' c.toLower
  if digits.isEmpty || !digits.all isHex then failure
  let value (c : Char) : Nat :=
    if c.isDigit then c.toNat - '0'.toNat else c.toLower.toNat - 'a'.toNat + 10
  let n := digits.foldl (fun n c => n * 16 + value c) 0
  if Nat.isValidChar n then return Char.ofNat n else failure

def property : Parser CharTest := do
  let name ← if ← accept '{' then do
      let name := (← get).takeWhile (· != '}')
      modify (·.drop name.length)
      word r"}"
      pure name
    else pure [← take]
  let (negated, name) := match name with
    | '^' :: name => (true, name)
    | name => (false, name)
  let t ← CharTest.property? (String.ofList name)
  return if negated then .not t else t

def escaped : Parser (Char ⊕ CharTest) := do
  let c ← take
  match c with
  | 'd' => return .inr .digit
  | 'D' => return .inr (.not .digit)
  | 'w' => return .inr .word
  | 'W' => return .inr (.not .word)
  | 's' => return .inr .blank
  | 'S' => return .inr (.not .blank)
  | 'p' => return .inr (← property)
  | 'P' => return .inr (.not (← property))
  | 'a' => return .inl '\x07'
  | 'f' => return .inl '\x0c'
  | 'n' => return .inl '\n'
  | 'r' => return .inl '\r'
  | 't' => return .inl '\t'
  | 'v' => return .inl '\x0b'
  | 'x' => return .inl (← numbered 2)
  | 'u' => return .inl (← numbered 4)
  | 'U' => return .inl (← numbered 8)
  | c => if c.toNat < 128 && !c.isAlphanum && c != '<' && c != '>' then return .inl c else failure

def member : Parser (Char ⊕ CharTest) := do
  let c ← take
  if c == '\\' then escaped else return .inl c

def named : Parser CharTest := do
  word "[:"
  let negated ← accept '^'
  let t ← CharTest.ascii? (String.ofList (← span1 Char.isAlpha))
  word ":]"
  return if negated then .not t else t

mutual

/-- What stands in a set up to its end or an operator; `first` tells that nothing has been read. -/
def members (m : Mode) : (steps : Nat) → (first : Bool) → Parser CharTest
  | 0, _ => failure
  | steps + 1, first => do
    pass m
    match ← get with
    | [] => failure
    | c :: rest =>
      let isOperator := rest.head? == some c && (c == '&' || c == '-' || c == '~')
      if (c == ']' && !first) || (isOperator && !first) then return .nothing
      let t ← if c == '[' then named <|> bracket m steps else do
        match ← member with
        | .inr t => pure t
        | .inl low =>
          pass m
          match ← get with
          | '-' :: d :: _ =>
            if d == ']' || d == '-' then pure (.one m.folding low)
            else do
              modify (·.drop 1)
              pass m
              match ← member with
              | .inl high =>
                if high.toNat < low.toNat then failure
                else pure (if m.folding then .foldedRange low high else .range low high)
              | .inr _ => failure
          | _ => pure (.one m.folding low)
      return .either t (← members m steps false)

def combined (m : Mode) : (steps : Nat) → CharTest → Parser CharTest
  | 0, _ => failure
  | steps + 1, l => do
    match ← get with
    | '&' :: '&' :: rest =>
      set rest
      let r ← members m steps false
      combined m steps (.both l r)
    | '-' :: '-' :: rest =>
      set rest
      let r ← members m steps false
      combined m steps (.both l (.not r))
    | '~' :: '~' :: rest =>
      set rest
      let r ← members m steps false
      combined m steps (.either (.both l (.not r)) (.both r (.not l)))
    | _ => return l

def bracket (m : Mode) : (steps : Nat) → Parser CharTest
  | 0 => failure
  | steps + 1 => do
    word "["
    let negated ← accept '^'
    let t ← combined m steps (← members m steps true)
    word "]"
    return if negated then .not t else t

end

def backslash (m : Mode) : Parser Expression := do
  let cs ← get
  let special : Option (String × Expression) :=
    [("b{start}", wordStart), ("b{end}", wordEnd), ("b", edge false), ("B", edge true),
      ("<", wordStart), (">", wordEnd), ("A", start false), ("z", stop false)].find? fun e =>
        (dropPrefix? e.1.toList cs).isSome
  match special with
  | some (text, e) =>
    word text
    return e
  | none =>
    match ← escaped with
    | .inl c => return one (.one m.folding c)
    | .inr t => return one t

def bounds? : Parser (Option (Nat × Option Nat)) := do
  match ← get with
  | '*' :: cs => set cs; return some (0, none)
  | '+' :: cs => set cs; return some (1, none)
  | '?' :: cs => set cs; return some (0, some 1)
  | '{' :: cs =>
    set cs
    gap
    let least ← if (← get).head? == some ',' then pure 0 else number
    gap
    let most ← if ← accept ',' then do
        gap
        if (← get).head? == some '}' then pure none else some <$> number
      else pure (some least)
    gap
    word r"}"
    if (most.map fun most => decide (most < least)).getD false then failure
    return some (least, most)
  | _ => return none

def repetitions (m : Mode) : (steps : Nat) → Expression → Parser Expression
  | 0, e => return e
  | steps + 1, e => do
    pass m
    match ← bounds? with
    | none => return e
    | some (least, most) =>
      let _ ← accept '?'
      repetitions m steps (repeated e least most)

def modeLetters : Parser (List Char) :=
  span1 fun c => c.isAlpha || c == '-'

mutual

def alternatives : (steps : Nat) → Mode → Parser Expression
  | 0, _ => failure
  | steps + 1, m => do
    let (l, m) ← parts steps m
    if ← accept '|' then return choice l (← alternatives steps m) else return l

/-- The parts of an alternative, and how what follows it is read. -/
def parts : (steps : Nat) → Mode → Parser (Expression × Mode)
  | 0, _ => failure
  | steps + 1, m => do
    pass m
    match ← get with
    | [] | '|' :: _ | ')' :: _ => return (empty, m)
    | cs =>
      let switched : Parser Mode := do
        word "(?"
        let m ← m.switchAll (← modeLetters)
        word ")"
        return m
      match switched.run cs with
      | some (m, rest) =>
        set rest
        parts steps m
      | none =>
        let e ← repetitions m steps (← part steps m)
        let (r, m) ← parts steps m
        return (sequence e r, m)

def part : (steps : Nat) → Mode → Parser Expression
  | 0, _ => failure
  | steps + 1, m => do
    let group (m : Mode) : Parser Expression := do
      let e ← alternatives steps m
      word ")"
      return e
    match ← get with
    | '[' :: _ => one <$> bracket m steps
    | cs =>
      let c ← take
      match c with
      | '\\' => backslash m
      | '.' => return one (.any m.lineEnds)
      | '^' => return start m.lines
      | '$' => return stop m.lines
      | '*' | '+' | '?' | '{' | '|' | ')' => failure
      | '(' =>
        match cs with
        | '(' :: '?' :: 'P' :: '<' :: rest | '(' :: '?' :: '<' :: rest =>
          let name := rest.takeWhile isIdentChar
          if !(name.head?.map isIdentStart).getD false then failure
          set (rest.drop name.length)
          word ">"
          group m
        | '(' :: '?' :: ':' :: rest =>
          set rest
          group m
        | '(' :: '?' :: rest =>
          set rest
          let m ← m.switchAll (← modeLetters)
          word ":"
          group m
        | _ => group m
      | c => return one (.one m.folding c)

end

def parse? (text : List Char) : Option Expression := do
  match ← (alternatives (6 * text.length + 8) {}).run text with
  | (e, []) => some e
  | _ => none

/-! ## Fitting -/

structure Spot where
  before : Option Char
  rest : List Char
  position : Nat

namespace Spot

def isAfterWord (p : Spot) : Bool :=
  (p.before.map isUnicodeWord).getD false

def isBeforeWord (p : Spot) : Bool :=
  (p.rest.head?.map isUnicodeWord).getD false

def distinct (ps : List Spot) : List Spot :=
  ps.foldr (fun p acc => if acc.any (·.position == p.position) then acc else p :: acc) []

end Spot

/-- The places that are reached by repeating a step, from those that `count` repetitions lead to;
`found` are those that fewer repetitions lead to, which need not be gone on from again. -/
def iterate (step : Spot → List Spot) (least : Nat) (most : Option Nat) :
    (fuel count : Nat) → (found reached : List Spot) → List Spot
  | 0, _, found, _ => found
  | fuel + 1, count, found, reached =>
    let fresh := reached.filter fun p => !found.any (·.position == p.position)
    let found := if least ≤ count then fresh ++ found else found
    if fresh.isEmpty || most == some count then found
    else iterate step least most fuel (count + 1) found (Spot.distinct (fresh.flatMap step))

def ends : Expression → Spot → List Spot
  | empty, p => [p]
  | one t, p =>
    match p.rest with
    | c :: rest => if t.holds c then [⟨some c, rest, p.position + 1⟩] else []
    | [] => []
  | start line, p =>
    if p.before.isNone || (line && p.before == some '\n') then [p] else []
  | stop line, p =>
    if p.rest.isEmpty || (line && p.rest.head? == some '\n') then [p] else []
  | edge inside, p => if (p.isAfterWord != p.isBeforeWord) != inside then [p] else []
  | wordStart, p => if !p.isAfterWord && p.isBeforeWord then [p] else []
  | wordEnd, p => if p.isAfterWord && !p.isBeforeWord then [p] else []
  | sequence l r, p => Spot.distinct ((ends l p).flatMap (ends r))
  | choice l r, p => Spot.distinct (ends l p ++ ends r p)
  | repeated e least most, p => iterate (ends e) least most (p.rest.length + least + 2) 0 [] [p]

/-- Whether a part of a text fits that begins after `before` or later. -/
def fitsAfter (e : Expression) (before : Option Char) : List Char → Bool
  | [] => !(e.ends ⟨before, [], 0⟩).isEmpty
  | c :: cs => !(e.ends ⟨before, c :: cs, 0⟩).isEmpty || fitsAfter e (some c) cs

def fits (e : Expression) (text : List Char) : Bool :=
  e.fitsAfter none text

end Expression

end Stencil
