import Stencil.Shell.Syntax

/-!
# Reading shell words

Words are read from the left to the right, with what is quoted in them and with the references to
parameters, commands and arithmetic that they hold. The commands inside a word are read by a reader
that is given.
-/

namespace Stencil.Shell

structure PendingDocument where
  number : Nat
  delimiter : Octets
  /-- Whether blanks at the beginning of lines are dropped. -/
  stripped : Bool
  /-- Whether the document is taken as it is. -/
  literal : Bool

structure Source where
  rest : Octets
  line : Nat := 1
  /-- A token that was read and given back. -/
  pushed : Option Token := none
  pending : List PendingDocument := []
  documents : List (Nat × Word) := []
  nextDocument : Nat := 0

abbrev Reader := StateT Source (Except SyntaxError)

/-- Reads the commands inside a word; up to a closing parenthesis if there has to be one. -/
abbrev Inner := (parenthesised : Bool) → Reader (Option Command)

namespace Reader

variable {α : Type}

def fail (fault : SyntaxFault) : Reader α := do
  throw ⟨(← get).line, fault⟩

def goOn (rest : Octets) : Reader Unit :=
  modify fun s => { s with rest }

def countLine : Reader Unit :=
  modify fun s => { s with line := s.line + 1 }

def nested (r : Reader α) : Reader α := do
  let s ← get
  set { s with pushed := none, pending := [] }
  let a ← r
  modify fun t => { t with pushed := none, pending := s.pending }
  return a

def within (text : Octets) (r : Reader α) : Reader α := do
  let s ← get
  set { s with rest := text, pushed := none, pending := [] }
  let a ← r
  modify fun t => { t with rest := s.rest, line := s.line, pushed := s.pushed, pending := s.pending }
  return a

end Reader

open Reader

inductive Position where
  | plain
  | doubleQuotes
  /-- In braces after a parameter. -/
  | braces (quoted : Bool)
  | arithmetic (depth : Nat)
  | document
  deriving DecidableEq

namespace Position

def isQuoted : Position → Bool
  | plain => false
  | braces quoted => quoted
  | doubleQuotes | arithmetic _ | document => true

def hasQuotes : Position → Bool
  | plain | braces false => true
  | _ => false

/-- The characters that a backslash before them quotes; all if there is no list. -/
def quotable? : Position → Option Octets
  | plain | braces false => none
  | doubleQuotes => some "$\"\\`".toList
  | braces true => some r#"$"\`}"#.toList
  | arithmetic _ | document => some "$\\`".toList

end Position

def isBlank (c : Char) : Bool :=
  c == ' ' || c == '\t'

def endsWord (c : Char) : Bool :=
  isBlank c || c == '\n' || c == ';' || c == '&' || c == '|' || c == '<' || c == '>' ||
    c == '(' || c == ')'

def isSpecialParameter (c : Char) : Bool :=
  c.isDigit || c == '@' || c == '*' || c == '#' || c == '?' || c == '$' || c == '!' || c == '-'

def parameterName? : Octets → Option (Octets × Octets)
  | [] => none
  | c :: cs =>
    if Word.isNameStart c then
      some (c :: cs.takeWhile Word.isNameChar, cs.dropWhile Word.isNameChar)
    else if c.isDigit then some (c :: cs.takeWhile Char.isDigit, cs.dropWhile Char.isDigit)
    else if isSpecialParameter c then some ([c], cs)
    else none

/-- The parameter whose length a reference in braces asks for, after the sign of it. -/
def lengthOf? (cs : Octets) : Option (Octets × Octets) :=
  match parameterName? cs with
  | some (name, '}' :: rest) => some (name, rest)
  | _ => none

def substitute? : Char → Option Substitute
  | '-' => some .default
  | '=' => some .assign
  | '?' => some .complain
  | '+' => some .alternative
  | _ => none

def parameterUse (word : Position → Reader Word) (quoted : Bool) : Octets → Reader ParameterUse
  | '}' :: cs => do
    goOn cs
    return .value
  | '%' :: '%' :: cs => do
    goOn cs
    return .trim false true (← word (.braces false))
  | '%' :: cs => do
    goOn cs
    return .trim false false (← word (.braces false))
  | '#' :: '#' :: cs => do
    goOn cs
    return .trim true true (← word (.braces false))
  | '#' :: cs => do
    goOn cs
    return .trim true false (← word (.braces false))
  | cs => do
    let (orEmpty, sign, rest) := match cs with
      | ':' :: c :: rest => (true, substitute? c, rest)
      | c :: rest => (false, substitute? c, rest)
      | [] => (false, none, [])
    match sign with
    | some kind =>
      goOn rest
      return .substitute kind orEmpty (← word (.braces quoted))
    | none =>
      goOn cs
      let _ ← word (.braces quoted)
      return .malformed

def braced (word : Position → Reader Word) (quoted : Bool) (cs : Octets) : Reader Piece := do
  let length := match cs with
    | '#' :: rest => lengthOf? rest
    | _ => none
  match length with
  | some (name, rest) =>
    goOn rest
    return .parameter name .length quoted
  | none =>
    match parameterName? cs with
    | some (name, rest) => return .parameter name (← parameterUse word quoted rest) quoted
    | none =>
      goOn cs
      let _ ← word (.braces quoted)
      return .parameter [] .malformed quoted

def dollar (inner : Inner) (word : Position → Reader Word) (quoted : Bool) : Octets → Reader Piece
  | '(' :: '(' :: cs => do
    goOn cs
    return .arithmetic (← word (.arithmetic 0)).compress quoted
  | '(' :: cs => do
    goOn cs
    return .output (← nested (inner true)) quoted
  | '{' :: cs => braced word quoted cs
  | c :: cs => do
    if Word.isNameStart c then
      goOn (cs.dropWhile Word.isNameChar)
      return .parameter (c :: cs.takeWhile Word.isNameChar) .value quoted
    else if isSpecialParameter c then
      goOn cs
      return .parameter [c] .value quoted
    else
      goOn (c :: cs)
      return .text ['$'] quoted
  | [] => do
    goOn []
    return .text ['$'] quoted

def backquoted? (quoted : Bool) : Octets → Option (Octets × Octets)
  | [] => none
  | '\x60' :: cs => some ([], cs)
  | ['\\'] => none
  | '\\' :: c :: cs => do
    let (script, rest) ← backquoted? quoted cs
    if c == '$' || c == '\\' || c == '\x60' || (quoted && c == '"') then some (c :: script, rest)
    else some ('\\' :: c :: script, rest)
  | c :: cs => do
    let (script, rest) ← backquoted? quoted cs
    some (c :: script, rest)

def hasAllParameters (w : Word) : Bool :=
  w.any fun p => match p with
    | .parameter ['@'] _ _ => true
    | _ => false

/-- Reads the pieces of a word up to its end, in at most `steps` steps. -/
def pieces (inner : Inner) : (steps : Nat) → Position → Reader Word
  | 0, _ => pure []
  | steps + 1, place => do
    let s ← get
    let quoted := place.isQuoted
    let add (p : Piece) (rest : Octets) : Reader Word := do
      goOn rest
      return p :: (← pieces inner steps place)
    match s.rest with
    | [] =>
      match place with
      | .plain | .document => return []
      | .doubleQuotes | .braces true => fail .openQuote
      | .braces false => fail .openBrace
      | .arithmetic _ => fail .openArithmetic
    | '\\' :: '\n' :: cs =>
      countLine
      goOn cs
      pieces inner steps place
    | ['\\'] => add (.text ['\\'] true) []
    | '\\' :: c :: cs =>
      match place.quotable? with
      | none => add (.text [c] true) cs
      | some chars =>
        if chars.contains c then add (.text [c] true) cs else add (.text ['\\'] true) (c :: cs)
    | '$' :: cs =>
      let p ← dollar inner (pieces inner steps) quoted cs
      return p :: (← pieces inner steps place)
    | '\x60' :: cs =>
      match backquoted? (place == .doubleQuotes) cs with
      | none =>
        modify fun s => { s with line := s.line + cs.count '\n' }
        fail .openBackquote
      | some (script, rest) =>
        let body ← within script (inner false)
        modify fun s => { s with line := s.line + script.count '\n' }
        add (.output body quoted) rest
    | '\'' :: cs =>
      if place.hasQuotes then
        let text := cs.takeWhile (· != '\'')
        modify fun s => { s with line := s.line + text.count '\n' }
        match cs.drop text.length with
        | _ :: rest => add (.text text true) rest
        | [] => fail .openQuote
      else add (.text ['\''] true) cs
    | '"' :: cs =>
      if place == .doubleQuotes then
        goOn cs
        return []
      else if place.hasQuotes || place == .braces true then
        goOn cs
        let text ← pieces inner steps .doubleQuotes
        let mark := if hasAllParameters text then [] else [.text [] true]
        return mark ++ text ++ (← pieces inner steps place)
      else add (.text ['"'] true) cs
    | c :: cs =>
      if c == '\n' && place != .plain then countLine
      match place with
      | .plain => if endsWord c then return [] else add (.text [c] false) cs
      | .braces _ =>
        if c == '}' then
          goOn cs
          return []
        else add (.text [c] quoted) cs
      | .arithmetic depth =>
        if c == '(' then
          goOn cs
          return .text [c] true :: (← pieces inner steps (.arithmetic (depth + 1)))
        else if c == ')' then
          match depth, cs with
          | depth + 1, _ =>
            goOn cs
            return .text [c] true :: (← pieces inner steps (.arithmetic depth))
          | 0, ')' :: rest =>
            goOn rest
            return []
          | 0, _ => add (.text [c] true) cs
        else add (.text [c] true) cs
      | .doubleQuotes | .document => add (.text [c] true) cs

def plainWord (inner : Inner) : Reader Word := do
  return (← pieces inner ((← get).rest.length + 1) .plain).compress

/-- Cuts a document off a text: its lines, how many lines are read, and what follows. -/
def cutDocument (d : PendingDocument) : (count : Nat) → Octets → Octets × Nat × Octets
  | 0, cs => ([], 0, cs)
  | _, [] => ([], 0, [])
  | count + 1, cs =>
    let line := cs.takeWhile (· != '\n')
    let rest := cs.drop (line.length + 1)
    let line := if d.stripped then line.dropWhile (· == '\t') else line
    if line == d.delimiter then ([], 1, rest)
    else
      let ended := cs.length > line.length && cs.contains '\n'
      let (body, lines, rest) := cutDocument d count rest
      (line ++ (if ended then ['\n'] else []) ++ body, lines + 1, rest)

def readDocument (inner : Inner) (d : PendingDocument) : Reader Unit := do
  let s ← get
  let (body, lines, rest) := cutDocument d (s.rest.length + 1) s.rest
  let w ← if d.literal then pure [.text body true]
    else within body (pieces inner (body.length + 1) .document)
  modify fun s => { s with
    rest
    line := s.line + lines
    documents := (d.number, Word.compress w) :: s.documents }

def readDocuments (inner : Inner) : Reader Unit := do
  let pending := (← get).pending
  modify fun s => { s with pending := [] }
  pending.forM (readDocument inner)

def skipBlanks (line : Nat) : Octets → Nat × Octets
  | '\\' :: '\n' :: cs => skipBlanks (line + 1) cs
  | c :: cs =>
    if isBlank c then skipBlanks line cs
    else if c == '#' then (line, cs.dropWhile (· != '\n'))
    else (line, c :: cs)
  | [] => (line, [])

def signName : Octets → String
  | [] => Token.eof.name
  | '\n' :: _ => Token.newline.name
  | ';' :: ';' :: _ => Token.doubleSemicolon.name
  | ';' :: _ => Token.semicolon.name
  | '&' :: '&' :: _ => Token.doubleAmpersand.name
  | '&' :: _ => Token.ampersand.name
  | '|' :: '|' :: _ => Token.doubleBar.name
  | '|' :: _ => Token.bar.name
  | '(' :: _ => Token.opening.name
  | ')' :: _ => Token.closing.name
  | _ => "redirection"

def targetWord (inner : Inner) : Reader Word := do
  let s ← get
  let (line, rest) := skipBlanks s.line s.rest
  set { s with line, rest }
  match rest with
  | c :: _ => if endsWord c then fail (.unexpected (signName rest) none) else plainWord inner
  | [] => fail (.unexpected (signName []) none)

def announce (inner : Inner) (stripped : Bool) : Reader RedirectTarget := do
  let w ← targetWord inner
  let text := w.flatMap fun p => match p with
    | .text s _ => s
    | _ => []
  let literal := w.any fun p => match p with
    | .text _ true => true
    | _ => false
  let number := (← get).nextDocument
  modify fun s => { s with
    nextDocument := number + 1
    pending := s.pending ++ [{ number, delimiter := text, stripped, literal }] }
  return .document number

def redirect (inner : Inner) (handle : Option Nat) : Octets → Reader Redirect
  | '>' :: '>' :: cs => do
    goOn cs
    return .mk (handle.getD 1) (.append (← targetWord inner))
  | '>' :: '&' :: cs => do
    goOn cs
    return .mk (handle.getD 1) (.handle (← targetWord inner))
  | '>' :: '|' :: cs | '>' :: cs => do
    goOn cs
    return .mk (handle.getD 1) (.write (← targetWord inner))
  | '<' :: '<' :: '-' :: cs => do
    goOn cs
    return .mk (handle.getD 0) (← announce inner true)
  | '<' :: '<' :: cs => do
    goOn cs
    return .mk (handle.getD 0) (← announce inner false)
  | '<' :: '&' :: cs => do
    goOn cs
    return .mk (handle.getD 0) (.handle (← targetWord inner))
  | '<' :: '>' :: cs | _ :: cs => do
    goOn cs
    return .mk (handle.getD 0) (.read (← targetWord inner))
  | [] => fail (.unexpected (signName []) none)

def token (inner : Inner) : Reader Token := do
  let s ← get
  match s.pushed with
  | some t =>
    set { s with pushed := none }
    return t
  | none =>
    let (line, rest) := skipBlanks s.line s.rest
    set { s with line, rest }
    let sign (t : Token) (rest : Octets) : Reader Token := do
      goOn rest
      return t
    match rest with
    | [] => return .eof
    | '\n' :: cs =>
      countLine
      goOn cs
      readDocuments inner
      return .newline
    | ';' :: ';' :: cs => sign .doubleSemicolon cs
    | ';' :: cs => sign .semicolon cs
    | '&' :: '&' :: cs => sign .doubleAmpersand cs
    | '&' :: cs => sign .ampersand cs
    | '|' :: '|' :: cs => sign .doubleBar cs
    | '|' :: cs => sign .bar cs
    | '(' :: cs => sign .opening cs
    | ')' :: cs => sign .closing cs
    | c :: cs =>
      if c == '<' || c == '>' then return .redirect (← redirect inner none rest)
      else
        match cs with
        | d :: _ =>
          if c.isDigit && (d == '<' || d == '>') then
            return .redirect (← redirect inner (some (c.toNat - '0'.toNat)) cs)
          else return .word (← plainWord inner)
        | [] => return .word (← plainWord inner)

def tokenAfterLines (inner : Inner) : (count : Nat) → Reader Token
  | 0 => token inner
  | count + 1 => do
    match ← token inner with
    | .newline => tokenAfterLines inner count
    | t => return t

/-- The next token, after line ends if `skipping` holds. -/
def next (inner : Inner) (skipping : Bool) : Reader Token := do
  if skipping then tokenAfterLines inner ((← get).rest.length + 1) else token inner

def push (t : Token) : Reader Unit :=
  modify fun s => { s with pushed := some t }

end Stencil.Shell
