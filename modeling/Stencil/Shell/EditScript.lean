import Stencil.Shell.Regex

/-!
# Edit scripts

The scripts of the stream editor: which lines a command is for, and what it does with them.
-/

namespace Stencil.Shell.EditScript

/-- A regular expression of a script; none stands for the one that was used last. -/
structure Search where
  regex : Option Regex
  folding : Bool := false

inductive Address where
  | line (n : Nat)
  /-- Every so many lines from the first one on. -/
  | every (first step : Nat)
  | last
  | search (s : Search)

inductive RangeEnd where
  | address (a : Address)
  /-- So many lines later. -/
  | later (count : Nat)
  /-- The next line whose number is a multiple. -/
  | multiple (n : Nat)

structure LineRange where
  first : Option Address := none
  last : Option RangeEnd := none
  negated : Bool := false

inductive CaseChange where
  | upper
  | lower
  | upperNext
  | lowerNext
  | none
  deriving DecidableEq, Repr

inductive Replacement where
  | text (c : Char)
  | group (n : Nat)
  | change (c : CaseChange)

structure Substitution where
  search : Search
  replacement : List Replacement
  global : Bool := false
  /-- The number of the first fit that is replaced. -/
  number : Nat := 1
  print : Bool := false
  file : Option Octets := Option.none

inductive Verb where
  | substitute (s : Substitution)
  | transliterate (pairs : List (Char × Char))
  | append (text : Octets)
  | insert (text : Octets)
  | change (text : Octets)
  | delete
  | deleteFirst
  | print
  | printFirst
  | printNumber
  | printName
  /-- Shows the line in visible characters, broken at a width. -/
  | list (width : Option Nat)
  | nothing
  | next
  | joinNext
  | hold
  | joinHold
  | recall
  | joinRecall
  | exchange
  | clear
  | quit (code : Nat) (printing : Bool)
  | read (file : Octets)
  | write (file : Octets)
  | label (name : Octets)
  | branch (label : Octets)
  | branchIf (label : Octets)
  | branchUnless (label : Octets)
  | openBlock
  | closeBlock

structure Step where
  lines : LineRange
  verb : Verb

inductive Fault where
  | unterminatedSearch
  | unterminatedSubstitution
  | unterminatedTransliteration
  | unknownOption
  | severalPrints
  | severalGlobals
  | severalNumbers
  | numberZero
  | lengths
  | unknownCommand (c : Char)
  | missingCommand
  | extraCharacters
  | unexpectedComma
  | relativeFirst
  | severalNegations
  | unexpectedClose
  | closeWithAddress
  | labelWithAddress
  | commentWithAddress
  | missingLabel
  | missingFile
  | missingText
  | oneAddress
  | lineZero
  | reference (n : Nat)
  | regex (f : RegexFault)
  | openBlock
  deriving DecidableEq, Repr

namespace Fault

def named (before : String) (name : String) (after : String) : String :=
  before ++ "`" ++ name ++ "'" ++ after

def message : Fault → String
  | unterminatedSearch => "unterminated address regex"
  | unterminatedSubstitution => named "unterminated " "s" " command"
  | unterminatedTransliteration => named "unterminated " "y" " command"
  | unknownOption => named "unknown option to " "s" ""
  | severalPrints => named (named "multiple " "p" " options to ") "s" " command"
  | severalGlobals => named (named "multiple " "g" " options to ") "s" " command"
  | severalNumbers => named "multiple number options to " "s" " command"
  | numberZero => named "number option to " "s" " command may not be zero"
  | lengths => named "strings for " "y" " command are different lengths"
  | unknownCommand c => named "unknown command: " c.toString ""
  | missingCommand => "missing command"
  | extraCharacters => "extra characters after command"
  | relativeFirst => "invalid usage of +N or ~N as first address"
  | unexpectedComma => named "unexpected " "," ""
  | severalNegations => named "multiple " "!" "s"
  | unexpectedClose => named "unexpected " r"}" ""
  | closeWithAddress => named "" r"}" " doesn't want any addresses"
  | labelWithAddress => ": doesn't want any addresses"
  | commentWithAddress => "comments don't accept any addresses"
  | missingLabel => "\":\" lacks a label"
  | missingFile => "missing filename in r/R/w/W commands"
  | missingText => named (named (named "expected \\ after " "a" ", ") "c" " or ") "i" ""
  | oneAddress => "command only uses one address"
  | lineZero => "invalid usage of line address 0"
  | reference n => named ("invalid reference \\" ++ toString n ++ " on ") "s" " command's RHS"
  | regex f => f.message
  | openBlock => named "unmatched " r"{" ""

end Fault

/-- What is left of a script while it is read, and the places where blocks have been opened, the
last one first. -/
structure Reading where
  rest : Octets
  blocks : List Nat := []

/-- Reads a script; where it cannot go on it tells how much was left. -/
abbrev Reader := StateT Reading (Except (Nat × Fault))

namespace Reader

def fail {α : Type} (f : Fault) : Reader α := do
  throw ((← get).rest.length, f)

def goOn (rest : Octets) : Reader Unit :=
  modify fun s => { s with rest }

def next? : Reader (Option Char) := do
  match (← get).rest with
  | c :: rest =>
    goOn rest
    return some c
  | [] => return none

def isBlank (c : Char) : Bool :=
  c == ' ' || c == '\t'

def skipBlanks : Reader Unit :=
  modify fun s => { s with rest := s.rest.dropWhile isBlank }

def number : Reader Nat := do
  let s ← get
  goOn (s.rest.dropWhile Char.isDigit)
  return (Octets.nat? (s.rest.takeWhile Char.isDigit)).getD 0

inductive SetPlace where
  | outside
  /-- After the opening bracket, where a closing one would stand for itself. -/
  | start
  | inside
  /-- In a class, up to the sign that closes it. -/
  | name (sign : Char)
  deriving DecidableEq

def SetPlace.next (p : SetPlace) (c : Char) (rest : Octets) : SetPlace :=
  match p with
  | .outside => if c == '[' then .start else .outside
  | .start => if c == '^' then .start else .inside
  | .name sign => if c == sign && rest.head? == some ']' then .inside else p
  | .inside =>
    if c == ']' then .outside
    else
      match c, rest with
      | '[', ':' :: _ => .name ':'
      | '[', '.' :: _ => .name '.'
      | '[', '=' :: _ => .name '='
      | _, _ => .inside

/-- A text up to a sign, which a backslash or a set takes its meaning from, and what follows. In a
regular expression `\n` stands for the end of a line. -/
def upTo? (sign : Char) (inSearch : Bool) (place : SetPlace) (text : Octets) :
    Octets → Option (Octets × Octets)
  | [] => none
  | '\\' :: c :: cs =>
    if c == '\n' || (c == 'n' && inSearch) then
      upTo? sign inSearch (if place == .outside then place else .inside) ('\n' :: text) cs
    else if place != .outside then
      upTo? sign inSearch (SetPlace.inside.next c cs) (c :: '\\' :: text) cs
    else if c == sign then
      upTo? sign inSearch place (if !inSearch && c == '&' then c :: '\\' :: text else c :: text) cs
    else upTo? sign inSearch place (c :: '\\' :: text) cs
  | c :: cs =>
    if c == sign && place == .outside then some (text.reverse, cs)
    else if c == '\n' then none
    else upTo? sign inSearch (if inSearch then place.next c cs else place) (c :: text) cs

def delimited (sign : Char) (inSearch : Bool) (fault : Fault) : Reader Octets := do
  let s ← get
  match upTo? sign inSearch .outside [] s.rest with
  | some (text, rest) =>
    goOn rest
    return text
  | none =>
    let (line, _) := s.rest.span (· != '\n')
    goOn (s.rest.drop line.length)
    fail fault

/-- The number that digits of a base stand for, at most `count` of them. -/
def digits (base count : Nat) (cs : Octets) : Option (Char × Octets) :=
  let value (c : Char) : Nat :=
    if c.isDigit then c.toNat - '0'.toNat
    else if 'a' ≤ c.toLower && c.toLower ≤ 'f' then c.toLower.toNat - 'a'.toNat + 10
    else base
  let ds := (cs.take count).takeWhile fun c => value c < base
  if ds.isEmpty then none
  else some (Char.ofNat (ds.foldl (fun n d => n * base + value d) 0 % 256), cs.drop ds.length)

def numbered? : Octets → Option (Char × Octets)
  | 'd' :: cs => digits 10 3 cs
  | 'o' :: cs => digits 8 3 cs
  | 'x' :: cs => digits 16 2 cs
  | _ => none

/-- An expression in which characters stand for the numbers that name them; `count` bounds the
number of steps. -/
def plainEscapes : (count : Nat) → Octets → Octets
  | 0, cs => cs
  | count + 1, '\\' :: c :: cs =>
    match numbered? (c :: cs) with
    | some (x, rest) =>
      (if ".[]*^$\\/".contains x then ['\\', x] else [x]) ++ plainEscapes count rest
    | none =>
      match c with
      | 'a' => '\x07' :: plainEscapes count cs
      | 'f' => '\x0c' :: plainEscapes count cs
      | 'v' => '\x0b' :: plainEscapes count cs
      | 'r' => '\r' :: plainEscapes count cs
      | c => '\\' :: c :: plainEscapes count cs
  | count + 1, c :: cs => c :: plainEscapes count cs
  | _, [] => []

/-- The expression of a text; an empty text stands for the last one that was used. -/
def search (extended : Bool) (folding : Bool) (text : Octets) : Reader Search := do
  if text.isEmpty then return { regex := none, folding }
  match Regex.parse ⟨extended, false⟩ (plainEscapes (text.length + 1) text) with
  | .ok r => return { regex := some r, folding }
  | .error e => fail (.regex e)

def address? (extended : Bool) : Reader (Option Address) := do
  let searched (sign : Char) : Reader (Option Address) := do
    let text ← delimited sign true .unterminatedSearch
    let flags := (← get).rest.takeWhile fun c => c == 'I' || c == 'M'
    goOn ((← get).rest.drop flags.length)
    return some (.search (← search extended (flags.contains 'I') text))
  match (← get).rest with
  | '/' :: rest =>
    goOn rest
    searched '/'
  | '\\' :: sign :: rest =>
    goOn rest
    searched sign
  | '$' :: rest =>
    goOn rest
    return some .last
  | c :: _ =>
    if !c.isDigit then return none
    let n ← number
    skipBlanks
    match (← get).rest with
    | '~' :: rest =>
      goOn rest
      skipBlanks
      let step ← number
      return some (if step == 0 then .line n else .every n step)
    | _ => return some (.line n)
  | [] => return none

def rangeEnd? (extended : Bool) : Reader (Option RangeEnd) := do
  match (← get).rest with
  | '+' :: c :: rest =>
    if !c.isDigit then return none
    goOn (c :: rest)
    return some (.later (← number))
  | '~' :: c :: rest =>
    if !c.isDigit then return none
    goOn (c :: rest)
    return some (.multiple (← number))
  | _ => return (← address? extended).map .address

def selection (extended : Bool) : Reader LineRange := do
  match (← get).rest with
  | sign :: c :: rest =>
    if (sign == '+' || sign == '~') && c.isDigit then
      goOn rest
      fail .relativeFirst
  | _ => pure ()
  let first ← address? extended
  if first.isSome then skipBlanks
  let last ← match first, (← get).rest with
    | some _, ',' :: rest => do
      goOn rest
      skipBlanks
      match ← rangeEnd? extended with
      | some e => pure (some e)
      | none =>
        let _ ← next?
        fail .unexpectedComma
    | _, _ => pure none
  skipBlanks
  match first, last with
  | some (.line 0), some (.address (.search _)) => pure ()
  | some (.line 0), _ =>
    let _ ← next?
    fail .lineZero
  | _, _ => pure ()
  match (← get).rest with
  | '!' :: rest =>
    goOn rest
    skipBlanks
    match (← get).rest with
    | '!' :: rest =>
      goOn rest
      fail .severalNegations
    | _ => return { first, last, negated := true }
  | _ => return { first, last }

def commandEnd : Reader Unit := do
  skipBlanks
  match (← get).rest with
  | [] => return
  | c :: rest =>
    if c == '}' || c == '#' then return
    goOn rest
    if c != '\n' && c != ';' then fail .extraCharacters

def fileName : Reader Octets := do
  skipBlanks
  let s ← get
  let name := s.rest.takeWhile (· != '\n')
  goOn (s.rest.drop name.length)
  if name.isEmpty then fail .missingFile
  return name

def labelName (semicolonEnds : Bool) : Reader Octets := do
  skipBlanks
  let s ← get
  let ends (c : Char) : Bool :=
    c == '\n' || isBlank c || (semicolonEnds && c == ';')
  let name := s.rest.takeWhile (!ends ·)
  goOn (s.rest.drop name.length)
  return name

/-- What a letter after a backslash stands for in every text of a script. -/
def escape? : Octets → Option (Char × Octets)
  | 'a' :: cs => some ('\x07', cs)
  | 'f' :: cs => some ('\x0c', cs)
  | 'n' :: cs => some ('\n', cs)
  | 'r' :: cs => some ('\r', cs)
  | 't' :: cs => some ('\t', cs)
  | 'v' :: cs => some ('\x0b', cs)
  | cs => numbered? cs

/-- The text of a command that has one: to the end of a line that does not end in a backslash.
`count` bounds the number of steps. -/
def textLines : (count : Nat) → Octets → Octets × Octets
  | 0, cs => ([], cs)
  | _, [] => (['\n'], [])
  | count + 1, c :: cs =>
    let go (c : Char) (cs : Octets) : Octets × Octets :=
      let (text, rest) := textLines count cs
      (c :: text, rest)
    match c, cs with
    | '\n', _ => (['\n'], cs)
    | '\\', [] => (['\n'], [])
    | '\\', d :: ds =>
      match escape? cs with
      | some (x, rest) => go x rest
      | none => go d ds
    | _, _ => go c cs

def text : Reader Octets := do
  skipBlanks
  let rest ← match (← get).rest with
    | [] => fail .missingText
    | '\\' :: cs =>
      match cs.dropWhile isBlank with
      | '\n' :: after => pure after
      | [] =>
        goOn []
        return []
      | _ => pure cs
    | cs => pure cs
  let (text, rest) := textLines (rest.length + 1) rest
  goOn rest
  return text

def replacement : (count : Nat) → Octets → List Replacement
  | 0, _ => []
  | _, [] => []
  | count + 1, '&' :: cs => .group 0 :: replacement count cs
  | count + 1, '\\' :: c :: cs =>
    if c.isDigit then .group (c.toNat - '0'.toNat) :: replacement count cs
    else
      match c with
      | 'U' => .change .upper :: replacement count cs
      | 'L' => .change .lower :: replacement count cs
      | 'u' => .change .upperNext :: replacement count cs
      | 'l' => .change .lowerNext :: replacement count cs
      | 'E' => .change .none :: replacement count cs
      | _ =>
        match escape? (c :: cs) with
        | some (x, rest) => .text x :: replacement count rest
        | none => .text c :: replacement count cs
  | count + 1, c :: cs => .text c :: replacement count cs

def options : (count : Nat) → Substitution → Bool → Reader (Substitution × Bool)
  | 0, s, folding => pure (s, folding)
  | count + 1, s, folding => do
    match (← get).rest with
    | [] => return (s, folding)
    | c :: rest =>
      if c == '}' || c == '#' then return (s, folding)
      if c.isDigit then
        let n ← number
        if s.number != 0 then fail .severalNumbers
        if n == 0 then fail .numberZero
        options count { s with number := n } folding
      else
        goOn rest
        match c with
        | '\n' | ';' => return (s, folding)
        | ' ' | '\t' => options count s folding
        | 'i' | 'I' => options count s true
        | 'm' | 'M' | 'e' => options count s folding
        | 'g' =>
          if s.global then fail .severalGlobals
          options count { s with global := true } folding
        | 'p' =>
          if s.print then fail .severalPrints
          options count { s with print := true } folding
        | 'w' => return ({ s with file := some (← fileName) }, folding)
        | _ => fail .unknownOption

def substitution (extended : Bool) : Reader Substitution := do
  let sign ← match (← get).rest with
    | c :: rest =>
      goOn rest
      if c == '\n' || c == '\\' then fail .unterminatedSubstitution
      pure c
    | [] => fail .unterminatedSubstitution
  let pattern ← delimited sign true .unterminatedSubstitution
  let text ← delimited sign false .unterminatedSubstitution
  let parts := replacement (text.length + 1) text
  let start : Substitution := { search := { regex := none }, replacement := parts, number := 0 }
  let (s, folding) ← options ((← get).rest.length + 1) start false
  let found ← search extended folding pattern
  let most := parts.foldl (fun n part => match part with
    | .group k => max n k
    | _ => n) 0
  match found.regex with
  | some r => if most > Regex.groupCount r then fail (.reference most)
  | none => pure ()
  return { s with search := found, number := max s.number 1 }

/-- A text in which a backslash stands before itself or a line end. -/
def plainText : Octets → Octets
  | '\\' :: '\\' :: cs => '\\' :: plainText cs
  | '\\' :: 'n' :: cs => '\n' :: plainText cs
  | '\\' :: 't' :: cs => '\t' :: plainText cs
  | '\\' :: c :: cs => c :: plainText cs
  | c :: cs => c :: plainText cs
  | [] => []

def transliteration : Reader Verb := do
  let sign ← match ← next? with
    | some c => pure c
    | none => fail .unterminatedTransliteration
  let source ← delimited sign false .unterminatedTransliteration
  let target ← delimited sign false .unterminatedTransliteration
  let (source, target) := (plainText source, plainText target)
  if source.length != target.length then fail .lengths
  commandEnd
  return .transliterate (source.zip target)

def verb (extended : Bool) (lines : LineRange) : Reader (Option Verb) := do
  let plain (v : Verb) : Reader (Option Verb) := do
    commandEnd
    return some v
  let one (v : Verb) : Reader (Option Verb) := do
    if lines.last.isSome then fail .oneAddress
    plain v
  match ← next? with
  | none => fail .missingCommand
  | some c =>
    match c with
    | '#' =>
      if lines.first.isSome then fail .commentWithAddress
      modify fun s => { s with rest := s.rest.dropWhile (· != '\n') }
      return none
    | '{' =>
      modify fun s => { s with blocks := s.rest.length :: s.blocks }
      return some .openBlock
    | '}' =>
      match (← get).blocks with
      | [] => fail .unexpectedClose
      | _ :: blocks =>
        if lines.first.isSome then fail .closeWithAddress
        modify fun s => { s with blocks }
        plain .closeBlock
    | 's' => return some (.substitute (← substitution extended))
    | 'y' => return some (← transliteration)
    | 'a' => return some (.append (← text))
    | 'i' => return some (.insert (← text))
    | 'c' => return some (.change (← text))
    | 'd' => plain .delete
    | 'D' => plain .deleteFirst
    | 'p' => plain .print
    | 'P' => plain .printFirst
    | '=' => plain .printNumber
    | 'F' => plain .printName
    | 'l' =>
      skipBlanks
      let isWidth := ((← get).rest.head?.map Char.isDigit).getD false
      let n ← number
      plain (.list (if isWidth then some n else none))
    | 'v' =>
      let _ ← labelName true
      plain .nothing
    | 'n' => plain .next
    | 'N' => plain .joinNext
    | 'h' => plain .hold
    | 'H' => plain .joinHold
    | 'g' => plain .recall
    | 'G' => plain .joinRecall
    | 'x' => plain .exchange
    | 'z' => plain .clear
    | 'q' | 'Q' =>
      if lines.last.isSome then fail .oneAddress
      skipBlanks
      let code ← number
      one (.quit (code % 256) (c == 'q'))
    | 'r' => return some (.read (← fileName))
    | 'w' => return some (.write (← fileName))
    | ':' =>
      if lines.first.isSome then fail .labelWithAddress
      let name ← labelName true
      if name.isEmpty then fail .missingLabel
      return some (.label name)
    | 'b' => plain (.branch (← labelName true))
    | 't' => plain (.branchIf (← labelName true))
    | 'T' => plain (.branchUnless (← labelName true))
    | '\n' | ';' => fail .missingCommand
    | c => fail (.unknownCommand c)

def steps (extended : Bool) : (count : Nat) → Reader (List Step)
  | 0 => pure []
  | count + 1 => do
    modify fun s => { s with rest := s.rest.dropWhile fun c => c == ';' || c == '\n' || isBlank c }
    if (← get).rest.isEmpty then return []
    let lines ← selection extended
    match ← verb extended lines with
    | some verb => return { lines, verb } :: (← steps extended count)
    | none => steps extended count

end Reader

/-- The commands of a script, or how much of it was left where it could not be read. -/
def parse (extended : Bool) (script : Octets) : Except (Nat × Fault) (List Step) := do
  let (steps, s) ← (Reader.steps extended (script.length + 1)).run { rest := script }
  match s.blocks with
  | [] => return steps
  | left :: _ => throw (left, .openBlock)

end Stencil.Shell.EditScript
