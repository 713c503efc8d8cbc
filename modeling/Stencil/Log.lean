import Stencil.Text.CharClass
import Stencil.Text.Search

/-!
# Log filters

Which reports are printed. A filter is a list of directives: levels, levels for those parts of the
program whose names begin with a text, and levels for reports with certain fields. The most specific
directive that is about a report decides.
-/

namespace Stencil

inductive LogLevel where
  | off
  | error
  | warn
  | info
  | debug
  | trace
  deriving DecidableEq, Repr

namespace LogLevel

def rank : LogLevel → Nat
  | off => 0
  | error => 1
  | warn => 2
  | info => 3
  | debug => 4
  | trace => 5

def all : List LogLevel := [off, error, warn, info, debug, trace]

def name : LogLevel → String
  | off => "off"
  | error => "error"
  | warn => "warn"
  | info => "info"
  | debug => "debug"
  | trace => "trace"

def rankOf? (cs : List Char) : Option Nat :=
  let digits := match cs with
    | '+' :: ds => ds
    | ds => ds
  if digits.isEmpty || !digits.all Char.isDigit then none
  else some (digits.foldl (fun n d => n * 10 + (d.toNat - '0'.toNat)) 0)

/-- The level with a rank, or with a name in any case. -/
def ofText? (cs : List Char) : Option LogLevel :=
  match rankOf? cs with
  | some n => all.find? (·.rank == n)
  | none => all.find? (·.name == String.ofList (cs.map Char.toLower))

end LogLevel

/-- What a filter looks at in a report: its level, the part of the program that it comes from, and
the names of its fields. -/
structure LogEvent where
  level : LogLevel
  origin : String
  fields : List String

/-- A level for the reports of the parts of the program whose names begin with a text, if one is
given, and that have all of some fields. -/
structure LogDirective where
  part : Option (List Char) := none
  fields : List (List Char) := []
  /-- Whether the directive is about reports at all, and not about what they are made within. -/
  aboutReports : Bool := true
  level : LogLevel := .trace
  deriving DecidableEq, Repr

namespace LogDirective

/-- A directive that is being read: each character in which signs are looked for, with the character
that counts at its place. The two differ if blanks stand before the directive, as these are skipped
in looking for signs only. -/
abbrev Cells := List (Char × Char)

def texts (cells : Cells) : List Char :=
  cells.map (·.2)

def cut (signs : List Char) (cells : Cells) : Cells × Cells :=
  (cells.takeWhile (!signs.contains ·.1), cells.dropWhile (!signs.contains ·.1))

/-- Whether a text is a pattern for the values of a field, as far as signs of repetition, groups and
sets go; `fresh` tells that there is nothing before it that could be repeated. -/
def isPattern (fresh : Bool) (groups : Nat) : List Char → Bool
  | [] => groups == 0
  | ['\\'] => false
  | '\\' :: _ :: cs => isPattern false groups cs
  | '(' :: '?' :: cs => isPattern true (groups + 1) cs
  | c :: cs =>
    if c == '(' then isPattern true (groups + 1) cs
    else if c == ')' then groups > 0 && isPattern false (groups - 1) cs
    else if c == '|' then isPattern true groups cs
    else if c == '*' || c == '+' || c == '?' then !fresh && isPattern false groups cs
    else if c == '[' then cs.contains ']' && isPattern false groups cs
    else if c == '{' then false
    else isPattern false groups cs

/-- Reads the field of a directive. A field with a value is never that of a report. -/
def withField? (d : LogDirective) (field : List Char) : Option LogDirective :=
  match field.dropWhile (· != '=') with
  | _ :: value =>
    if isPattern true 0 (value.takeWhile (· != '=')) then some { d with aboutReports := false }
    else none
  | [] => if field.isEmpty then none else some { d with fields := [field] }

/-- Reads the level, which may be left out; `tail` are the characters that count after the last
one. -/
def level? (d : LogDirective) (tail : List Char) (cells : Cells) : Option LogDirective :=
  let text := texts cells ++ tail
  if text.isEmpty then some d else (LogLevel.ofText? text).map fun level => { d with level }

def afterBrackets? (d : LogDirective) (tail : List Char) : Cells → Option LogDirective
  | [] => some d
  | ('=', _) :: rest => d.level? tail rest
  | _ => none

/-- Reads what stands in brackets: the name of what reports are made within, and a field in
braces. -/
def brackets? (d : LogDirective) (tail : List Char) (cells : Cells) : Option LogDirective := do
  let (name, rest) := cut [']', '{'] cells
  match rest with
  | (']', _) :: rest => afterBrackets? { d with aboutReports := false } tail rest
  | ('{', _) :: rest =>
    let (field, rest) := cut ['}'] rest
    match rest with
    | _ :: (']', _) :: rest =>
      let d ← withField? { d with aboutReports := name.isEmpty } (texts field)
      d.afterBrackets? tail rest
    | _ => none
  | _ => none

def isStart (c : Char) : Bool :=
  isAlphanumeric c || c == '-' || c == ':' || c == '_'

def parse? (text : List Char) : Option LogDirective :=
  let trimmed := trimBy isBlank text
  let cells := trimmed.zip text
  let tail := text.drop trimmed.length
  match cells with
  | [] => none
  | ('[', _) :: rest => brackets? {} tail rest
  | (c, _) :: _ =>
    if isStart c then
      let (name, rest) := cut ['=', '['] cells
      match rest with
      | [] =>
        let whole := texts name ++ tail
        match LogLevel.ofText? whole with
        | some level => some { level }
        | none => some { part := some whole }
      | ('=', _) :: rest => level? { part := some (texts name) } tail rest
      | _ :: rest => brackets? { part := some (texts name) } tail rest
    else none

def covers (d : LogDirective) (e : LogEvent) : Bool :=
  d.aboutReports && startsWith (d.part.getD []) e.origin.toList &&
    d.fields.all fun f => e.fields.contains (String.ofList f)

/-- How specific a directive is: by the length of the text for the part, then by the number of
fields, then by the texts themselves. -/
def isAsSpecific (d d' : LogDirective) : Bool :=
  let size (d : LogDirective) : Option Nat := d.part.map fun p => (String.ofList p).utf8ByteSize
  let key (d : LogDirective) : List (List Char) := d.part.getD [] :: d.fields
  match compare (size d) (size d') with
  | .gt => true
  | .lt => false
  | .eq =>
    match compare d.fields.length d'.fields.length with
    | .gt => true
    | .lt => false
    | .eq => !(key d).lex (key d') fun s t => s.lex t fun a b => Nat.blt a.toNat b.toNat

end LogDirective

structure LogFilter where
  directives : List LogDirective
  deriving DecidableEq, Repr

namespace LogFilter

/-- The filter that holds if none is given, or none that can be read. -/
def default : LogFilter := ⟨[{ level := .info }]⟩

def variableName : String := "RUST_LOG"

def ofVariable (value : Option String) : LogFilter :=
  match value with
  | none => default
  | some text =>
    match ((splitOnChar ',' text.toList).filter (!·.isEmpty)).mapM LogDirective.parse? with
    | some directives => ⟨directives⟩
    | none => default

/-- Whether a report is printed: the most specific directive about it decides, of two equally
specific ones the later. -/
def shows (f : LogFilter) (e : LogEvent) : Bool :=
  let best := (f.directives.filter (·.covers e)).foldl (fun (best : Option LogDirective) d =>
    match best with
    | some b => if d.isAsSpecific b then some d else best
    | none => some d) none
  match best with
  | some d => e.level.rank ≤ d.level.rank
  | none => false

end LogFilter

end Stencil
