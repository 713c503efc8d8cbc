import Stencil.Shell.Arithmetic
import Stencil.Shell.FileName
import Stencil.Shell.Session

/-!
# Expansion

What words stand for. The references in a word are replaced first; what they stand for is cut into
fields where it is not quoted, and fields that are patterns become the names of the files that fit
them.
-/

namespace Stencil.Shell

inductive Atom where
  | char (c : Char) (quoted : Bool)
  /-- A character at which the word may be cut. -/
  | loose (c : Char)
  /-- Something quoted, which makes a field even if it is empty. -/
  | mark
  /-- The end of a field. -/
  | boundary
  deriving DecidableEq, Repr

namespace Atom

def ofValue (quoted : Bool) (value : Octets) : List Atom :=
  if quoted then .mark :: value.map (.char · true) else value.map .loose

def ofValues (quoted : Bool) : List Octets → List Atom
  | [] => []
  | [v] => ofValue quoted v
  | v :: vs => ofValue quoted v ++ .boundary :: ofValues quoted vs

def loosened : Atom → Atom
  | char c false => loose c
  | a => a

/-- The characters of a word that is not cut; the ends of fields count as blanks. -/
def cells (atoms : List Atom) : List Pattern.Cell :=
  atoms.filterMap fun a => match a with
    | .char c quoted => some (c, quoted)
    | .loose c => some (c, false)
    | .mark => none
    | .boundary => some (' ', true)

def text (atoms : List Atom) : Octets :=
  (cells atoms).map (·.1)

/-- Fields while they are formed: those that are complete, the last one first, the one that has
begun, and whether blanks ended the last one. -/
structure Fields where
  done : List (List Pattern.Cell) := []
  current : Option (List Pattern.Cell) := none
  afterBlank : Bool := false

namespace Fields

def begin (f : Fields) : Fields :=
  { f with current := some (f.current.getD []), afterBlank := false }

def add (f : Fields) (c : Pattern.Cell) : Fields :=
  { f with current := some (c :: f.current.getD []), afterBlank := false }

def finish (f : Fields) : Fields :=
  match f.current with
  | some cells => { done := cells.reverse :: f.done }
  | none => f

def isBlank (c : Char) : Bool :=
  c == ' ' || c == '\t' || c == '\n'

/-- Takes a part of a word. Blanks separate fields, and so does each other separator; blanks beside
it belong to it. -/
def take (separators : Octets) (f : Fields) : Atom → Fields
  | .char c quoted => f.add (c, quoted)
  | .mark => f.begin
  | .boundary => f.finish
  | .loose c =>
    if separators.contains c then
      if isBlank c then
        if f.current.isSome then { f.finish with afterBlank := true } else f
      else if f.current.isSome then f.finish
      else if f.afterBlank then { f with afterBlank := false }
      else { f with done := [] :: f.done }
    else f.add (c, false)

end Fields

def fields (separators : Octets) (atoms : List Atom) : List (List Pattern.Cell) :=
  (atoms.foldl (Fields.take separators) {}).finish.done.reverse

end Atom

abbrev TakeOutput := Option Command → Running Octets

namespace Running

/-- A home directory at the beginning of a text that is not quoted: what stands for it. -/
def homeOf (s : Session) (text : Octets) (more : Bool) : Option (Octets × Octets) :=
  match text with
  | '~' :: rest =>
    match rest with
    | [] => if more then none else (s.lookup? "HOME".toList).map (·, [])
    | '/' :: _ => (s.lookup? "HOME".toList).map (·, rest)
    | 'r' :: 'o' :: 'o' :: 't' :: rest =>
      if (rest.isEmpty && !more) || rest.head? == some '/' then some ("/root".toList, rest) else none
    | _ => none
  | _ => none

def withHome (s : Session) (w : Word) : Word :=
  match w with
  | .text t false :: rest =>
    match homeOf s t (!rest.isEmpty) with
    | some (home, t) => .text home true :: .text t false :: rest
    | none => w
  | _ => w

def joinAll (s : Session) (values : List Octets) : Octets :=
  List.intercalate (s.separators.take 1) values

def dropLastLineEnds (s : Octets) : Octets :=
  (s.reverse.dropWhile (· == '\n')).reverse

/-- The value of a parameter, which has to be set if an option says so. -/
def parameter (name : Octets) : Running Octets := do
  let s ← get
  match s.parameter? name with
  | some v => return v
  | none => if s.options.nounset then abort (name ++ ": parameter not set".toList) else return []

def parameterAtoms (name : Octets) (quoted : Bool) : Running (List Atom) := do
  let s ← get
  match name with
  | ['@'] => return Atom.ofValues quoted s.params
  | ['*'] =>
    if quoted then return Atom.ofValue true (joinAll s s.params)
    else return Atom.ofValues false s.params
  | _ => return Atom.ofValue quoted (← parameter name)

/-- The number that an expression stands for; its assignments are made. -/
def arithmetic (text : Octets) : Running Int := do
  let s ← get
  match Arithmetic.run s.value text with
  | .error fault => abort (fault.message text)
  | .ok (n, assigned) =>
    assigned.reverse.forM fun (name, n) => assign name (Octets.ofInt n)
    return n

mutual

def pieceAtoms (output : TakeOutput) : Piece → Running (List Atom)
  | .text s quoted => do
    let chars := s.map (Atom.char · quoted)
    return if quoted then .mark :: chars else chars
  | .parameter name use quoted => useAtoms output name quoted use
  | .output body quoted => do
    return Atom.ofValue quoted (dropLastLineEnds (← output body))
  | .arithmetic text quoted => do
    let text := Atom.text (← wordAtoms output text)
    return Atom.ofValue quoted (Octets.ofInt (← arithmetic text))

def wordAtoms (output : TakeOutput) : List Piece → Running (List Atom)
  | [] => pure []
  | p :: ps => do
    let atoms ← pieceAtoms output p
    return atoms ++ (← wordAtoms output ps)

def useAtoms (output : TakeOutput) (name : Octets) (quoted : Bool) : ParameterUse → Running (List Atom)
  | .value => parameterAtoms name quoted
  | .length => do
    let s ← get
    let length ←
      if name == ['@'] || name == ['*'] then pure (joinAll s s.params).length
      else do pure (← parameter name).length
    return Atom.ofValue quoted (Octets.ofNat length)
  | .substitute kind orEmpty word => do
    let s ← get
    let isSet :=
      if name == ['@'] || name == ['*'] then
        !s.params.isEmpty && !(orEmpty && (joinAll s s.params).isEmpty)
      else
        match s.parameter? name with
        | some v => !(orEmpty && v.isEmpty)
        | none => false
    let instead : Running (List Atom) := do
      let atoms ← wordAtoms output word
      return if quoted then .mark :: atoms else atoms.map Atom.loosened
    match kind with
    | .default => if isSet then parameterAtoms name quoted else instead
    | .alternative => if isSet then instead else return if quoted then [.mark] else []
    | .assign =>
      if isSet then parameterAtoms name quoted
      else
        let text := Atom.text (← wordAtoms output word)
        assign name text
        return Atom.ofValue quoted text
    | .complain =>
      if isSet then parameterAtoms name quoted
      else
        let text := Atom.text (← wordAtoms output word)
        let text := if text.isEmpty then
            ("parameter not set" ++ if orEmpty then " or null" else "").toList
          else text
        abort (name ++ ": ".toList ++ text)
  | .trim atStart longest pattern => do
    let s ← get
    let cells := Atom.cells (← wordAtoms output pattern)
    let value ←
      if name == ['@'] || name == ['*'] then pure (joinAll s s.params) else parameter name
    return Atom.ofValue quoted ((Pattern.ofCells cells).trim atStart longest value)
  | .malformed => abort "Bad substitution".toList

end

def textOf (output : TakeOutput) (w : Word) : Running Octets := do
  return Atom.text (← wordAtoms output (withHome (← get) w))

/-- Replaces the signs of the home directory in a value for a variable: at its beginning and after
colons. -/
def withHomes (s : Session) (w : Word) : Word :=
  let rec go (atStart : Bool) : List Octets → List Piece
    | [] => []
    | t :: ts =>
      let colon : List Piece := if atStart then [] else [.text [':'] false]
      let parts : List Piece := match homeOf s t false with
        | some (home, rest) => [.text home true, .text rest false]
        | none => [.text t false]
      colon ++ parts ++ go false ts
  match w with
  | [.text t false] => go true (t.splitOn ':')
  | w => withHome s w

def valueOf (output : TakeOutput) (w : Word) : Running Octets := do
  return Atom.text (← wordAtoms output (withHomes (← get) w))

def patternOf (output : TakeOutput) (w : Word) : Running Pattern := do
  return Pattern.ofCells (Atom.cells (← wordAtoms output (withHome (← get) w)))

/-- The fields of a word, with the names of files in the place of patterns that some fit. -/
def fieldsOf (output : TakeOutput) (w : Word) : Running (List Octets) := do
  let atoms ← wordAtoms output (withHome (← get) w)
  let s ← get
  return (Atom.fields s.separators atoms).flatMap fun cells =>
    let names :=
      if Pattern.hasSigns cells && !s.options.noglob then FileName.fitting s.machine.files cells
      else []
    if names.isEmpty then [cells.map (·.1)] else names

def allFieldsOf (output : TakeOutput) : List Word → Running (List Octets)
  | [] => pure []
  | w :: ws => do
    let fields ← fieldsOf output w
    return fields ++ (← allFieldsOf output ws)

end Running

end Stencil.Shell
