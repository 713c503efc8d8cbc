import Stencil.Config.FileMode
import Stencil.Directive

/-!
# Readable values

A configuration can be written in several notations. `Readable` says what the values of a notation
count as, and a `Shape` says which fields a record has; a record can then be read from a value of
any notation.

A notation may let a value refer to another one, so that a short text stands for a value of any
size. Reading therefore has an allowance of references that it may follow.
-/

namespace Stencil

inductive Misfit where
  | form
  | fileMode (text : String) (flaw : FileModeFlaw)
  deriving DecidableEq, Repr

/-- Reading a value. The state is the number of references that may still be followed. -/
abbrev Reading := StateT Nat (Except Misfit)

namespace Reading

variable {α : Type}

def orMisfit (a : Option α) : Reading α :=
  match a with
  | some a => pure a
  | none => throw .form

/-- Follows references; more of them than may still be followed are refused. -/
def follow (references : Nat) : Reading Unit := do
  let left ← get
  if left < references then throw .form else set (left - references)

def within (allowance : Nat) (r : Reading α) : Except Misfit α :=
  (·.1) <$> r.run allowance

end Reading

/-- The parts of a value that is read as a record: values with names, or values in the order of the
record's fields, of which there may be too many only if `surplus` says so. -/
inductive RecordParts (ν : Type) where
  | named (entries : List (String × ν))
  | listed (items : List ν) (surplus : Bool)

class Readable (ν : Type) where
  /-- The number of references that lead to the value and to the names of its entries. -/
  references : ν → Nat := fun _ => 0
  text? : ν → Option String
  flag? : ν → Option Bool
  items? : ν → Option (List ν)
  /-- The entries of a value that is read as a map. -/
  entries? : ν → Option (List (String × ν))
  parts? : ν → Option (RecordParts ν)
  /-- Whether the value stands for nothing where it may be left out; `none` if it may not stand
  there. -/
  isNothing? : ν → Option Bool
  /-- The name of one of several alternatives. -/
  variant? : ν → Option String
  /-- A number or a text, whichever the value is without being asked for either. -/
  numberOrText? : ν → Option (Int ⊕ String)
  directive : ν → Reading Directive

variable {ν α : Type}

/-- What a record looks like: its fields in order, other names for them, the fields that have to be
there, and how a value becomes that of a field. -/
structure Shape (ν α : Type) where
  names : List String
  aliases : List (String × String) := []
  required : List String
  empty : α
  set : α → String → ν → Reading α

namespace Shape

def fieldOf? (s : Shape ν α) (name : String) : Option String :=
  if s.names.contains name then some name else s.aliases.lookup name

/-- Reads named values one after the other; `seen` are the fields that have been set. A name that is
not that of a field is ignored, and no field may be set twice. -/
def readNamed (s : Shape ν α) (seen : List String) (acc : α) : List (String × ν) → Reading α
  | [] => if s.required.all seen.contains then pure acc else throw .form
  | (name, v) :: rest =>
    match s.fieldOf? name with
    | none => s.readNamed seen acc rest
    | some field =>
      if seen.contains field then throw .form
      else do s.readNamed (field :: seen) (← s.set acc field v) rest

def readListed (s : Shape ν α) (surplus : Bool) (acc : α) : List String → List ν → Reading α
  | [], [] => pure acc
  | [], _ :: _ => if surplus then pure acc else throw .form
  | names, [] => if names.any s.required.contains then throw .form else pure acc
  | name :: names, v :: vs => do s.readListed surplus (← s.set acc name v) names vs

def read [Readable ν] (s : Shape ν α) (v : ν) : Reading α := do
  Reading.follow (Readable.references v)
  match Readable.parts? v with
  | none => throw .form
  | some (.named entries) => s.readNamed [] s.empty entries
  | some (.listed items surplus) => s.readListed surplus s.empty s.names items

end Shape

namespace Readable

variable [Readable ν]

open Reading

def text (v : ν) : Reading String := do
  follow (references v)
  orMisfit (text? v)

def flag (v : ν) : Reading Bool := do
  follow (references v)
  orMisfit (flag? v)

def list (read : ν → Reading α) (v : ν) : Reading (List α) := do
  follow (references v)
  (← orMisfit (items? v)).mapM read

/-- A map; of two values for one key the later one counts. -/
def map (read : ν → Reading α) (v : ν) : Reading (List (String × α)) := do
  follow (references v)
  let entries ← (← orMisfit (entries? v)).mapM fun (k, v) => do pure (k, ← read v)
  pure (sortFields entries)

def optional (read : ν → Reading α) (v : ν) : Reading (Option α) := do
  if ← orMisfit (isNothing? v) then
    follow (references v)
    pure none
  else some <$> read v

def variant (v : ν) : Reading String := do
  follow (references v)
  orMisfit (variant? v)

/-- Permissions: a number below `2 ^ 32`, or a text of octal digits. -/
def fileMode (v : ν) : Reading UInt32 := do
  follow (references v)
  match ← orMisfit (numberOrText? v) with
  | .inl n => if 0 ≤ n ∧ n < Nat.pow 2 32 then pure (.ofNat n.toNat) else throw .form
  | .inr s =>
    match FileMode.parse s.toList with
    | .ok mode => pure mode
    | .error flaw => throw (.fileMode s flaw)

end Readable

/-- JSON is read strictly: nothing stands for another kind of value. A record may also be a list of
the values of its fields. -/
instance : Readable Json where
  text? := Json.str?
  flag?
    | .bool b => some b
    | _ => none
  items? := Json.items?
  entries?
    | .obj fields => some fields
    | _ => none
  parts?
    | .obj fields => some (.named fields)
    | .arr items => some (.listed items false)
    | _ => none
  isNothing?
    | .null => some true
    | _ => some false
  variant?
    | .str s => some s
    | .obj [(name, .null)] => some name
    | _ => none
  numberOrText?
    | .int n => some (.inl n)
    | .str s => some (.inr s)
    | _ => none
  directive v := Reading.orMisfit (Directive.ofJson? v)

end Stencil
