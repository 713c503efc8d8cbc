import Stencil.Json
import Stencil.Warning

/-!
# Directives

Models and fields carry named values of a closed set of kinds, whose meaning is up to the templates.
Templates see them as JSON, and a value read back from its JSON is the value itself unless it holds
a number that JSON cannot write.
-/

namespace Stencil

inductive Directive where
  | bool (b : Bool)
  | integer (n : Int64)
  | float (x : Double)
  | text (s : String)
  | list (items : List Directive)
  | map (fields : List (String × Directive))
  deriving Inhabited, Repr

/-- The directives of a model or a field, sorted by name. -/
abbrev Directives := List (String × Directive)

namespace Directive

mutual

/-- Equality of values, with the numbers' own equality for floating point numbers. -/
def equals : Directive → Directive → Bool
  | bool a, bool b => a == b
  | integer a, integer b => a == b
  | float a, float b => a.equals b
  | text a, text b => a == b
  | list a, list b => equalItems a b
  | map a, map b => equalFields a b
  | _, _ => false

def equalItems : List Directive → List Directive → Bool
  | [], [] => true
  | a :: as, b :: bs => a.equals b && equalItems as bs
  | _, _ => false

def equalFields : List (String × Directive) → List (String × Directive) → Bool
  | [], [] => true
  | (k, a) :: as, (l, b) :: bs => k == l && a.equals b && equalFields as bs
  | _, _ => false

end

mutual

/-- The value as templates see it; a number that JSON cannot write is null. -/
def toJson : Directive → Json
  | bool b => .bool b
  | integer n => .int n.toInt
  | float x => if x.isFinite then .float x else .null
  | text s => .str s
  | list items => .arr (itemsToJson items)
  | map fields => .obj (fieldsToJson fields)

def itemsToJson : List Directive → List Json
  | [] => []
  | d :: ds => d.toJson :: itemsToJson ds

def fieldsToJson : List (String × Directive) → List (String × Json)
  | [] => []
  | (k, d) :: ds => (k, d.toJson) :: fieldsToJson ds

end

/-- A whole number; one of more than 64 bits is only kept as a floating point number. -/
def ofInt (n : Int) : Directive :=
  if Json.minInt ≤ n ∧ n ≤ Json.maxInt then integer (Int64.ofInt n) else float (.ofInt n)

mutual

/-- Reads a value; null is none. -/
def ofJson? : Json → Option Directive
  | .null => none
  | .bool b => some (bool b)
  | .int n => some (ofInt n)
  | .float x => some (float x)
  | .str s => some (text s)
  | .arr items => (itemsOfJson? items).map list
  | .obj fields => (fieldsOfJson? fields).map map

def itemsOfJson? : List Json → Option (List Directive)
  | [] => some []
  | v :: vs =>
    match ofJson? v, itemsOfJson? vs with
    | some d, some ds => some (d :: ds)
    | _, _ => none

def fieldsOfJson? : List (String × Json) → Option (List (String × Directive))
  | [] => some []
  | (k, v) :: vs =>
    match ofJson? v, fieldsOfJson? vs with
    | some d, some ds => some ((k, d) :: ds)
    | _, _ => none

end

end Directive

namespace Directives

/-- The text of a directive. An empty text counts as absent, and so does a value of another kind,
which is reported. -/
def text? (ds : Directives) (name : String) : Option String × List Warning :=
  match ds.lookup name with
  | none => (none, [])
  | some (.text s) => (if s = "" then none else some s, [])
  | some _ => (none, [.directiveKind name])

/-- The items of a directive. A value of another kind counts as absent and is reported. -/
def items (ds : Directives) (name : String) : List Directive × List Warning :=
  match ds.lookup name with
  | none => ([], [])
  | some (.list items) => (items, [])
  | some _ => ([], [.directiveKind name])

def toJson (ds : Directives) : Json :=
  .obj (Directive.fieldsToJson ds)

end Directives

end Stencil
