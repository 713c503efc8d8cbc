import Stencil.Double.Shortest
import Stencil.Fields

/-!
# JSON values

The values that templates read. Whole numbers and floating point numbers are different kinds of
values, and the fields of an object are sorted by their keys.
-/

namespace Stencil

inductive Json where
  | null
  | bool (b : Bool)
  | int (n : Int)
  | float (x : Double)
  | str (s : String)
  | arr (items : List Json)
  | obj (fields : List (String × Json))
  deriving Inhabited, Repr

namespace Json

def object (fields : List (String × Json)) : Json :=
  obj (sortFields fields)

/-- The value of a field; a value that is no object has none. -/
def field? (v : Json) (key : String) : Option Json :=
  match v with
  | obj fields => fields.lookup key
  | _ => none

def str? : Json → Option String
  | str s => some s
  | _ => none

def items? : Json → Option (List Json)
  | arr items => some items
  | _ => none

def bool? : Json → Option Bool
  | bool b => some b
  | _ => none

def int? : Json → Option Int
  | int n => some n
  | _ => none

def double? : Json → Option Double
  | int n => some (.ofInt n)
  | float x => some x
  | _ => none

def minInt : Int := -9223372036854775808

def maxInt : Int := 9223372036854775807

def int64? : Json → Option Int
  | int n => if minInt ≤ n && n ≤ maxInt then some n else none
  | _ => none

def numberText : Json → List Char
  | int n => (toString n).toList
  | float x => x.notated
  | _ => []

mutual

/-- Whether two values are the same; a whole number differs from every floating point number. -/
def equals : Json → Json → Bool
  | null, null => true
  | bool a, bool b => a == b
  | int a, int b => a == b
  | float a, float b => a.equals b
  | str a, str b => a == b
  | arr a, arr b => equalItems a b
  | obj a, obj b => equalFields a b
  | _, _ => false

def equalItems : List Json → List Json → Bool
  | [], [] => true
  | a :: as, b :: bs => a.equals b && equalItems as bs
  | _, _ => false

def equalFields : List (String × Json) → List (String × Json) → Bool
  | [], [] => true
  | (k, a) :: as, (l, b) :: bs => k == l && a.equals b && equalFields as bs
  | _, _ => false

end

end Json

end Stencil
