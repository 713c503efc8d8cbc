import Stencil.Statement.Arguments
import Stencil.Text.Expression

/-!
# Tests

The questions about a value that can be asked with `is`.
-/

namespace Stencil.Statement.Test

def isEven? (v : Json) : Option Bool := do
  some ((← v.double?).rem (.ofInt 2)).isZero

def onValue (f : Json → Option Bool) (v : Option Json) (args : List Json) : Option Bool := do
  if args.isEmpty then f (← v) else none

/-- The built-in tests by name. The value tested is absent if it is not defined; a test fails on
values or arguments that it has no answer for. -/
def builtin? : String → Option (Option Json → List Json → Option Bool)
  | "defined" => some fun v args => if args.isEmpty then some v.isSome else none
  | "undefined" => some fun v args => if args.isEmpty then some v.isNone else none
  | "string" => some (onValue fun v => some v.str?.isSome)
  | "number" => some (onValue fun v => some v.double?.isSome)
  | "odd" => some (onValue fun v => (isEven? v).map (!·))
  | "even" => some (onValue isEven?)
  | "divisibleby" => some fun v args =>
    match v, args with
    | some v, [w] => do some ((← v.double?).rem (← w.double?)).isZero
    | _, _ => none
  | "iterable" => some (onValue fun v =>
    match v with
    | .arr _ | .obj _ => some true
    | _ => some false)
  | "object" => some (onValue fun v =>
    match v with
    | .obj _ => some true
    | _ => some false)
  | "starting_with" => some fun v args =>
    match v, args with
    | some (.str s), [.str t] => some (startsWith t.toList s.toList)
    | _, _ => none
  | "ending_with" => some fun v args =>
    match v, args with
    | some (.str s), [.str t] => some (endsWith t.toList s.toList)
    | _, _ => none
  | "matching" => some fun v args =>
    match v, args with
    | some (.str s), [.str t] => do some ((← Expression.parse? t.toList).fits s.toList)
    | _, _ => none
  | "containing" => some fun v args =>
    match v, args with
    | some (.str s), [.str t] => some (hasInfix t.toList s.toList)
    | some (.arr items), [w] => some (items.any (·.equals w))
    | some (.obj fields), [.str key] => some (fields.any (·.1 == key))
    | _, _ => none
  | _ => none

end Stencil.Statement.Test
