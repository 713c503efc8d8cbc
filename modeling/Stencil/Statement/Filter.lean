import Stencil.Json.Printer
import Stencil.Statement.Filter.Items
import Stencil.Statement.Filter.Link
import Stencil.Statement.Filter.Number

/-!
# Filters

The filters that every statement template can use beside the helpers.
-/

namespace Stencil.Statement.Filter

def general? : String → Option Filter
  | "as_str" => some fun v _ => some (.str (String.ofList (printed v)))
  | "length" => some fun v _ =>
    match v with
    | .arr items => some (.int items.length)
    | .obj fields => some (.int fields.length)
    | .str s => some (.int s.toList.length)
    | _ => none
  | "reverse" => some fun v _ =>
    match v with
    | .arr items => some (.arr items.reverse)
    | .str s => some (.str (String.ofList s.toList.reverse))
    | _ => none
  | "get" => some fun v args => do
    let key ← args.text? "key"
    match v with
    | .obj fields => (fields.lookup key).or (args.lookup "default")
    | _ => none
  | "json_encode" => some fun v args => do
    let pretty ← args.boolOr? "pretty" false
    some (.str (String.ofList (if pretty then v.pretty else v.compact)))
  | _ => none

def builtin? (name : String) : Option Filter :=
  (text? name).or ((items? name).or ((number? name).or ((link? name).or (general? name))))

end Stencil.Statement.Filter
