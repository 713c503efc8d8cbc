import Stencil.Json.Printer
import Stencil.Statement.Filter.Text

/-!
# Filters on lists

Items are sorted, grouped and chosen by a value in them, to which an attribute leads; without an
attribute it is the item itself. An empty list passes before any other argument is looked at.
-/

namespace Stencil.Statement.Filter

inductive SortKey where
  | number (x : Double)
  | text (s : String)
  | truth (b : Bool)
  | size (n : Nat)

def SortKey.of? : Json → Option SortKey
  | .int n => some (.number (.ofInt n))
  | .float x => some (.number x)
  | .str s => some (.text s)
  | .bool b => some (.truth b)
  | .arr items => some (.size items.length)
  | _ => none

def SortKey.le? : SortKey → SortKey → Option Bool
  | number x, number y => some (x.sortsBefore y)
  | text s, text t => some (!(t < s))
  | truth b, truth c => some (!b || c)
  | size m, size n => some (m ≤ n)
  | _, _ => none

/-- Sorts a list by an attribute of its items, which all have to be of one kind. -/
def sort? (items : List Json) (dotted : String) : Option Json := do
  let keyed ← items.mapM fun v => do pure (← SortKey.of? (← at? v dotted), v)
  match keyed with
  | [] => some (.arr [])
  | (first, _) :: _ =>
    if keyed.all fun (k, _) => (first.le? k).isSome then
      some (.arr ((keyed.mergeSort fun x y => (x.1.le? y.1).getD true).map (·.2)))
    else none

/-- What decides whether two values count as the same; of other values no two do. -/
def identity? (caseMatters : Bool) : Json → Option Json
  | .bool b => some (.bool b)
  | .int n => (Json.int n).int64?.map .int
  | .str s => some (.str (if caseMatters then s else String.ofList (lowerText s.toList)))
  | _ => none

def sameKind : Json → Json → Bool
  | .null, .null | .bool _, .bool _ | .str _, .str _ | .arr _, .arr _ | .obj _, .obj _ => true
  | v, w => v.double?.isSome && w.double?.isSome

/-- The first items with each value; items without the attribute do not count, and all others have
to be of the kind of the first one. -/
def unique? (caseMatters : Bool) (dotted : String) (items : List Json) : Option Json := do
  let first ← at? (← items.head?) dotted
  let _ ← identity? caseMatters first
  let keyed := items.filterMap fun v => (at? v dotted).map (·, v)
  let rec go (seen : List Json) : List (Json × Json) → Option (List Json)
    | [] => some []
    | (key, v) :: rest => do
      if !sameKind first key then none
      let key ← identity? caseMatters key
      if seen.any (·.equals key) then go seen rest
      else do some (v :: (← go (key :: seen) rest))
  some (.arr (← go [] keyed))

/-- The items by what the attribute leads to, as a text; items without it do not count. -/
def groupBy (dotted : String) (items : List Json) : Json :=
  let keyed := items.filterMap fun v =>
    match at? v dotted with
    | none | some .null => none
    | some (.str s) => some (s, v)
    | some key => some (String.ofList key.compact, v)
  .object ((keyed.map (·.1)).map fun key =>
    (key, .arr ((keyed.filter (·.1 == key)).map (·.2))))

/-- The items whose attribute has the given value, or has any if that is null. -/
def having (dotted : String) (value : Json) (items : List Json) : List Json :=
  items.filter fun v =>
    let found := (at? v dotted).getD .null
    match value with
    | .null => !found.equals .null
    | value => found.equals value

def attributes (dotted : String) (items : List Json) : List Json :=
  items.filterMap fun v =>
    match at? v dotted with
    | some .null => none
    | found => found

/-- The place in a list of `length` items that a number names, counted from the end if it is
negative. -/
def place? (length : Nat) (v : Json) : Option Nat := do
  let x ← v.double?
  some (if x.negative then length + x.truncated else x.truncated).toNat

def onItems (f : List Json → Arguments → Option Json) : Filter := fun v args => do
  match ← v.items? with
  | [] => some (.arr [])
  | items => f items args

def items? : String → Option Filter
  | "join" => some fun v args => do
    let items ← v.items?
    let sep ← args.textOr? "sep" ""
    some (.str (String.ofList (joinWith (unescapeBreaks sep.toList) (items.map printed))))
  | "first" => some fun v _ => do some ((← v.items?).headD (.str ""))
  | "last" => some fun v _ => do some ((← v.items?).getLastD (.str ""))
  | "nth" => some fun v args => do
    let items ← v.items?
    if items.isEmpty then some (.str "")
    else
      let _ ← args.lookup "n"
      let n ← args.natOr? "n" 0
      some ((items[n]?).getD (.str ""))
  | "sort" => some (onItems fun items args => do sort? items (← args.textOr? "attribute" ""))
  | "unique" => some (onItems fun items args => do
    let caseMatters ← args.boolOr? "case_sensitive" false
    unique? caseMatters (← args.textOr? "attribute" "") items)
  | "group_by" => some fun v args => do
    let items ← v.items?
    if items.isEmpty then some (.obj [])
    else some (groupBy (← args.text? "attribute") items)
  | "filter" => some (onItems fun items args => do
    let dotted ← args.text? "attribute"
    some (.arr (having dotted ((args.lookup "value").getD .null) items)))
  | "map" => some (onItems fun items args => do
    some (.arr (attributes (← args.text? "attribute") items)))
  | "concat" => some fun v args => do
    let items ← v.items?
    match ← args.lookup "with" with
    | .arr more => some (.arr (items ++ more))
    | w => some (.arr (items ++ [w]))
  | "slice" => some (onItems fun items args => do
    let start ← args.getOr? (place? items.length) "start" 0
    let stop ← args.getOr? (place? items.length) "end" items.length
    some (.arr ((items.take stop).drop start)))
  | _ => none

end Stencil.Statement.Filter
