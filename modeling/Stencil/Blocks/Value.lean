import Stencil.Blocks.Syntax
import Stencil.Json.Notation
import Stencil.RenderFault

/-!
# Values in block templates

When a value counts as true, how it is printed, how values compare, and how paths lead into them.
-/

namespace Stencil.Blocks

/-- A number is true if it is normal: zero and the numbers too small to be normal are not. -/
def isTruthy : Json → Bool
  | .null => false
  | .bool b => b
  | .int n => n != 0
  | .float x => x.isFinite && x.exponentField != 0
  | .str s => s != ""
  | .arr items => !items.isEmpty
  | .obj fields => !fields.isEmpty

def isTruthyOrNumber : Json → Bool
  | .int _ => true
  | .float x => !x.isNaN
  | v => isTruthy v

mutual

def printed : Json → List Char
  | .null => []
  | .bool b => (toString b).toList
  | .int n => (Json.int n).numberText
  | .float x => x.notated
  | .str s => s.toList
  | .arr items => '[' :: printedItems items ++ [']']
  | .obj _ => "[object]".toList

def printedItems : List Json → List Char
  | [] => []
  | [v] => printed v
  | v :: vs => printed v ++ ", ".toList ++ printedItems vs

end

def numberOrder? : Json → Json → Option Ordering
  | .int m, .int n => some (compare m n)
  | .int n, .float x => x.orderFrom? n
  | .float x, .int n => (x.orderFrom? n).map (·.swap)
  | .float x, .float y =>
    if x.less y then some .lt else if y.less x then some .gt
    else if x.isNaN || y.isNaN then none else some .eq
  | _, _ => none

/-- The order of two values of one kind, or of a number and a text in which one is written. -/
def order? : Json → Json → Option Ordering
  | .str s, .str t => some (compare s t)
  | .bool a, .bool b => some (compare a b)
  | .str s, w => do numberOrder? (← Json.numberOfNotation? s.toList) w
  | v, .str t => do numberOrder? v (← Json.numberOfNotation? t.toList)
  | v, w => numberOrder? v w

def size : Json → Nat
  | .arr items => items.length
  | .obj fields => fields.length
  | .str s => s.utf8ByteSize
  | _ => 0

def index? (key : String) : Option Nat :=
  let digits := match key.toList with
    | '+' :: cs => cs
    | cs => cs
  if digits.isEmpty || !digits.all Char.isDigit then none
  else
    let n := digits.foldl (fun n c => n * 10 + (c.toNat - '0'.toNat)) 0
    if n < Nat.pow 2 64 then some n else none

/-- The value at a key. The items of an array have numbers only for keys; other values have nothing
inside. -/
def child (key : String) : Json → Except RenderFault (Option Json)
  | .arr items =>
    match index? key with
    | some i => .ok items[i]?
    | none => .error .other
  | .obj fields => .ok (fields.lookup key)
  | _ => .ok none

def descend (v : Json) : List String → Except RenderFault (Option Json)
  | [] => .ok (some v)
  | key :: keys => do
    match ← child key v with
    | some w => descend w keys
    | none => pure none

/-- A block that is being rendered: the value it is about, its variables and its named
parameters. -/
structure Block where
  base : Json
  bindings : List (String × Json) := []
  params : List (String × Json) := []

/-- The blocks around a place in a template, the innermost first, and the data. -/
structure Scope where
  blocks : List Block
  data : Json

/-- The block so many levels further out, or the innermost one if there is none. -/
def Scope.block (s : Scope) (ups : Nat) : Json :=
  match s.blocks[ups]?, s.blocks with
  | some b, _ => b.base
  | none, b :: _ => b.base
  | none, [] => s.data

/-- The value of a path, if it leads to one. The name of a block's parameter comes before a key of
the data. -/
def Scope.find (s : Scope) (p : Path) : Except RenderFault (Option Json) :=
  match p.origin, p.keys with
  | .root, keys => descend s.data keys
  | .locals ups, keys =>
    .ok ((s.blocks[ups]?).bind fun b => keys.head?.bind (b.bindings.lookup ·))
  | .block ups, [] => .ok (some (s.block ups))
  | .block ups, key :: keys =>
    match s.blocks.findSome? (·.params.lookup key) with
    | some v => descend v keys
    | none => descend (s.block ups) (key :: keys)

end Stencil.Blocks
