import Stencil.Double

/-!
# TOML tables

The values of a TOML document, and the tables that its headers and keys fill. A table may be named
by one header, or be made by dotted keys, but not both; a table that a header only passes through
may still be named later.
-/

namespace Stencil.Toml

inductive Value where
  | text (s : String)
  | int (n : Int)
  | float (x : Double)
  | bool (b : Bool)
  | datetime (s : String)
  | array (items : List Value)
  | table (entries : List (String × Value))
  deriving Inhabited, Repr

inductive Origin where
  /-- By a header of its own, as an element of an array, or as the document. -/
  | explicit
  /-- By the header of a table inside it. -/
  | passed
  /-- By a dotted key. -/
  | dotted
  deriving DecidableEq, Repr, Inhabited

mutual

inductive Item where
  | value (v : Value)
  | table (t : Table)
  /-- The elements of an array of tables, the last one first. -/
  | tables (ts : List Table)
  deriving Inhabited

inductive Table where
  | mk (origin : Origin) (items : List (String × Item))
  deriving Inhabited

end

namespace Table

def origin : Table → Origin
  | mk o _ => o

def items : Table → List (String × Item)
  | mk _ is => is

def empty (o : Origin) : Table :=
  mk o []

def setItem (t : Table) (key : String) (i : Item) : Table :=
  mk t.origin <|
    if t.items.any (·.1 == key) then t.items.map fun e => if e.1 == key then (key, i) else e
    else t.items ++ [(key, i)]

/-- Changes the table that a path leads to. Tables on the way are made as needed, with the origin
`made`, and the last element stands for an array of tables. Dotted keys do not lead into tables that
have headers. -/
def modifyAt (made : Origin) (f : Table → Option Table) : (path : List String) → Table → Option Table
  | [], t => f t
  | key :: path, t =>
    match t.items.lookup key with
    | none => do
      let inner ← modifyAt made f path (empty made)
      pure (t.setItem key (.table inner))
    | some (.table inner) => do
      if made = .dotted ∧ inner.origin = .explicit then none
      else pure (t.setItem key (.table (← modifyAt made f path inner)))
    | some (.tables (last :: others)) => do
      pure (t.setItem key (.tables ((← modifyAt made f path last) :: others)))
    | some _ => none

def openTable (key : String) (t : Table) : Option Table :=
  match t.items.lookup key with
  | none => some (t.setItem key (.table (empty .explicit)))
  | some (.table inner) =>
    if inner.origin = .passed then some (t.setItem key (.table (mk .explicit inner.items))) else none
  | some _ => none

def openElement (key : String) (t : Table) : Option Table :=
  match t.items.lookup key with
  | none => some (t.setItem key (.tables [empty .explicit]))
  | some (.tables ts) => some (t.setItem key (.tables (empty .explicit :: ts)))
  | some _ => none

/-- Gives a key a value; `dotted` tells whether the key was reached through others. -/
def addValue (dotted : Bool) (key : String) (v : Value) (t : Table) : Option Table :=
  if (t.origin == .dotted) != dotted then none
  else
    match t.items.lookup key with
    | none => some (t.setItem key (.value v))
    | some _ => none

def addAt (path : List String) (key : String) (v : Value) (t : Table) : Option Table :=
  t.modifyAt .dotted (addValue (!path.isEmpty) key v) path

end Table

mutual

def Item.toValue : Item → Value
  | .value v => v
  | .table t => t.toValue
  | .tables ts => .array (tableValues ts).reverse

def Table.toValue : Table → Value
  | .mk _ items => .table (itemValues items)

def tableValues : List Table → List Value
  | [] => []
  | t :: ts => t.toValue :: tableValues ts

def itemValues : List (String × Item) → List (String × Value)
  | [] => []
  | (k, i) :: is => (k, i.toValue) :: itemValues is

end

end Stencil.Toml
