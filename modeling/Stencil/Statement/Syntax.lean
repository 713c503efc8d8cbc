import Stencil.Double

/-!
# Statement templates

The syntax trees of templates whose tags are `{{ expression }}`, `{% statement %}` and `{# comment
#}`.
-/

namespace Stencil.Statement

/-- A path into the data, as it is written: a name, names and numbers after dots, and in brackets
indices, keys in quotes and other paths. -/
abbrev Path := List Char

inductive MathOp where
  | add
  | sub
  | mul
  | div
  | mod
  deriving DecidableEq, Repr, Inhabited

inductive CompareOp where
  | lt
  | le
  | gt
  | ge
  | eq
  | ne
  deriving DecidableEq, Repr, Inhabited

mutual

/-- A value with the filters it is piped through and, last of all, a negation. -/
inductive Expr where
  | mk (term : Term) (negated : Bool) (filters : List Call)

inductive Term where
  | text (s : String)
  | int (n : Int)
  | float (x : Double)
  | bool (b : Bool)
  | path (p : Path)
  | call (c : Call)
  | array (items : List Expr)
  | concat (parts : List Term)
  | math (op : MathOp) (left right : Expr)
  | compare (op : CompareOp) (left right : Expr)
  | and (left right : Expr)
  | or (left right : Expr)
  | contains (negated : Bool) (item container : Expr)
  | test (negated : Bool) (p : Path) (name : String) (args : List Expr)
  /-- A call of a macro; no template defines any. -/
  | macroCall (name : String)

inductive Call where
  | mk (name : String) (args : List (String × Expr))

end

instance : Inhabited Term := ⟨.bool false⟩

instance : Inhabited Expr := ⟨.mk default false []⟩

def Expr.ofTerm (t : Term) : Expr :=
  .mk t false []

structure Trim where
  left : Bool := false
  right : Bool := false
  deriving DecidableEq, Repr, Inhabited

inductive Node where
  | text (s : List Char)
  | output (trim : Trim) (e : Expr)
  | comment (trim : Trim)
  | set (trim : Trim) (everywhere : Bool) (name : String) (e : Expr)
  | ifs (branches : List (Trim × Expr × List Node)) (otherwise : Option (Trim × List Node))
      (last : Trim)
  | loop (first : Trim) (key : Option String) (value : String) (container : Expr)
      (body ifEmpty : List Node) (last : Trim)
  | raw (first : Trim) (s : List Char) (last : Trim)
  | filtered (first : Trim) (c : Call) (body : List Node) (last : Trim)
  | block (first : Trim) (body : List Node) (last : Trim)
  | include (trim : Trim) (mayBeMissing : Bool)
  | break (trim : Trim)
  | continue (trim : Trim)
  deriving Inhabited

end Stencil.Statement
