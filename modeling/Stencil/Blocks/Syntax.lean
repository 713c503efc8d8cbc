import Stencil.Json

/-!
# Block templates

The syntax trees of templates whose tags are `{{ expression }}` and `{{#helper}} … {{/helper}}`.
-/

namespace Stencil.Blocks

inductive Origin where
  /-- The data as a whole. -/
  | root
  /-- The value of the block so many levels further out. -/
  | block (ups : Nat)
  /-- The variables of the block so many levels further out. -/
  | locals (ups : Nat)
  deriving DecidableEq, Repr, Inhabited

/-- A path with its text, which may also be the name of a helper. -/
structure Path where
  text : String
  origin : Origin
  keys : List String
  deriving DecidableEq, Repr, Inhabited

mutual

inductive Param where
  | literal (v : Json)
  | path (p : Path)
  | call (c : Call)

/-- A helper with its arguments, some of which have names. -/
inductive Call where
  | mk (name : String) (params : List Param) (named : List (String × Param))

end

instance : Inhabited Param := ⟨.literal .null⟩

instance : Inhabited Call := ⟨.mk "" [] []⟩

inductive Shown where
  /-- The value of a path, or of the helper of that name. -/
  | path (p : Path)
  | call (c : Call)
  /-- A call in parentheses, whose value may be the name of a helper. -/
  | inner (c : Call)
  deriving Inhabited

inductive Node where
  | text (s : List Char)
  | output (shown : Shown)
  /-- A helper with the names of its block's parameters, its body and what follows `else`. -/
  | block (c : Call) (params : List String) (body : List Node) (otherwise : Option (List Node))
  deriving Inhabited

end Stencil.Blocks
