import Stencil.Statement.Value

/-!
# Arguments

The named arguments of filters and functions, and the kinds of values they may have.
-/

namespace Stencil.Statement

abbrev Arguments := List (String × Json)

abbrev Filter := Json → Arguments → Option Json

namespace Arguments

def text? (args : Arguments) (key : String) : Option String :=
  (args.lookup key).bind Json.str?

/-- An argument with a default; a value that `read` cannot take is refused. -/
def getOr? {α : Type} (args : Arguments) (read : Json → Option α) (key : String) (default : α) :
    Option α :=
  match args.lookup key with
  | none => some default
  | some v => read v

def textOr? (args : Arguments) (key default : String) : Option String :=
  args.getOr? Json.str? key default

def natOr? (args : Arguments) (key : String) (default : Nat) : Option Nat :=
  args.getOr? (fun v => v.int?.bind fun n => if n < 0 then none else some n.toNat) key default

def int64Or? (args : Arguments) (key : String) (default : Int) : Option Int :=
  args.getOr? Json.int64? key default

def boolOr? (args : Arguments) (key : String) (default : Bool) : Option Bool :=
  args.getOr? Json.bool? key default

end Arguments

end Stencil.Statement
