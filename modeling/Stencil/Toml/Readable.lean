import Stencil.Config.Readable
import Stencil.Toml.Value

/-!
# Reading TOML values

A record may be a list of the values of its fields, with values to spare. Dates and times count as
maps with one entry.
-/

namespace Stencil.Toml

def datetimeKey : String := "$__toml_private_datetime"

mutual

def Value.directive : Value → Directive
  | .text s => .text s
  | .int n => .ofInt n
  | .float x => .float x
  | .bool b => .bool b
  | .datetime s => .map [(datetimeKey, .text s)]
  | .array items => .list (directives items)
  | .table entries => .map (sortFields (entryDirectives entries))

def directives : List Value → List Directive
  | [] => []
  | v :: vs => v.directive :: directives vs

def entryDirectives : List (String × Value) → List (String × Directive)
  | [] => []
  | (k, v) :: es => (k, v.directive) :: entryDirectives es

end

namespace Value

def text? : Value → Option String
  | text s => some s
  | _ => none

def flag? : Value → Option Bool
  | bool b => some b
  | _ => none

def items? : Value → Option (List Value)
  | array items => some items
  | _ => none

def entries? : Value → Option (List (String × Value))
  | table entries => some entries
  | datetime s => some [(datetimeKey, text s)]
  | _ => none

def parts? : Value → Option (RecordParts Value)
  | array items => some (.listed items true)
  | v => v.entries?.map .named

def variant? : Value → Option String
  | text s => some s
  | table [(name, table [])] | table [(name, array [])] => some name
  | _ => none

def numberOrText? : Value → Option (Int ⊕ String)
  | int n => some (.inl n)
  | text s => some (.inr s)
  | _ => none

end Value

instance : Readable Value where
  text? := Value.text?
  flag? := Value.flag?
  items? := Value.items?
  entries? := Value.entries?
  parts? := Value.parts?
  isNothing? _ := some false
  variant? := Value.variant?
  numberOrText? := Value.numberOrText?
  directive v := pure v.directive

end Stencil.Toml
