import Stencil.FieldType
import Stencil.Json.Printer
import Stencil.Naming
import Stencil.Warning

/-!
# Template helpers

The functions that templates of every syntax can call. A helper takes a fixed number of JSON values;
a syntax that names its arguments or pipes the first one is brought to that form, with null for what
is left out.
-/

namespace Stencil

inductive HelperError where
  | notText (helper : String) (argument : Nat)
  | notObject (helper : String) (argument : Nat)
  | notInteger (helper : String) (argument : Nat)
  | overflow
  deriving DecidableEq, Repr

def HelperError.message : HelperError → String
  | notText helper n => helper ++ " expects a string as argument " ++ toString n
  | notObject helper n => helper ++ " expects an object as argument " ++ toString n
  | notInteger helper n => helper ++ " expects an integer as argument " ++ toString n
  | overflow => "add overflowed"

abbrev HelperResult := Except HelperError (Json × List Warning)

structure Helper where
  name : String
  params : List String
  call : List Json → HelperResult

namespace Helper

/-- The arguments as many as there are parameters: further ones are dropped, missing ones null. -/
def positional (h : Helper) (args : List Json) : List Json :=
  let rec fill : List String → List Json → List Json
    | [], _ => []
    | _ :: ps, [] => .null :: fill ps []
    | _ :: ps, a :: as => a :: fill ps as
  fill h.params args

def named (h : Helper) (args : List (String × Json)) : List Json :=
  h.params.map fun p => (args.lookup p).getD .null

def piped (h : Helper) (first : Json) (args : List (String × Json)) : List Json :=
  first :: (h.params.drop 1).map fun p => (args.lookup p).getD .null

private def textArg (args : List Json) (i : Nat) (helper : String) : Except HelperError String :=
  match (args[i]?).bind Json.str? with
  | some s => .ok s
  | none => .error (.notText helper (i + 1))

private def textArgOrEmpty (args : List Json) (i : Nat) : String :=
  ((args[i]?).bind Json.str?).getD ""

private def objectArg (args : List Json) (i : Nat) (helper : String) : Except HelperError Json :=
  match args[i]? with
  | some (.obj fields) => .ok (.obj fields)
  | _ => .error (.notObject helper (i + 1))

private def integerArg (args : List Json) (i : Nat) (helper : String) : Except HelperError Int :=
  match (args[i]?).bind Json.int64? with
  | some n => .ok n
  | none => .error (.notInteger helper (i + 1))

def ofText (name param : String) (f : String → Json) : Helper where
  name := name
  params := [param]
  call args := do
    let s ← textArg args 0 name
    pure (f s, [])

private def chars (f : List Char → List Char) (s : String) : Json :=
  .str (String.ofList (f s.toList))

def goTypeWithPrefix : Helper where
  name := "go_type_with_prefix"
  params := ["type", "prefix"]
  call args := do
    let t ← textArg args 0 "go_type_with_prefix"
    pure (chars (FieldType.goQualified (textArgOrEmpty args 1).toList) t, [])

/-- The sum of two integers of 64 bits, if it is one. -/
def add : Helper where
  name := "add"
  params := ["a", "b"]
  call args := do
    let a ← integerArg args 0 "add"
    let b ← integerArg args 1 "add"
    let sum := a + b
    if Json.minInt ≤ sum ∧ sum ≤ Json.maxInt then pure (.int sum, []) else throw .overflow

/-- The text of a directive of a model or a field; an empty text counts as absent, and so does a
value of another kind, which is reported unless it is null. -/
def directiveText? (owner : Json) (name : String) : Option String × List Warning :=
  match (owner.field? "Directives").bind (·.field? name) with
  | none | some .null => (none, [])
  | some (.str s) => (if s = "" then none else some s, [])
  | some v => (none, [.directiveNotText name (String.ofList v.compact)])

def ofDirective (name owner : String) : Helper where
  name := name
  params := [owner, "name", "default"]
  call args := do
    let object ← objectArg args 0 name
    let directive ← textArg args 1 name
    let (text?, warnings) := directiveText? object directive
    pure (.str (text?.getD (textArgOrEmpty args 2)), warnings)

def modelDirectiveList : Helper where
  name := "model_directive_list"
  params := ["model", "name"]
  call args := do
    let model ← objectArg args 0 "model_directive_list"
    let name ← textArg args 1 "model_directive_list"
    match (model.field? "Directives").bind (·.field? name) with
    | some (.arr items) => pure (.arr items, [])
    | none | some .null => pure (.arr [], [])
    | some v => pure (.arr [], [.directiveNotList name (String.ofList v.compact)])

def carriesTag (field : Json) (tag : String) : Bool :=
  match (field.field? "Tags").bind Json.items? with
  | some tags => tags.any fun t => (t.field? "Name").bind Json.str? == some tag
  | none => false

def fieldHasTag : Helper where
  name := "field_has_tag"
  params := ["field", "tag"]
  call args := do
    let field ← objectArg args 0 "field_has_tag"
    let tag ← textArg args 1 "field_has_tag"
    pure (.bool (carriesTag field tag), [])

def modelTaggedFieldName : Helper where
  name := "model_tagged_field_name"
  params := ["model", "tag", "default"]
  call args := do
    let model ← objectArg args 0 "model_tagged_field_name"
    let tag ← textArg args 1 "model_tagged_field_name"
    let name? := do
      let fields ← (model.field? "Fields").bind Json.items?
      let field ← fields.find? (carriesTag · tag)
      (field.field? "Name").bind Json.str?
    pure (.str (name?.getD (textArgOrEmpty args 2)), [])

def graphqlTypeMask : String := "graphqlTypeNameMask"

def graphqlNameMask : String := "graphqlFieldNameMask"

/-- A helper on a field whose answer a directive can replace; it reads the text `key` of the
field. -/
def ofMaskedField (name mask key : String) (f : List Char → List Char) : Helper where
  name := name
  params := ["field"]
  call args := do
    let field ← objectArg args 0 name
    match directiveText? field mask with
    | (some text, warnings) => pure (.str text, warnings)
    | (none, warnings) =>
      pure (chars f (((field.field? key).bind Json.str?).getD ""), warnings)

def catalog : List Helper :=
  [ ofText "proto_type" "type" (chars FieldType.proto),
    ofText "go_type" "type" (chars FieldType.go),
    goTypeWithPrefix,
    ofText "graphql_type" "type" (chars FieldType.graphql),
    ofText "graphql_input_type" "type" (chars FieldType.graphqlInput),
    ofText "typescript_type" "type" (chars FieldType.typescript),
    ofText "is_primitive_type" "type" (.bool <| FieldType.isPrimitive ·.toList),
    ofText "kebab_case" "s" (chars NameCase.kebab.spell),
    ofText "camel_case" "s" (chars NameCase.camel.spell),
    ofText "lower_camel_case" "s" (chars NameCase.lowerCamel.spell),
    ofText "screaming_snake_case" "s" (chars NameCase.screamingSnake.spell),
    ofText "snake_case" "s" (chars NameCase.snake.spell),
    ofText "go_field_case" "s" (.str <| goFieldName ·),
    ofText "camel_case_capitalize_id" "s" (.str <| withIdEnding .camel "ID" ·),
    ofText "lower_camel_case_capitalize_id" "s" (.str <| withIdEnding .lowerCamel "ID" ·),
    ofText "camel_case_no_exceptions" "s" (.str <| withIdEnding .camel "Id" ·),
    ofText "lower_camel_case_no_exceptions" "s" (.str <| withIdEnding .lowerCamel "Id" ·),
    add,
    ofDirective "field_directive" "field",
    ofDirective "model_directive" "model",
    modelDirectiveList,
    fieldHasTag,
    modelTaggedFieldName,
    ofMaskedField "graphql_type_for_field" graphqlTypeMask "Type" FieldType.graphql,
    ofMaskedField "graphql_name_for_field" graphqlNameMask "Name" NameCase.lowerCamel.spell ]

def find? (name : String) : Option Helper :=
  catalog.find? (·.name == name)

end Helper

end Stencil
