import Stencil.Text.Search

/-!
# Field types

The type of a field is a text: a primitive type, the name of an enum or a model, or such a text in
any number of brackets. Each language that is generated has its own name for the primitive types.
-/

namespace Stencil

inductive Primitive where
  | id
  | string
  | int
  | float
  | boolean
  | dateTime
  deriving DecidableEq, Repr

namespace Primitive

def all : List Primitive :=
  [id, string, int, float, boolean, dateTime]

def keyword : Primitive → List Char
  | id => "ID".toList
  | string => "String".toList
  | int => "Int".toList
  | float => "Float".toList
  | boolean => "Boolean".toList
  | dateTime => "DateTime".toList

def ofKeyword? (text : List Char) : Option Primitive :=
  all.find? fun p => p.keyword = text

def protoName : Primitive → String
  | id | string => "string"
  | int => "int64"
  | float => "double"
  | boolean => "bool"
  | dateTime => "google.protobuf.Timestamp"

def goName : Primitive → String
  | id | string => "string"
  | int => "int64"
  | float => "float64"
  | boolean => "bool"
  | dateTime => "time.Time"

def graphqlName : Primitive → String
  | id | string => "String"
  | int | dateTime => "Int"
  | float => "Float"
  | boolean => "Boolean"

def typescriptName : Primitive → String
  | id | string => "string"
  | int | float | dateTime => "number"
  | boolean => "boolean"

end Primitive

namespace FieldType

/-- What stands between the outermost brackets of an array type. -/
def element? (type : List Char) : Option (List Char) :=
  (dropPrefix? ['['] type).bind (dropSuffix? [']'])

theorem length_lt_of_element? {type inner : List Char} (h : element? type = some inner) :
    inner.length < type.length := by
  simp only [element?, Option.bind_eq_some_iff, dropSuffix?, Option.map_eq_some_iff] at h
  obtain ⟨rest, hrest, back, hback, rfl⟩ := h
  have h₁ := congrArg List.length (dropPrefix?_eq_some_iff.1 hrest)
  have h₂ := congrArg List.length (dropPrefix?_eq_some_iff.1 hback)
  simp only [List.length_append, List.length_cons, List.length_nil, List.length_reverse] at h₁ h₂ ⊢
  omega

/-- A type in a language: the name of a primitive, an array of what is written for the element, or
the declared type as `declared` writes it. -/
def write (primitive : Primitive → String) (array : List Char → List Char)
    (declared : List Char → List Char) (type : List Char) : List Char :=
  match Primitive.ofKeyword? type with
  | some p => (primitive p).toList
  | none =>
    match _h : element? type with
    | some inner => array (write primitive array declared inner)
    | none => declared type
termination_by type.length
decreasing_by exact length_lt_of_element? _h

def proto (type : List Char) : List Char :=
  write Primitive.protoName ("repeated ".toList ++ ·) id type

def go (type : List Char) : List Char :=
  write Primitive.goName ("[]".toList ++ ·) id type

/-- The type in Go, where a declared type that is not in an array is qualified. -/
def goQualified (qualifier type : List Char) : List Char :=
  match Primitive.ofKeyword? type with
  | some p => p.goName.toList
  | none =>
    match element? type with
    | some inner => "[]".toList ++ go inner
    | none => qualifier ++ type

def graphql (type : List Char) : List Char :=
  write Primitive.graphqlName (fun t => '[' :: t ++ [']']) id type

def graphqlInput (type : List Char) : List Char :=
  write Primitive.graphqlName (fun t => '[' :: t ++ [']']) (· ++ "Input".toList) type

def typescript (type : List Char) : List Char :=
  match Primitive.ofKeyword? type with
  | some p => p.typescriptName.toList
  | none => type

/-- A primitive type, or an array of such. -/
def isPrimitive (type : List Char) : Bool :=
  match Primitive.ofKeyword? type with
  | some _ => true
  | none =>
    match _h : element? type with
    | some inner => isPrimitive inner
    | none => false
termination_by type.length
decreasing_by exact length_lt_of_element? _h

/-- Whether a type refers to something: without its brackets it is a primitive type or one of the
declared types that `declared` accepts. -/
def resolves (declared : List Char → Bool) (type : List Char) : Bool :=
  match _h : element? type with
  | some inner => resolves declared inner
  | none => (Primitive.ofKeyword? type).isSome || declared type
termination_by type.length
decreasing_by exact length_lt_of_element? _h

end FieldType

end Stencil
