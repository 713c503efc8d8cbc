import Stencil.Directive

/-!
# The data model

What a configuration describes: apis with their microservices and models, and the targets that are
generated from them.
-/

namespace Stencil

inductive TagType where
  | owner
  | parent
  | unspecified
  deriving DecidableEq, Repr, Inhabited

def TagType.keyword : TagType → String
  | owner => "OWNER"
  | parent => "PARENT"
  | unspecified => "UNSPECIFIED"

structure Tag where
  name : String
  type : TagType := .unspecified
  deriving DecidableEq, Repr, Inhabited

/-- Whether this is the tag with the empty name, which stands for a tag that is not there. -/
def Tag.isSentinel (t : Tag) : Bool :=
  t.name == ""

structure Field where
  name : String
  type : String := ""
  description : String := ""
  optional : Bool := false
  directives : Directives := []
  tags : List Tag := []
  deriving Repr, Inhabited

namespace Field

def hasTag (f : Field) (tag : String) : Bool :=
  f.tags.any (·.name == tag)

def equals (f g : Field) : Bool :=
  f.name == g.name && f.type == g.type && f.description == g.description &&
    f.optional == g.optional && Directive.equalFields f.directives g.directives && f.tags == g.tags

def equalLists : List Field → List Field → Bool
  | [], [] => true
  | f :: fs, g :: gs => f.equals g && equalLists fs gs
  | _, _ => false

end Field

structure EnumDef where
  name : String
  values : List String := []
  description : String := ""
  deriving DecidableEq, Repr, Inhabited

structure Model where
  name : String
  fields : List Field := []
  enums : List EnumDef := []
  description : String := ""
  directives : Directives := []
  deriving Repr, Inhabited

namespace Model

/-- Whether this is the model with the empty name, which stands for a model that is not there. -/
def isSentinel (m : Model) : Bool :=
  m.name == ""

def taggedField? (m : Model) (tag : String) : Option Field :=
  m.fields.find? (·.hasTag tag)

def hasEnum (m : Model) (name : String) : Bool :=
  m.enums.any (·.name == name)

def equals (m n : Model) : Bool :=
  m.name == n.name && Field.equalLists m.fields n.fields && m.enums == n.enums &&
    m.description == n.description && Directive.equalFields m.directives n.directives

end Model

structure Function where
  name : String
  parameters : List String := []
  description : String := ""
  deriving DecidableEq, Repr, Inhabited

structure SnippetPaths where
  contentPath : Option String := none
  importsPath : Option String := none
  hooksDirectory : Option String := none
  deriving DecidableEq, Repr, Inhabited

structure Implementation where
  function : Function
  /-- The snippets of a target, by its label. -/
  targetSnippets : List (String × SnippetPaths) := []
  deriving DecidableEq, Repr, Inhabited

structure Microservice where
  label : String
  primaryModel : Model
  secondaryModels : List Model := []
  implementations : List Implementation := []
  deriving Repr, Inhabited

def Microservice.models (ms : Microservice) : List Model :=
  ms.primaryModel :: ms.secondaryModels

structure Api where
  label : String
  package : String := ""
  microservices : List Microservice := []
  deriving Repr, Inhabited

structure TargetApi where
  label : String
  outPath : String
  version : String := ""
  skipLabels : List String := []
  deriving DecidableEq, Repr, Inhabited

def TargetApi.skips (t : TargetApi) (label : String) : Bool :=
  t.skipLabels.any (· == label)

structure Target where
  label : String
  templatePath : String := ""
  templateDir : String := ""
  apis : List TargetApi := []
  /-- Whether there is one file for each microservice, or one for the api. -/
  each : Bool := false
  defaultVersion : String := ""
  plugins : List String := []
  /-- The permissions of the files; 0 stands for the default. -/
  fileMode : UInt32 := 0
  deriving DecidableEq, Repr, Inhabited

structure Config where
  apis : List Api := []
  templateDir : String := ""
  targets : List Target := []
  deriving Repr, Inhabited

def Config.models (c : Config) : List Model :=
  c.apis.flatMap fun api => api.microservices.flatMap (·.models)

end Stencil
