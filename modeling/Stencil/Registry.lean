import Stencil.FieldType
import Stencil.Model

/-!
# Registries

The tags and models of a configuration, by name. A name is registered once; looking up a name that
is not registered gives a sentinel, whose name is empty.
-/

namespace Stencil

inductive ConfigError where
  | duplicate (kind name : String)
  | unresolvedType (model field microservice api type : String)
  | unsupportedFormat (extension path : String)
  | unreadable (path reason : String)
  | invalid (reason : String)
  | io (reason : String)
  | yaml
  | toml
  deriving DecidableEq, Repr

/-- The message as far as it is the library's own: that of a text that is not in the notation ends
where the description of the flaw would begin. -/
def ConfigError.message : ConfigError → String
  | duplicate kind name => kind ++ " with name " ++ name ++ " already registered"
  | unresolvedType model field microservice api type =>
    "Configuration error: Field '" ++ model ++ "." ++ field ++ "' in microservice '" ++
      microservice ++ "' of api '" ++ api ++ "' has unresolved type '" ++ type ++ "'"
  | unsupportedFormat extension path =>
    "Configuration error: Unsupported config format '" ++ extension ++ "' for " ++ path
  | unreadable path reason =>
    "Configuration error: Failed to read config " ++ path ++ ": " ++ reason
  | invalid reason => "Configuration error: " ++ reason
  | io reason => "I/O error: " ++ reason
  | yaml => "YAML parsing error: "
  | toml => "TOML parsing error: "

structure TagRegistry where
  tags : List Tag := []
  deriving Repr, Inhabited

namespace TagRegistry

def find? (r : TagRegistry) (name : String) : Option Tag :=
  r.tags.find? (·.name == name)

def lookup (r : TagRegistry) (name : String) : Tag :=
  (r.find? name).getD { name := "" }

def register (r : TagRegistry) (tag : Tag) : Except ConfigError TagRegistry :=
  match r.find? tag.name with
  | some _ => .error (.duplicate "Tag" tag.name)
  | none => .ok ⟨r.tags ++ [tag]⟩

def size (r : TagRegistry) : Nat :=
  r.tags.length

end TagRegistry

structure ModelRegistry where
  models : List Model := []
  deriving Repr, Inhabited

namespace ModelRegistry

def find? (r : ModelRegistry) (name : String) : Option Model :=
  r.models.find? (·.name == name)

def lookup (r : ModelRegistry) (name : String) : Model :=
  (r.find? name).getD { name := "" }

def register (r : ModelRegistry) (model : Model) : Except ConfigError ModelRegistry :=
  match r.find? model.name with
  | some _ => .error (.duplicate "Model" model.name)
  | none => .ok ⟨r.models ++ [model]⟩

def size (r : ModelRegistry) : Nat :=
  r.models.length

end ModelRegistry

structure Registries where
  tags : TagRegistry := {}
  models : ModelRegistry := {}
  deriving Repr, Inhabited

namespace Registries

/-- Registers a tag unless the look-up of its name gives the very same tag. -/
def addTag (r : Registries) (tag : Tag) : Except ConfigError Registries :=
  if r.tags.lookup tag.name = tag then .ok r
  else (r.tags.register tag).map fun tags => { r with tags }

/-- Registers a model, unless the look-up of its name gives an equal one, and the tags of its
fields. -/
def addModel (r : Registries) (model : Model) : Except ConfigError Registries := do
  let r ←
    if (r.models.lookup model.name).equals model then .ok r
    else (r.models.register model).map fun models => { r with models }
  (model.fields.flatMap (·.tags)).foldlM addTag r

/-- The registries of a configuration; a second declaration of a name has to equal the first. -/
def build (c : Config) : Except ConfigError Registries :=
  c.models.foldlM addModel {}

end Registries

namespace Config

def ownedFields (ms : Microservice) : List (Model × Field) :=
  ms.models.flatMap fun m => m.fields.map fun f => (m, f)

/-- Whether the type of a field is primitive, an enum of the model that owns the field, or a
registered model, or an array of such. -/
def fieldResolves (models : ModelRegistry) (owner : Model) (f : Field) : Bool :=
  FieldType.resolves
    (fun type =>
      let name := String.ofList type
      owner.hasEnum name || !(models.lookup name).isSentinel)
    f.type.toList

def validate (c : Config) (models : ModelRegistry) : Except ConfigError Unit :=
  c.apis.forM fun api =>
    api.microservices.forM fun ms =>
      (ownedFields ms).forM fun (owner, f) =>
        if fieldResolves models owner f then .ok ()
        else .error (.unresolvedType owner.name f.name ms.label api.label f.type)

end Config

end Stencil
