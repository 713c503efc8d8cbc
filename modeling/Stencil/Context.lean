import Stencil.Model
import Stencil.Naming

/-!
# Render contexts

The data model as templates see it: a JSON object whose keys are capitalised, with every label and
name in all its spellings.
-/

namespace Stencil.Context

/-- A name under `key`, and its spellings under `key` with their suffixes. -/
def spellings (key name : String) : List (String × Json) :=
  (key, .str name) :: NameCase.all.map fun case => (key ++ case.suffix, .str (case.apply name))

def ofTag (t : Tag) : Json :=
  .object [("Name", .str t.name), ("Type", .str t.type.keyword)]

def ofField (f : Field) : Json :=
  .object <| spellings "Name" f.name ++
    [ ("Type", .str f.type),
      ("Description", .str f.description),
      ("Optional", .bool f.optional),
      ("Directives", f.directives.toJson),
      ("Tags", .arr (f.tags.map ofTag)) ]

def ofEnum (e : EnumDef) : Json :=
  .object <| spellings "Name" e.name ++
    [("Values", .arr (e.values.map .str)), ("Description", .str e.description)]

def ofModel (m : Model) : Json :=
  .object <| spellings "Name" m.name ++
    [ ("Description", .str m.description),
      ("Fields", .arr (m.fields.map ofField)),
      ("Enums", .arr (m.enums.map ofEnum)),
      ("Directives", m.directives.toJson) ]

def ofImplementation (i : Implementation) : Json :=
  .object
    [ ("Function", .object <| spellings "Name" i.function.name ++
        [ ("Parameters", .arr (i.function.parameters.map .str)),
          ("Description", .str i.function.description) ]) ]

def ofMicroservice (ms : Microservice) : Json :=
  .object <| spellings "Label" ms.label ++
    [ ("PrimaryModel", ofModel ms.primaryModel),
      ("SecondaryModels", .arr (ms.secondaryModels.map ofModel)),
      ("FunctionImplementations", .arr (ms.implementations.map ofImplementation)) ]

def ofApi (api : Api) : Json :=
  .object <| spellings "Label" api.label ++
    [ ("Package", .str api.package),
      ("Microservices", .arr (api.microservices.map ofMicroservice)) ]

def forApi (api : Api) : Json :=
  .object [("Api", ofApi api), ("Label", .str api.label)]

def forMicroservice (api : Api) (ms : Microservice) : Json :=
  .object
    [("Api", ofApi api), ("Microservice", ofMicroservice ms), ("Label", .str api.label)]

end Stencil.Context
