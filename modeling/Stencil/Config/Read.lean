import Stencil.Config.Readable
import Stencil.Model

/-!
# Reading configurations

The shapes of the records of the data model, and the configuration that a value of a notation stands
for.
-/

namespace Stencil

open Readable

variable {ν : Type} [Readable ν]

namespace TagType

def read (v : ν) : Reading TagType := do
  match ← variant v with
  | "OWNER" => pure .owner
  | "PARENT" => pure .parent
  | "UNSPECIFIED" => pure .unspecified
  | _ => throw .form

end TagType

def Tag.shape : Shape ν Tag where
  names := ["name", "type"]
  required := ["name"]
  empty := { name := "" }
  set t
    | "name", v => do pure { t with name := ← text v }
    | "type", v => do pure { t with type := ← TagType.read v }
    | _, _ => pure t

def Field.shape : Shape ν Field where
  names := ["name", "type", "description", "optional", "directives", "tags"]
  required := ["name", "type"]
  empty := { name := "" }
  set f
    | "name", v => do pure { f with name := ← text v }
    | "type", v => do pure { f with type := ← text v }
    | "description", v => do pure { f with description := ← text v }
    | "optional", v => do pure { f with optional := ← flag v }
    | "directives", v => do pure { f with directives := ← map directive v }
    | "tags", v => do pure { f with tags := ← list Tag.shape.read v }
    | _, _ => pure f

def EnumDef.shape : Shape ν EnumDef where
  names := ["name", "values", "description"]
  required := ["name"]
  empty := { name := "" }
  set e
    | "name", v => do pure { e with name := ← text v }
    | "values", v => do pure { e with values := ← list text v }
    | "description", v => do pure { e with description := ← text v }
    | _, _ => pure e

def Model.shape : Shape ν Model where
  names := ["name", "fields", "enums", "description", "directives"]
  required := ["name"]
  empty := { name := "" }
  set m
    | "name", v => do pure { m with name := ← text v }
    | "fields", v => do pure { m with fields := ← list Field.shape.read v }
    | "enums", v => do pure { m with enums := ← list EnumDef.shape.read v }
    | "description", v => do pure { m with description := ← text v }
    | "directives", v => do pure { m with directives := ← map directive v }
    | _, _ => pure m

def Function.shape : Shape ν Function where
  names := ["name", "parameters", "description"]
  required := ["name"]
  empty := { name := "" }
  set f
    | "name", v => do pure { f with name := ← text v }
    | "parameters", v => do pure { f with parameters := ← list text v }
    | "description", v => do pure { f with description := ← text v }
    | _, _ => pure f

def SnippetPaths.shape : Shape ν SnippetPaths where
  names := ["contentPath", "importsPath", "hooksDirectory"]
  required := []
  empty := {}
  set s
    | "contentPath", v => do pure { s with contentPath := ← Readable.optional text v }
    | "importsPath", v => do pure { s with importsPath := ← Readable.optional text v }
    | "hooksDirectory", v => do pure { s with hooksDirectory := ← Readable.optional text v }
    | _, _ => pure s

def Implementation.shape : Shape ν Implementation where
  names := ["function", "targetSnippets"]
  required := ["function"]
  empty := { function := { name := "" } }
  set i
    | "function", v => do pure { i with function := ← Function.shape.read v }
    | "targetSnippets", v => do pure { i with targetSnippets := ← map SnippetPaths.shape.read v }
    | _, _ => pure i

def Microservice.shape : Shape ν Microservice where
  names := ["label", "primaryModel", "secondaryModels", "functionImplementations"]
  required := ["label", "primaryModel"]
  empty := { label := "", primaryModel := { name := "" } }
  set ms
    | "label", v => do pure { ms with label := ← text v }
    | "primaryModel", v => do pure { ms with primaryModel := ← Model.shape.read v }
    | "secondaryModels", v => do pure { ms with secondaryModels := ← list Model.shape.read v }
    | "functionImplementations", v => do
      pure { ms with implementations := ← list Implementation.shape.read v }
    | _, _ => pure ms

def Api.shape : Shape ν Api where
  names := ["label", "package", "microservices"]
  required := ["label"]
  empty := { label := "" }
  set a
    | "label", v => do pure { a with label := ← text v }
    | "package", v => do pure { a with package := ← text v }
    | "microservices", v => do pure { a with microservices := ← list Microservice.shape.read v }
    | _, _ => pure a

/-- The options of a target, of which there is one: the permissions of its files. -/
def optionsShape : Shape ν UInt32 where
  names := ["fileMode"]
  required := []
  empty := 0
  set mode
    | "fileMode", v => fileMode v
    | _, _ => pure mode

def TargetApi.shape : Shape ν TargetApi where
  names := ["label", "outPath", "version", "skipLabels"]
  aliases := [("versionPath", "version")]
  required := ["label", "outPath"]
  empty := { label := "", outPath := "" }
  set t
    | "label", v => do pure { t with label := ← text v }
    | "outPath", v => do pure { t with outPath := ← text v }
    | "version", v => do pure { t with version := ← text v }
    | "skipLabels", v => do pure { t with skipLabels := ← list text v }
    | _, _ => pure t

def Target.shape : Shape ν Target where
  names :=
    ["label", "templatePath", "templateDir", "apis", "each", "defaultVersion", "plugins", "options"]
  aliases := [("defaultVersionPath", "defaultVersion")]
  required := ["label"]
  empty := { label := "" }
  set t
    | "label", v => do pure { t with label := ← text v }
    | "templatePath", v => do pure { t with templatePath := ← text v }
    | "templateDir", v => do pure { t with templateDir := ← text v }
    | "apis", v => do pure { t with apis := ← list TargetApi.shape.read v }
    | "each", v => do pure { t with each := ← flag v }
    | "defaultVersion", v => do pure { t with defaultVersion := ← text v }
    | "plugins", v => do pure { t with plugins := ← list text v }
    | "options", v => do pure { t with fileMode := ← optionsShape.read v }
    | _, _ => pure t

def Config.shape : Shape ν Config where
  names := ["apis", "templateDir", "targets"]
  required := []
  empty := {}
  set c
    | "apis", v => do pure { c with apis := ← list Api.shape.read v }
    | "templateDir", v => do pure { c with templateDir := ← text v }
    | "targets", v => do pure { c with targets := ← list Target.shape.read v }
    | _, _ => pure c

end Stencil
