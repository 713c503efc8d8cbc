import Stencil.Config.Read
import Stencil.FileSystem
import Stencil.Registry
import Stencil.Toml.Document
import Stencil.Toml.Readable
import Stencil.Yaml.Readable

/-!
# Configuration files

A configuration file is written in the notation that its extension names.
-/

namespace Stencil

inductive ConfigFormat where
  | yaml
  | toml
  deriving DecidableEq, Repr

namespace ConfigFormat

def ofPath (p : Path) : Except ConfigError ConfigFormat :=
  let ext := String.ofList (p.extension?.getD [])
  if ext = "yaml" ∨ ext = "yml" then .ok .yaml
  else if ext = "toml" then .ok .toml
  else .error (.unsupportedFormat ext p.text)

end ConfigFormat

namespace Config

def defaultFile : String := "codema.yaml"

def ofYaml (text : String) : Except ConfigError Config :=
  match Yaml.parse? text with
  | none => .error .yaml
  | some root =>
    match (Config.shape.read root).within root.document.allowance with
    | .ok c => .ok c
    | .error _ => .error .yaml

def ofToml (text : String) : Except ConfigError Config :=
  match Toml.parse? text.toList with
  | none => .error .toml
  | some root =>
    match (Config.shape.read root).within 0 with
    | .ok c => .ok c
    | .error _ => .error .toml

def parse (text : String) : ConfigFormat → Except ConfigError Config
  | .yaml => ofYaml text
  | .toml => ofToml text

def load (fs : FileSystem) (p : Path) : Except ConfigError Config := do
  let format ← ConfigFormat.ofPath p
  match fs.readText p with
  | .ok text => parse text format
  | .error e => .error (.unreadable p.text e.message)

end Config

end Stencil
