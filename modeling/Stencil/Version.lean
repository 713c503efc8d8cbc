import Stencil.Engine
import Stencil.FileSystem
import Stencil.Model

/-!
# Template versions

Where the template of a target is found: either at a path of its own, or in a directory under the
name of a version, with one of the known extensions.
-/

namespace Stencil.Version

/-- The version of an api counts before that of its target. -/
def resolve (default api : String) : String :=
  if api = "" then default else api

/-- A path below the templates directory; slashes at its beginning do not count. -/
def underTemplates (templates : Path) (relative : String) : Path :=
  templates.join ⟨relative.toList.dropWhile (· == '/')⟩

def withExtension (base : Path) (ext : String) : Path :=
  ⟨base.chars ++ '.' :: ext.toList⟩

inductive Missing where
  | noVersion
  | noFile (path : Path)
  deriving DecidableEq, Repr

def base (templates : Path) (target : Target) (version : String) : Path :=
  (underTemplates templates target.templateDir).join (.ofString version)

def templatePath (fs : FileSystem) (templates : Path) (target : Target) (api : TargetApi) :
    Except Missing Path :=
  if target.templateDir = "" then
    let path := underTemplates templates target.templatePath
    if fs.isFile path then .ok path else .error (.noFile path)
  else
    let version := resolve target.defaultVersion api.version
    if version = "" then .error .noVersion
    else
      let candidates := Engine.extensions.map (withExtension (base templates target version))
      match candidates.find? fs.isFile with
      | some path => .ok path
      | none => .error (.noFile (candidates.headD ⟨[]⟩))

end Stencil.Version
