import Stencil.FileSystem
import Stencil.Registry
import Stencil.RenderFault

/-!
# Generation errors

Why generation stops, of what kind that is, and how it is told.
-/

namespace Stencil

inductive ErrorKind where
  | notFound
  | versionUnresolved
  | renderFailure
  | pluginFailure
  | ioFailure
  | configuration
  | duplicateKey
  deriving DecidableEq, Repr

def ErrorKind.text : ErrorKind → String
  | notFound => "not found"
  | versionUnresolved => "version unresolved"
  | renderFailure => "render failure"
  | pluginFailure => "plugin failure"
  | ioFailure => "I/O failure"
  | configuration => "configuration"
  | duplicateKey => "duplicate key"

/-- Why generation stops. Where a template is at fault, the message says which step failed, and the
refusal of a helper stands beside it. -/
inductive GenerationError where
  | apiNotFound (label : String)
  | templateNotFound (path : Path)
  | snippetNotFound (path : Path) (cause : IoError)
  | versionUnresolved (target api : String)
  | pathTemplate (template message : String) (refusal : Option HelperError := none)
  | render (message : String) (refusal : Option HelperError := none)
  | plugin (name : String) (path : Path) (message : String)
  | unknownPlugin (name : String)
  | outputIsDirectory (path : Path)
  | io (path : Path) (cause : IoError)
  | config (cause : ConfigError)
  /-- An error with the target and the api that were being generated. -/
  | within (target api : String) (cause : GenerationError)
  deriving DecidableEq, Repr

namespace GenerationError

def kind : GenerationError → ErrorKind
  | apiNotFound _ | templateNotFound _ | snippetNotFound .. => .notFound
  | versionUnresolved .. => .versionUnresolved
  | pathTemplate .. | render .. => .renderFailure
  | plugin .. => .pluginFailure
  | unknownPlugin _ => .configuration
  | outputIsDirectory _ | io .. => .ioFailure
  | config (.duplicate ..) => .duplicateKey
  | config _ => .configuration
  | within _ _ cause => cause.kind

def message : GenerationError → String
  | apiNotFound label => "Could not find api: " ++ label
  | templateNotFound path => "Template file not found: " ++ path.text
  | snippetNotFound path cause =>
    "Error reading snippet file: " ++ path.text ++ ": " ++ cause.message
  | versionUnresolved target api =>
    "Failed to render target: " ++ target ++ " for api: " ++ api ++
      ". Message: You specified templateDir without specifying a template version! " ++
      "You must specify either Target.defaultVersion or a TargetApi.version"
  | pathTemplate template message _ =>
    "Path template error for '" ++ template ++ "': " ++ message
  | render message _ => "Render error: " ++ message
  | plugin name path message => "Plugin " ++ name ++ " failed for " ++ path.text ++ ": " ++ message
  | unknownPlugin name => "Unknown plugin: " ++ name
  | outputIsDirectory path => "Output path is a directory: " ++ path.text
  | io path cause => "IO error on " ++ path.text ++ ": " ++ cause.message
  | config cause => cause.message
  | within target api cause =>
    "Failed to render target: " ++ target ++ " for api: " ++ api ++ ": " ++ cause.message

def refusal? : GenerationError → Option HelperError
  | pathTemplate _ _ refusal | render _ refusal => refusal
  | within _ _ cause => cause.refusal?
  | _ => none

end GenerationError

end Stencil
