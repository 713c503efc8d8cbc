import Stencil.Command
import Stencil.Model
import Stencil.Text.CharClass

/-!
# Plugins

What happens to the text of a file before it is written: the plugins of its target change it, one
after the other.
-/

namespace Stencil

/-- A named change of the text of a file, which may look at the files that are there and change
them. -/
structure Plugin where
  name : String
  run : Path → String → FileAction String

namespace Plugin

/-- The directory in which a command runs for a file: the one of the file if it exists. -/
def commandDir (fs : FileSystem) (path : Path) : Path :=
  match path.parent? with
  | some dir => if fs.isDir dir then dir else .ofString "."
  | none => .ofString "."

def command (exec : Executor) (name program : String) (args : List String) : Plugin where
  name := name
  run path content := do
    let call : Invocation :=
      { program, args, stdin := content, dir := commandDir (← get) path }
    let result ← tryCatch (exec call) fun e => throw (.plugin name path e.message)
    if result.succeeded then pure result.stdout
    else
      throw (.plugin name path
        (program ++ " exited with code " ++ toString result.exitCode ++ ": " ++
          String.ofList (trimBy isBlank result.stderr.toList)))

def builtin? (exec : Executor) (name : String) : Option Plugin :=
  match name with
  | "GoImports" => some (command exec name "goimports" [])
  | "GoFmt" => some (command exec name "gofmt" [])
  | "RustFmt" =>
    some (command exec name "rustfmt" ["--edition", "2021", "--emit", "stdout"])
  | _ => none

/-- Runs plugins one after the other; the first one that fails ends the chain. -/
def runAll (plugins : List Plugin) (path : Path) (content : String) : FileAction String :=
  plugins.foldlM (fun content plugin => plugin.run path content) content

end Plugin

structure PluginRegistry where
  groups : List (String × List Plugin) := []

namespace PluginRegistry

def addTo (label : String) (plugin : Plugin) :
    List (String × List Plugin) → List (String × List Plugin)
  | [] => [(label, [plugin])]
  | (l, plugins) :: rest =>
    if l = label then (l, plugins ++ [plugin]) :: rest else (l, plugins) :: addTo label plugin rest

def register (r : PluginRegistry) (label : String) (plugin : Plugin) : PluginRegistry :=
  ⟨addTo label plugin r.groups⟩

def plugins (r : PluginRegistry) (label : String) : List Plugin :=
  (r.groups.lookup label).getD []

def registerNamed (exec : Executor) (r : PluginRegistry) (label name : String) :
    Except GenerationError PluginRegistry :=
  match Plugin.builtin? exec name with
  | some plugin => .ok (r.register label plugin)
  | none => .error (.unknownPlugin name)

def ofTargets (exec : Executor) (targets : List Target) : Except GenerationError PluginRegistry :=
  (targets.flatMap fun t => t.plugins.map fun name => (t.label, name)).foldlM
    (fun r (label, name) => r.registerNamed exec label name) {}

def run (r : PluginRegistry) (label : String) (path : Path) (content : String) :
    FileAction String :=
  Plugin.runAll (r.plugins label) path content

end PluginRegistry

end Stencil
