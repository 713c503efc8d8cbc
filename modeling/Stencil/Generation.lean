import Stencil.Macro
import Stencil.Output
import Stencil.PathTemplate
import Stencil.Plugin
import Stencil.Render
import Stencil.Selection
import Stencil.Snippet

/-!
# Generation

A run goes through the selected targets, the apis of each and, where a target asks for it, the
microservices of each api. A file is rendered and passed through the plugins before it is touched;
only the directories above it are made earlier, since plugins run there. The first error ends the
run, and what was written stays.
-/

namespace Stencil

/-- What generation changes: the files and the list of reports. -/
structure World where
  files : FileSystem
  warnings : List Warning := []

abbrev Generating (α : Type) := ExceptT GenerationError (StateM World) α

namespace Generating

variable {α : Type}

def warn (ws : List Warning) : Generating Unit :=
  modify fun w => { w with warnings := w.warnings ++ ws }

def onFiles (action : FileAction α) : Generating α := do
  let w ← get
  let (result, files) := action.run w.files
  set { w with files }
  match result with
  | .ok a => pure a
  | .error e => throw e

def orThrow (result : Except GenerationError α) : Generating α :=
  match result with
  | .ok a => pure a
  | .error e => throw e

def reporting (action : Reporting GenerationError α) : Generating α := do
  let (result, ws) := action.run []
  warn ws
  orThrow result

def within (target api : String) (action : Generating α) : Generating α :=
  tryCatch action fun e => throw (.within target api e)

end Generating

open Generating

structure LoadedTemplate where
  text : String
  engine : Engine

/-- A file that is to be generated: the microservice it is for, if it is not for a whole api, and
what its template reads. -/
structure Item where
  path : Path
  microservice : Option Microservice
  data : Json

structure TargetRun where
  engines : Engines
  env : Environment
  apis : List Api
  target : Target
  templates : Path
  plugins : PluginRegistry
  tags : TagRegistry

def Version.Missing.error (target : Target) (api : TargetApi) : Version.Missing → GenerationError
  | noVersion => .versionUnresolved target.label api.label
  | noFile path => .templateNotFound path

namespace TargetRun

def loadTemplate (r : TargetRun) (api : TargetApi) : Generating LoadedTemplate := do
  let fs := (← get).files
  match Version.templatePath fs r.templates r.target api with
  | .error why => throw (why.error r.target api)
  | .ok path =>
    match fs.readText path with
    | .error e => throw (.io path e)
    | .ok text => pure ⟨text, Engine.ofPath path⟩

def renderText (r : TargetRun) (t : LoadedTemplate) (item : Item) : Generating String := do
  let (injected, warnings) :=
    Snippet.inject (← get).files r.templates r.target.label item.microservice t.text.toList
  warn warnings
  let injected ← orThrow injected
  let (expanded, warnings) :=
    Macro.expand r.tags (item.microservice.map (·.primaryModel)) injected
  warn warnings
  return String.ofList (← reporting (t.engine.render r.engines expanded item.data))

def generateFile (r : TargetRun) (t : LoadedTemplate) (item : Item) : Generating Unit := do
  let text ← r.renderText t item
  onFiles (FileWriter.prepare item.path)
  let content ← onFiles (r.plugins.run r.target.label item.path text)
  onFiles ((FileWriter.ofMode r.target.fileMode).write item.path content)

def chosen (api : Api) (targetApi : TargetApi) : List Microservice :=
  api.microservices.filter fun ms => !targetApi.skips ms.label

def generateFor (r : TargetRun) (t : LoadedTemplate) (outPath : PathTemplate) (api : Api)
    (ms : Microservice) : Generating Unit := do
  let path ← reporting (outPath.forMicroservice r.engines r.env api ms)
  r.generateFile t { path, microservice := some ms, data := Context.forMicroservice api ms }

def generateApi (r : TargetRun) (targetApi : TargetApi) : Generating Nat := do
  match r.apis.find? (·.label == targetApi.label) with
  | none => throw (.apiNotFound targetApi.label)
  | some api =>
    let outPath ← orThrow (PathTemplate.compile r.engines targetApi.outPath)
    let t ← r.loadTemplate targetApi
    if r.target.each then
      let chosen := chosen api targetApi
      chosen.forM (r.generateFor t outPath api)
      return chosen.length
    else
      let path ← reporting (outPath.forApi r.engines r.env api)
      r.generateFile t { path, microservice := none, data := Context.forApi api }
      return 1

def generate (r : TargetRun) : Generating Nat :=
  r.target.apis.foldlM
    (fun count api => do
      return count + (← within r.target.label api.label (r.generateApi api)))
    0

end TargetRun

structure Summary where
  fileCount : Nat := 0
  rendered : List String := []
  /-- The labels that were asked for and that no target has. -/
  undefined : List String := []
  deriving DecidableEq, Repr

structure Generator where
  engines : Engines
  config : Config
  templates : Path
  registries : Registries
  plugins : PluginRegistry

namespace Generator

def prepare (engines : Engines) (exec : Executor) (config : Config) (templates : Path) :
    Except GenerationError Generator := do
  let registries ← (Registries.build config).mapError .config
  (config.validate registries.models).mapError .config
  let plugins ← PluginRegistry.ofTargets exec config.targets
  pure { engines, config, templates, registries, plugins }

def targetRun (g : Generator) (env : Environment) (target : Target) : TargetRun where
  engines := g.engines
  env := env
  apis := g.config.apis
  target := target
  templates := g.templates
  plugins := g.plugins
  tags := g.registries.tags

def selected (g : Generator) (s : Selection) : List Target :=
  g.config.targets.filter fun t => s.includes t.label

/-- The labels that a selection asks for and that are not among those given. -/
def undefinedLabels (s : Selection) (labels : List String) : List String :=
  match s with
  | .all => []
  | .only wanted => wanted.filter fun l => !labels.contains l

def run (g : Generator) (env : Environment) (s : Selection) : Generating Summary := do
  let targets := g.selected s
  let fileCount ← targets.foldlM
    (fun count t => do return count + (← (g.targetRun env t).generate)) 0
  let rendered := targets.map (·.label)
  let undefined := undefinedLabels s rendered
  warn (undefined.map .targetNotDefined)
  return { fileCount, rendered, undefined }

end Generator

end Stencil
