import Stencil.Config.Format
import Stencil.Generation
import Stencil.Log

/-!
# The command line

What the arguments of the program ask for, and what the program does about it.
-/

namespace Stencil

structure Options where
  targets : Option String := none
  config : Option String := none
  templates : Option String := none
  deriving DecidableEq, Repr

inductive Request where
  /-- To generate; `named` tells whether the command is named. -/
  | generate (named : Bool) (options : Options)
  /-- To show a help text or the version. -/
  | help
  | misuse
  deriving DecidableEq, Repr

namespace Options

def choose? (o : Options) (option value : String) : Option Options :=
  match option with
  | "targets" => if o.targets.isSome then none else some { o with targets := some value }
  | "config" =>
    if o.config.isSome || value == "" then none else some { o with config := some value }
  | "templates-dir" =>
    if o.templates.isSome then none else some { o with templates := some value }
  | _ => none

end Options

namespace Request

def isValue (arg : String) : Bool :=
  !startsWith ['-'] arg.toList || arg == "-"

structure Flag where
  name : String
  value : Option String

/-- The option that an argument with dashes names: in full, or by its letter. -/
def flag? (arg : List Char) : Option Flag :=
  match arg with
  | '-' :: '-' :: text =>
    let value := match text.dropWhile (· != '=') with
      | _ :: value => some (String.ofList value)
      | [] => none
    some ⟨String.ofList (text.takeWhile (· != '=')), value⟩
  | ['-'] => none
  | '-' :: c :: text =>
    let value := match text with
      | [] => none
      | '=' :: value => some (String.ofList value)
      | value => some (String.ofList value)
    match c with
    | 't' => some ⟨"targets", value⟩
    | 'c' => some ⟨"config", value⟩
    | 'h' => some ⟨"help", none⟩
    | 'V' => some ⟨"version", none⟩
    | _ => none
  | _ => none

def takesValue (option : String) : Bool :=
  option == "targets" || option == "config" || option == "templates-dir"

def ofHelp : List String → Request
  | [] | ["generate"] | ["help"] => .help
  | _ => .misuse

/-- Reads arguments; `named` tells whether the command has been named. What is chosen before it does
not count. -/
def ofArgs (named : Bool) (o : Options) : List String → Request
  | [] => .generate named o
  | "--" :: rest => if rest.isEmpty then .generate named o else .misuse
  | arg :: rest =>
    if isValue arg then
      if named then .misuse
      else if arg == "generate" then ofArgs true {} rest
      else if arg == "help" then ofHelp rest
      else .misuse
    else
      match flag? arg.toList with
      | none => .misuse
      | some f =>
        if takesValue f.name then
          match f.value with
          | some value =>
            match o.choose? f.name value with
            | some o => ofArgs named o rest
            | none => .misuse
          | none =>
            match rest with
            | [] => .misuse
            | value :: rest =>
              if isValue value then
                match o.choose? f.name value with
                | some o => ofArgs named o rest
                | none => .misuse
              else .misuse
        else if f.value.isSome then .misuse
        else if f.name == "help" || (f.name == "version" && !named) then .help
        else .misuse

end Request

structure Outcome where
  exitCode : Nat
  /-- What failed, and why. -/
  error : Option (String × String) := none
  warnings : List Warning := []
  summary : Option Summary := none
  /-- What is printed for those who ask for help. -/
  help : Option String := none
  files : FileSystem

namespace CommandLine

def programName : String := "codema"

def usage : String :=
  "Generate target-specific source files from declarative API, microservice and model definitions\n\n" ++
    "Usage: " ++ programName ++ " [OPTIONS] [COMMAND]\n\n" ++
    "Commands:\n" ++
    "  generate  Render the configured targets\n" ++
    "  help      Print this message\n\n" ++
    "Options:\n" ++
    "  -t, --targets <TARGETS>              Comma separated target labels, or * for every target\n" ++
    "  -c, --config <CONFIG>                Path to the YAML or TOML config file\n" ++
    "      --templates-dir <TEMPLATES_DIR>  Templates directory, overriding the one of the config\n" ++
    "  -h, --help                           Print help"

def generate (engines : Engines) (env : Environment) (exec : Executor) (fs : FileSystem)
    (o : Options) : Outcome :=
  let path := o.config.getD Config.defaultFile
  match Config.load fs (.ofString path) with
  | .error e =>
    { exitCode := 1, error := some ("Failed to load config " ++ path, e.message), files := fs }
  | .ok config =>
    let templates := env.expandPath (o.templates.getD config.templateDir).toList
    match Generator.prepare engines exec config templates with
    | .error e =>
      { exitCode := 1, error := some ("Failed to prepare generation", e.message), files := fs }
    | .ok g =>
      let selection := Selection.parse (o.targets.getD "*")
      let (result, w) := (g.run env selection).run { files := fs }
      match result with
      | .error e =>
        { exitCode := 1, error := some ("Failed to generate targets", e.message),
          warnings := w.warnings, files := w.files }
      | .ok summary =>
        { exitCode := 0, warnings := w.warnings, summary := some summary, files := w.files }

def run (engines : Engines) (env : Environment) (exec : Executor) (fs : FileSystem)
    (args : List String) : Outcome :=
  match Request.ofArgs false {} args with
  | .misuse => { exitCode := 2, files := fs }
  | .help => { exitCode := 0, help := some usage, files := fs }
  | .generate named o =>
    let outcome := generate engines env exec fs o
    if named then outcome else { outcome with warnings := .noCommand :: outcome.warnings }

def filterOf (env : Environment) : LogFilter :=
  LogFilter.ofVariable (env.bindings.lookup LogFilter.variableName)

def messageField : String := "message"

def shownWarnings (env : Environment) (o : Outcome) : List String :=
  let event (w : Warning) : LogEvent :=
    { level := .warn, origin := w.origin, fields := messageField :: w.fields.map (·.1) }
  (o.warnings.filter fun w => (filterOf env).shows (event w)).map (·.line)

def shownSummary (env : Environment) (o : Outcome) : Option String := do
  let s ← o.summary
  let fields :=
    [("file_count", toString s.fileCount), ("target_count", toString s.rendered.length)]
  let event : LogEvent :=
    { level := .info, origin := programName, fields := messageField :: fields.map (·.1) }
  if (filterOf env).shows event then
    some (" ".intercalate (fields.map fun (name, value) => name ++ "=" ++ value))
  else none

end CommandLine

end Stencil
