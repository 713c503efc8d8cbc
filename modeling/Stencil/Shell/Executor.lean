import Stencil.Command
import Stencil.Environment
import Stencil.Shell.Evaluator

/-!
# Starting programs

A program is looked for on the search path of the environment. A file starts with the interpreter
that its first line names; the shell and some other programs belong to the system.
-/

namespace Stencil.Shell

def interpreter? (content : Octets) : Option (Octets × List Octets) := do
  let isBlank (c : Char) : Bool := c == ' ' || c == '\t'
  let line ← match content with
    | '#' :: '!' :: rest => some (rest.takeWhile (· != '\n'))
    | _ => none
  let line := ((line.dropWhile isBlank).reverse.dropWhile isBlank).reverse
  let name := line.takeWhile (!isBlank ·)
  let arg := (line.drop name.length).dropWhile isBlank
  if name.isEmpty then none else some (name, if arg.isEmpty then [] else [arg])

/-! ## The shell -/

def startBindings (m : Machine) : List (Octets × Variable) :=
  let own : List (String × String) :=
    [("IFS", " \t\n"), ("OPTIND", "1"), ("PPID", "999"), ("PS1", "# "), ("PS2", "> "), ("PS4", "+ ")]
  let here := Program.placeText m.files.workingDir
  let given := m.environment.filter fun (name, _) =>
    Word.isName name && name != "PWD".toList && !own.any fun v => v.1.toList == name
  let path : List (Octets × Variable) :=
    if given.any (·.1 == "PATH".toList) then []
    else [("PATH".toList,
      { value := some "/usr/local/sbin:/usr/local/bin:/usr/sbin:/usr/bin:/sbin:/bin".toList })]
  path ++ ("PWD".toList, { value := some here, exported := true }) ::
    given.map (fun (name, value) => (name, { value := some value, exported := true })) ++
    own.map fun (name, value) => (name.toList, { value := some value.toList })

def runScript (spawn : Spawn) (options : Options) (name : Octets) (params : List Octets)
    (text : Octets) : Act Status := do
  let machine ← get
  let session : Session := { machine, name, params, options, bindings := startBindings machine }
  let (result, session) := (Running.whole spawn text).run session
  set session.machine
  match result with
  | .ok status => return status
  | .error (.killed n) => return .killed n
  | .error _ => return .exited session.status

def shell (spawn : Spawn) (name : Octets) : Program := fun args => do
  let refuse (text : Octets) : Act Status := do
    Act.complain (name ++ ": 0: ".toList ++ text)
    return .exited Running.errorStatus
  match Builtin.readOptions true (args.length + 1) {} args with
  | .error text => refuse text
  | .ok (options, rest, _, isCommand) =>
    match isCommand, rest with
    | true, [] => refuse "-c requires an argument".toList
    | true, [text] => runScript spawn options name [] text
    | true, text :: name :: params => runScript spawn options name params text
    | false, [] => runScript spawn options name [] (← Act.takeInput)
    | false, file :: params =>
      if options.others.contains 's' then
        runScript spawn options name rest (← Act.takeInput)
      else
        match ← Act.readFile file with
        | .ok text => runScript spawn options file params text
        | .error .isDirectory => return .success
        | .error e => refuse ("cannot open ".toList ++ file ++ ": ".toList ++ Running.openReason false e)

/-! ## Processes -/

/-- Does something as a process of its own, which shares the files and the channels. -/
def isolated {α : Type} (a : Act α) : Act α := do
  let before ← get
  let result ← a
  modify fun m => { m with
    handles := before.handles
    environment := before.environment
    files := { m.files with workingDir := before.files.workingDir } }
  return result

def maxDepth : Nat := 64

mutual

/-- Starts a program; `depth` bounds how many programs start one another. A file without an
interpreter is a script for the shell if `scripts` holds. Without a search path of its own the one
of the environment counts, and then no program has the empty name. -/
def start : (depth : Nat) → (scripts : Bool) → Spawn
  | 0, _, _, _, _ => return .error .notFound
  | depth + 1, scripts, path, name, args => do
    if path.isNone && name.isEmpty then return .error .notFound
    let m ← get
    let searchPath := (path.or (m.environment.lookup "PATH".toList)).getD "/bin:/usr/bin".toList
    match Started.find m.files searchPath name with
    | .error e => return .error e
    | .ok (_, .known known) => startKnown depth known name args
    | .ok (_, .file path content) =>
      match interpreter? content with
      | none =>
        if scripts then startKnown depth "sh" path (path :: args) else return .error .notExecutable
      | some (interpreter, arg) =>
        match Started.systemName? interpreter with
        | some known => startKnown depth known interpreter (arg ++ path :: args)
        | none =>
          if m.files.isFile (pathOf interpreter) then
            start depth false none interpreter (arg ++ path :: args)
          else return .error .notFound

def startKnown : (depth : Nat) → (known : String) → Octets → List Octets → Act (Except IoError Status)
  | 0, _, _, _ => return .error .notFound
  | depth + 1, known, name, args => do
    let spawn : Spawn := fun path name args => start depth true path name args
    match Program.named spawn known with
    | some program => .ok <$> isolated (program args)
    | none => .ok <$> isolated (shell spawn name args)

end

/-- The files of the system: some directories, and the programs that belong to it. -/
def systemFiles : List (Place × Node) :=
  let dirs : List Place := [["bin"], ["dev"], ["etc"], ["root"], ["tmp"], ["usr"], ["usr", "bin"]]
  let program (name : String) : List (Place × Node) :=
    [["bin", name], ["usr", "bin", name]].map fun place => (place, Node.file 0o755 ".".toUTF8)
  dirs.map (·, .dir Node.defaultDirMode) ++ Program.systemNames.flatMap program

/-- A file system with the files of the system, in which the working directory can be left and found
again. -/
def grounded (fs : FileSystem) : FileSystem :=
  let own := (List.range (fs.workingDir.length + 1)).map fun n =>
    (fs.workingDir.take n, Node.dir Node.defaultDirMode)
  let missing := (own ++ systemFiles).filter fun (place, _) => (fs.entries.lookup place).isNone
  { fs with entries := fs.entries ++ missing }

def ungrounded (fs : FileSystem) : FileSystem :=
  { fs with entries := fs.entries.filter fun (place, _) =>
      !systemFiles.any fun (other, _) => other == place }

def machineFor (env : Environment) (files : FileSystem) (stdin : String) : Machine where
  files := files
  channels := #[.source (Octets.ofText stdin), .sink #[], .sink #[]]
  handles := [(Act.input, 0), (Act.output, 1), (Act.errors, 2)]
  environment := env.bindings.map fun (name, value) => (Octets.ofText name, Octets.ofText value)

def execute (env : Environment) : Executor := fun call => do
  let failed (e : IoError) : GenerationError :=
    .io call.dir (.other ("Failed to execute command '" ++ call.program ++ "': " ++ e.message))
  if (call.program :: call.dir.text :: call.args).any (·.contains '\x00') then
    throw (failed (.other "nul byte found in provided data"))
  let fs ← get
  match fs.status call.dir with
  | .error e => throw (failed e)
  | .ok (_, .file ..) => throw (failed .notDirectory)
  | .ok (place, .dir _) =>
    let machine := machineFor env { grounded fs with workingDir := place } call.stdin
    let (result, machine) :=
      (start maxDepth false none (Octets.ofText call.program) (call.args.map Octets.ofText)).run machine
    match result with
    | .error e => throw (failed e)
    | .ok status =>
      set { ungrounded machine.files with workingDir := fs.workingDir }
      return {
        exitCode := match status with
          | .exited n => n
          | .killed _ => -1
        stdout := Octets.text (machine.written 1)
        stderr := Octets.text (machine.written 2) }

end Stencil.Shell
