import Stencil.CommandLine
import Stencil.Engines.Standard
import Stencil.Shell.Executor

/-!
# The program

Takes the files below the working directory, runs the command line over them, and writes back what
has changed. What the run does is decided elsewhere.
-/

namespace Stencil.Program

def skippedNames : List String :=
  [".git"]

partial def readTree (dir : IO.FS.DirEntry) (place : Place) : IO (List (Place × Node)) := do
  let mut entries := [(place, Node.dir Node.defaultDirMode)]
  for entry in ← dir.path.readDir do
    if !skippedNames.contains entry.fileName then
      let inner := place ++ [entry.fileName]
      if ← entry.path.isDir then entries := entries ++ (← readTree entry inner)
      else entries := (inner, .file 0o755 (← IO.FS.readBinFile entry.path)) :: entries
  return entries

def readFiles : IO FileSystem := do
  let dir ← IO.currentDir
  let place := (dir.toString.splitOn "/").filter (· != "")
  return { entries := ← readTree ⟨dir, ""⟩ place, workingDir := place }

def askedNames (text : String) : List String :=
  if hasInfix "get_env".toList text.toList then
    (text.toList.splitBy fun c d => isIdentChar c == isIdentChar d).map String.ofList
  else []

def readAccountHome : IO (Option String) := do
  let some user ← IO.getEnv "USER" | return none
  let list ← try IO.FS.readFile "/etc/passwd" catch _ => pure ""
  let accounts := (list.splitOn "\n").map (·.splitOn ":")
  return do (← accounts.find? (·.head? == some user))[5]?

def readEnvironment (fs : FileSystem) (args : List String) : IO Environment := do
  let texts := fs.entries.filterMap fun (_, n) =>
    match n with
    | .file _ content => String.fromUTF8? content
    | .dir _ => none
  let names := (args ++ texts).flatMap fun t => Environment.referencedNames t.toList
  let names := "HOME" :: "PATH" :: LogFilter.variableName :: names ++ texts.flatMap askedNames
  let bindings ← names.eraseDups.filterMapM fun name => do
    return (← IO.getEnv name).map fun value => (name, value)
  return { bindings, accountHome := ← readAccountHome }

/-- The engines, with one throw of the dice for the whole run. -/
def readEngines (env : Environment) : IO Engines := do
  let thrown ← IO.rand 0 (Nat.pow 2 62)
  return .standard {
    bindings := env.bindings
    random := fun start stop => start + thrown % (stop - start) }

def rights (bits : UInt32) : IO.AccessRight :=
  { read := bits &&& 4 != 0, write := bits &&& 2 != 0, execution := bits &&& 1 != 0 }

def setMode (path : String) (mode : UInt32) : IO Unit :=
  IO.setAccessRights path
    { user := rights (mode >>> 6), group := rights (mode >>> 3), other := rights mode }

def isSame : Option Node → Node → Bool
  | some (.dir _), .dir _ => true
  | some (.file m c), .file m' c' => m == m' && c == c'
  | _, _ => false

def writeChanges (before after : FileSystem) : IO Unit := do
  for (place, node) in after.entries.mergeSort fun a b => a.1.length ≤ b.1.length do
    if !isSame (before.node? place) node then
      let path := "/" ++ "/".intercalate place
      match node with
      | .dir _ => IO.FS.createDirAll path
      | .file mode content =>
        if (before.node? place).isSome then setMode path FileWriter.writableMode
        IO.FS.writeBinFile path content
        setMode path mode
  -- what is inside a directory goes before the directory
  for (place, node) in before.entries.mergeSort fun a b => b.1.length ≤ a.1.length do
    if (after.node? place).isNone then
      let path := "/" ++ "/".intercalate place
      if node.isDir then IO.FS.removeDir path else IO.FS.removeFile path

def run (args : List String) : IO UInt32 := do
  let fs ← readFiles
  let env ← readEnvironment fs args
  let o := CommandLine.run (← readEngines env) env (Shell.execute env) fs args
  writeChanges fs o.files
  for line in CommandLine.shownWarnings env o do IO.println ("WARN " ++ line)
  if let some text := CommandLine.shownSummary env o then
    IO.println ("INFO Generation complete " ++ text)
  if let some text := o.help then IO.println text
  if let some (what, why) := o.error then
    IO.eprintln ("Error: " ++ what ++ "\n\nCaused by:\n    " ++ why)
  return UInt32.ofNat o.exitCode

end Stencil.Program

def main (args : List String) : IO UInt32 :=
  Stencil.Program.run args
