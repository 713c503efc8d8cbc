import Stencil.FileAction

/-!
# Writing generated files

A generated file is made writable, given its content and then its permissions, so that it can be
written again although it is read-only in between. Each of these steps may fail; what was done
before stays.
-/

namespace Stencil

/-- A step of writing a file that fails although the file system allows it. -/
inductive WriteFault where
  /-- The file cannot be made writable. -/
  | unlock (e : IoError)
  /-- The file cannot be opened. -/
  | opening (e : IoError)
  /-- The content ends after so many bytes. -/
  | content (kept : Nat) (e : IoError)
  /-- The file cannot be given its permissions. -/
  | mode (e : IoError)
  deriving DecidableEq, Repr

structure FileWriter where
  mode : UInt32
  deriving DecidableEq, Repr

namespace FileWriter

def defaultMode : UInt32 := 0o444

/-- The permissions of a file that is about to be written. -/
def writableMode : UInt32 := 0o666

/-- The writer for configured permissions; 0 stands for the default ones. -/
def ofMode (mode : UInt32) : FileWriter :=
  ⟨if mode = 0 then defaultMode else mode⟩

def attempt (path : Path) (result : Except IoError Unit × FileSystem) : FileAction Unit := do
  set result.2
  match result.1 with
  | .ok () => pure ()
  | .error e => throw (.io path e)

def orKeep (fs : FileSystem) (result : Except IoError FileSystem) :
    Except IoError Unit × FileSystem :=
  match result with
  | .ok fs => (.ok (), fs)
  | .error e => (.error e, fs)

def prepare (path : Path) : FileAction Unit := do
  let fs ← get
  if fs.isDir path then throw (.outputIsDirectory path)
  match path.parent? with
  | none => pure ()
  | some parent => if parent.isEmpty then pure () else attempt parent (fs.createDirs parent)

/-- Gives a file its permissions, unless that fails for a reason of its own. -/
def changeMode (fault : Option IoError) (path : Path) (mode : UInt32) : FileAction Unit := do
  let fs ← get
  match fault with
  | some e => throw (.io path e)
  | none => attempt path (orKeep fs (fs.setMode path mode))

/-- Gives a file its content, unless that fails for a reason of its own. -/
def fill (fault : Option WriteFault) (path : Path) (content : ByteArray) : FileAction Unit := do
  let fs ← get
  match fault with
  | some (.opening e) => throw (.io path e)
  | some (.content kept e) =>
    attempt path (orKeep fs (fs.store path (content.extract 0 kept)))
    throw (.io path e)
  | _ => attempt path (orKeep fs (fs.store path content))

/-- Writes a file, where one of the steps may be made to fail. -/
def writeWith (fault : Option WriteFault) (w : FileWriter) (path : Path) (content : String) :
    FileAction Unit := do
  prepare path
  if (← get).has path then
    changeMode (match fault with
      | some (.unlock e) => some e
      | _ => none) path writableMode
  fill fault path content.toUTF8
  changeMode (match fault with
    | some (.mode e) => some e
    | _ => none) path w.mode

def write (w : FileWriter) (path : Path) (content : String) : FileAction Unit :=
  w.writeWith none path content

end FileWriter

end Stencil
