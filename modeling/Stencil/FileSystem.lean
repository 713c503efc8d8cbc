import Stencil.Path

/-!
# File systems

A file system without links, as one process sees it: directories and files below one root, all of
them owned by the account of the process, and a working directory from which relative paths are
followed. The owner's bits of permissions stand in the way of a process that is not privileged: it
has to be allowed to search each directory that it steps through, to write to the directory in which
it makes something, and to read or write the file that it opens. Besides files there are devices
with nothing behind them, such as the terminal of a process that has none: they have permissions
like files, but nobody can open them.
-/

namespace Stencil

inductive IoError where
  | notFound
  | denied
  | alreadyExists
  | notDirectory
  | isDirectory
  | nameTooLong
  | noDevice
  | notExecutable
  | notText
  | nulInPath
  | other (text : String)
  deriving DecidableEq, Repr

namespace IoError

def reason : IoError → String
  | notFound => "No such file or directory"
  | denied => "Permission denied"
  | alreadyExists => "File exists"
  | notDirectory => "Not a directory"
  | isDirectory => "Is a directory"
  | nameTooLong => "File name too long"
  | noDevice => "No such device or address"
  | notExecutable => "Exec format error"
  | notText => "stream did not contain valid UTF-8"
  | nulInPath => "file name contained an unexpected NUL byte"
  | other text => text

/-- The number of the error, if it is one of the operating system's. -/
def number? : IoError → Option Nat
  | notFound => some 2
  | noDevice => some 6
  | notExecutable => some 8
  | denied => some 13
  | alreadyExists => some 17
  | notDirectory => some 20
  | isDirectory => some 21
  | nameTooLong => some 36
  | notText | nulInPath | other _ => none

def message (e : IoError) : String :=
  match e.number? with
  | some n => e.reason ++ " (os error " ++ toString n ++ ")"
  | none => e.reason

end IoError

inductive Node where
  | dir (mode : UInt32)
  | file (mode : UInt32) (content : ByteArray)

def Node.mode : Node → UInt32
  | dir mode => mode
  | file mode _ => mode

def Node.isDir : Node → Bool
  | dir _ => true
  | file .. => false

def Node.withMode (mode : UInt32) : Node → Node
  | dir _ => dir mode
  | file _ content => file mode content

def Node.defaultDirMode : UInt32 := 0o755

/-- A place in the file system: the names from the root to it. -/
abbrev Place := List String

/-- What is given besides files and directories: the process that works on them, and devices. -/
structure Setting where
  workingDir : Place
  /-- Whether permissions do not count for the process. -/
  privileged : Bool := true
  /-- The permissions that nothing new gets. -/
  umask : UInt32 := 0o022
  /-- Where devices are that nobody can open, and their permissions. -/
  devices : List (Place × UInt32) := [(["dev", "tty"], 0o666)]

structure FileSystem extends Setting where
  entries : List (Place × Node)

def ownerRead : UInt32 := 0o400

def ownerWrite : UInt32 := 0o200

def ownerSearch : UInt32 := 0o100

namespace FileSystem

/-- Whether the process may do what a bit of permissions stands for. -/
def allows (fs : FileSystem) (bit mode : UInt32) : Bool :=
  fs.privileged || mode &&& bit == bit

def newFileMode (fs : FileSystem) : UInt32 :=
  0o666 &&& ~~~fs.umask

def newDirMode (fs : FileSystem) : UInt32 :=
  0o777 &&& ~~~fs.umask

/-- The directories that are always there, with their ancestors. -/
def fixedDirs (fs : FileSystem) : List Place :=
  fs.workingDir :: fs.devices.map fun d => d.1.dropLast

def node? (fs : FileSystem) (place : Place) : Option Node :=
  match fs.entries.lookup place with
  | some n => some n
  | none => if fs.fixedDirs.any place.isPrefixOf then some (.dir Node.defaultDirMode) else none

/-- The permissions of the device at a place. A file or directory there stands in for it. -/
def device? (fs : FileSystem) (place : Place) : Option UInt32 :=
  match fs.node? place with
  | some _ => none
  | none => fs.devices.lookup place

def put (fs : FileSystem) (place : Place) (n : Node) : FileSystem :=
  { fs with entries := (place, n) :: fs.entries.filter fun e => e.1 != place }

/-- Takes a place away, with everything below it. -/
def erase (fs : FileSystem) (place : Place) : FileSystem :=
  { fs with entries := fs.entries.filter fun e => !place.isPrefixOf e.1 }

/-- Whether the directory above a place keeps the process from adding or taking away what is
there. -/
def isSealed (fs : FileSystem) (place : Place) : Bool :=
  match fs.node? place.dropLast with
  | some (.dir mode) => !fs.allows ownerWrite mode
  | _ => false

/-- Follows names from a place. Each place on the way has to be a directory that may be searched. -/
def follow (fs : FileSystem) (place : Place) : List String → Except IoError Place
  | [] => .ok place
  | name :: names =>
    match fs.node? place with
    | none => .error (if (fs.device? place).isSome then .notDirectory else .notFound)
    | some (.file ..) => .error .notDirectory
    | some (.dir mode) =>
      if !fs.allows ownerSearch mode then .error .denied
      else if name.utf8ByteSize > 255 then .error .nameTooLong
      else
        fs.follow
          (if name == "." then place else if name == ".." then place.dropLast else place ++ [name])
          names

def endsInSlash (p : Path) : Bool :=
  p.chars.getLast? == some '/'

/-- The place a path leads to, which need not exist itself. -/
def locate (fs : FileSystem) (p : Path) : Except IoError Place :=
  if p.chars.contains '\x00' then .error .nulInPath
  else if p.isEmpty then .error .notFound
  else if p.text.utf8ByteSize > 4095 then .error .nameTooLong
  else
    let names := (p.pieces.filter (!·.isEmpty)).map String.ofList
    fs.follow (if p.isAbsolute then [] else fs.workingDir) names

def status (fs : FileSystem) (p : Path) : Except IoError (Place × Node) := do
  let place ← fs.locate p
  match fs.node? place with
  | none =>
    .error (if (fs.device? place).isNone then .notFound
      else if endsInSlash p then .notDirectory else .noDevice)
  | some (.dir mode) => .ok (place, .dir mode)
  | some n => if endsInSlash p then .error .notDirectory else .ok (place, n)

def deviceAt? (fs : FileSystem) (p : Path) : Option (Place × UInt32) := do
  let place ← (fs.locate p).toOption
  let mode ← fs.device? place
  if endsInSlash p then none else some (place, mode)

def isDir (fs : FileSystem) (p : Path) : Bool :=
  match fs.status p with
  | .ok (_, .dir _) => true
  | _ => false

def isFile (fs : FileSystem) (p : Path) : Bool :=
  match fs.status p with
  | .ok (_, .file ..) => true
  | _ => false

def has (fs : FileSystem) (p : Path) : Bool :=
  (fs.status p).isOk || (fs.deviceAt? p).isSome

/-- Why something that may be opened with some permissions cannot be opened after all. -/
def refusal (fs : FileSystem) (bit mode : UInt32) (e : IoError) : IoError :=
  if fs.allows bit mode then e else .denied

def readBytes (fs : FileSystem) (p : Path) : Except IoError ByteArray :=
  match fs.deviceAt? p with
  | some (_, mode) => .error (fs.refusal ownerRead mode .noDevice)
  | none => do
    match ← fs.status p with
    | (_, .dir mode) => .error (fs.refusal ownerRead mode .isDirectory)
    | (_, .file mode content) => if fs.allows ownerRead mode then .ok content else .error .denied

def readText (fs : FileSystem) (p : Path) : Except IoError String := do
  match String.fromUTF8? (← fs.readBytes p) with
  | some text => .ok text
  | none => .error .notText

def createDir (fs : FileSystem) (p : Path) : Except IoError FileSystem := do
  let place ← fs.locate p
  if (fs.node? place).isSome || (fs.device? place).isSome then .error .alreadyExists
  else if fs.isSealed place then .error .denied
  else .ok (fs.put place (.dir fs.newDirMode))

/-- Makes a directory and those of its ancestors that are missing; a directory that exists already
is no error. `depth` bounds the number of ancestors. -/
def createDirsWithin (fs : FileSystem) (p : Path) : (depth : Nat) → Except IoError Unit × FileSystem
  | 0 => (.error (.other "failed to create whole tree"), fs)
  | depth + 1 =>
    if p.isEmpty then (.ok (), fs)
    else
      match fs.createDir p with
      | .ok fs => (.ok (), fs)
      | .error .notFound =>
        match p.parent? with
        | none => (.error (.other "failed to create whole tree"), fs)
        | some parent =>
          match fs.createDirsWithin parent depth with
          | (.error e, fs) => (.error e, fs)
          | (.ok (), fs) =>
            match fs.createDir p with
            | .ok fs => (.ok (), fs)
            | .error e => if fs.isDir p then (.ok (), fs) else (.error e, fs)
      | .error e => if fs.isDir p then (.ok (), fs) else (.error e, fs)

def createDirs (fs : FileSystem) (p : Path) : Except IoError Unit × FileSystem :=
  fs.createDirsWithin p (p.chars.length + 2)

/-- Replaces the content of a file, or makes one. -/
def store (fs : FileSystem) (p : Path) (content : ByteArray) : Except IoError FileSystem := do
  let place ← fs.locate p
  if endsInSlash p then .error .isDirectory
  else
    match fs.node? place with
    | some (.dir _) => .error .isDirectory
    | some (.file mode _) =>
      if fs.allows ownerWrite mode then .ok (fs.put place (.file mode content)) else .error .denied
    | none =>
      match fs.device? place with
      | some mode => .error (fs.refusal ownerWrite mode .noDevice)
      | none =>
        if fs.isSealed place then .error .denied
        else .ok (fs.put place (.file fs.newFileMode content))

def setDevice (fs : FileSystem) (place : Place) (mode : UInt32) : FileSystem :=
  { fs with devices := fs.devices.map fun d => if d.1 == place then (place, mode) else d }

def setMode (fs : FileSystem) (p : Path) (mode : UInt32) : Except IoError FileSystem :=
  match fs.deviceAt? p with
  | some (place, _) => .ok (fs.setDevice place (mode &&& 0o7777))
  | none => do
    let (place, n) ← fs.status p
    .ok (fs.put place (n.withMode (mode &&& 0o7777)))

def remove (fs : FileSystem) (p : Path) : FileSystem :=
  match fs.status p with
  | .ok (place, _) => if fs.isSealed place then fs else fs.erase place
  | .error _ => fs

def names (fs : FileSystem) (place : Place) : List String :=
  let found := fs.entries.filterMap fun (p, _) =>
    if p.length == place.length + 1 && place.isPrefixOf p then p.getLast? else none
  (found.mergeSort fun x y => !(y < x)).eraseDups

/-- What is at a path and below it, each with its path as seen from there, a directory's path ending
in a slash; sorted by these paths. -/
def listing (fs : FileSystem) (top : String) : List (String × Node) :=
  match fs.status (.ofString top) with
  | .error _ => []
  | .ok (place, n) =>
    let below := fs.entries.filterMap fun (p, n) =>
      if place.isPrefixOf p && p != place then
        some (top ++ "/" ++ String.intercalate "/" (p.drop place.length), n)
      else none
    let slashed := ((top, n) :: below).map fun (text, n) =>
      (if n.isDir then text ++ "/" else text, n)
    slashed.mergeSort fun x y => !(y.1 < x.1)

def plant (fs : FileSystem) (p : Path) (n : Node) : FileSystem :=
  match n with
  | .dir _ => (fs.createDirs p).2
  | .file mode content =>
    let fs := match p.parent? with
      | some parent => (fs.createDirs parent).2
      | none => fs
    match fs.store p content with
    | .ok fs => (fs.setMode p mode).toOption.getD fs
    | .error _ => fs

end FileSystem

end Stencil
