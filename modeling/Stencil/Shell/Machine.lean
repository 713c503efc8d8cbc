import Stencil.FileSystem
import Stencil.Shell.Octets

/-!
# Machines

What the running programs share: the files, and the channels that they read from and write to. A
program knows channels by the numbers of its own handles.
-/

namespace Stencil.Shell

inductive Channel where
  /-- What is left to be read. -/
  | source (rest : Octets)
  /-- Keeps what is written. -/
  | sink (written : Array Char)
  /-- Adds what is written to the end of a file. -/
  | file (place : Place)
  /-- Has nothing to read and forgets what is written. -/
  | null
  deriving Inhabited

structure Machine where
  files : FileSystem
  channels : Array Channel := #[]
  /-- The channels of the program's handles. -/
  handles : List (Nat × Nat) := []
  environment : List (Octets × Octets) := []

abbrev Act := StateM Machine

abbrev Program := List Octets → Act Status

/-- Starts a program by its name with arguments. It is looked for on a search path, or on the one of
the environment if none is given. -/
abbrev Spawn := (searchPath : Option Octets) → Octets → List Octets → Act (Except IoError Status)

namespace Machine

def channel (m : Machine) (handle : Nat) : Channel :=
  match m.handles.lookup handle with
  | some i => m.channels[i]?.getD .null
  | none => .null

def setChannel (m : Machine) (handle : Nat) (c : Channel) : Machine :=
  match m.handles.lookup handle with
  | some i => { m with channels := m.channels.setIfInBounds i c }
  | none => m

def connect (m : Machine) (handle index : Nat) : Machine :=
  { m with handles := (handle, index) :: m.handles.filter (·.1 != handle) }

def addChannel (m : Machine) (c : Channel) : Nat × Machine :=
  (m.channels.size, { m with channels := m.channels.push c })

def written (m : Machine) (index : Nat) : Octets :=
  match m.channels[index]? with
  | some (.sink written) => written.toList
  | _ => []

end Machine

def pathOf (s : Octets) : Path :=
  .ofString s.text

def nullDevice : Octets := "/dev/null".toList

def deviceHandle? (name : Octets) : Option Nat :=
  let name := String.ofList name
  if name == "/dev/stdin" then some 0
  else if name == "/dev/stdout" then some 1
  else if name == "/dev/stderr" then some 2
  else none

namespace Act

def input : Nat := 0

def output : Nat := 1

def errors : Nat := 2

def takeInput : Act Octets := do
  let m ← get
  match m.channel input with
  | .source rest =>
    set (m.setChannel input (.source []))
    return rest
  | _ => return []

def takeBytes (count : Nat) : Act Octets := do
  let m ← get
  match m.channel input with
  | .source rest =>
    set (m.setChannel input (.source (rest.drop count)))
    return rest.take count
  | _ => return []

/-- Takes a line from the input, without its end; `true` if the line had one. -/
def takeLine : Act (Octets × Bool) := do
  let m ← get
  match m.channel input with
  | .source rest =>
    let line := rest.takeWhile (· != '\n')
    let after := rest.drop line.length
    set (m.setChannel input (.source (after.drop 1)))
    return (line, !after.isEmpty)
  | _ => return ([], false)

def write (handle : Nat) (s : Octets) : Act Unit := do
  let m ← get
  match m.channel handle with
  | .sink written =>
    -- the channel is emptied first, so that the array is changed in place
    let m := m.setChannel handle .null
    set (m.setChannel handle (.sink (s.foldl (·.push ·) written)))
  | .file place =>
    match m.files.node? place with
    | some (.file mode content) =>
      let node := Node.file mode (content ++ s.toByteArray)
      set { m with files := m.files.put place node }
    | _ => pure ()
  | _ => pure ()

def print (s : Octets) : Act Unit :=
  write output s

def printLine (s : Octets) : Act Unit :=
  write output (s ++ ['\n'])

def complain (text : Octets) : Act Unit :=
  write errors (text ++ ['\n'])

def fileSystem : Act FileSystem := do
  return (← get).files

def change (f : FileSystem → Except IoError FileSystem) : Act (Option IoError) := do
  let m ← get
  match f m.files with
  | .ok files =>
    set { m with files }
    return none
  | .error e => return some e

def readFile (name : Octets) : Act (Except IoError Octets) := do
  if name == nullDevice then return .ok []
  if deviceHandle? name == some input then return .ok (← takeInput)
  return ((← get).files.readBytes (pathOf name)).map Octets.ofByteArray

def storeFile (name : Octets) (content : Octets) : Act (Option IoError) := do
  if name == nullDevice then return none
  match deviceHandle? name with
  | some handle =>
    write handle content
    return none
  | none => change (·.store (pathOf name) content.toByteArray)

def openToRead (name : Octets) : Act (Except IoError Nat) := do
  let m ← get
  match (deviceHandle? name).bind (m.handles.lookup ·) with
  | some index => return .ok index
  | none =>
    if name == nullDevice then
      let (index, m) := m.addChannel .null
      set m
      return .ok index
    match m.files.status (pathOf name) with
    | .error e => return .error e
    | .ok (_, .dir mode) =>
      if !m.files.allows ownerRead mode then return .error .denied
      let (index, m) := m.addChannel .null
      set m
      return .ok index
    | .ok (_, .file mode content) =>
      if !m.files.allows ownerRead mode then return .error .denied
      let (index, m) := m.addChannel (.source (Octets.ofByteArray content))
      set m
      return .ok index

/-- Opens a file for writing, where its content is kept if `append` holds. -/
def openToWrite (name : Octets) (append : Bool) : Act (Except IoError Nat) := do
  let m ← get
  match (deviceHandle? name).bind (m.handles.lookup ·) with
  | some index => return .ok index
  | none =>
    if name == nullDevice then
      let (index, m) := m.addChannel .null
      set m
      return .ok index
    let path := pathOf name
    let kept := if append then (m.files.readBytes path).toOption.getD .empty else .empty
    match m.files.store path kept with
    | .error e => return .error e
    | .ok files =>
      match files.locate path with
      | .error e => return .error e
      | .ok place =>
        let (index, m) := { m with files }.addChannel (.file place)
        set m
        return .ok index

end Act

end Stencil.Shell
