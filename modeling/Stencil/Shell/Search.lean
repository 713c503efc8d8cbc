import Stencil.Shell.Programs

/-!
# Looking for programs

Programs are looked for in the directories of a search path. Some directories belong to the system.
-/

namespace Stencil.Shell

inductive Started where
  | known (name : String)
  | file (path : Octets) (content : Octets)

namespace Started

def systemDirs : List Octets :=
  ["/usr/bin/".toList, "/bin/".toList]

def systemName? (path : Octets) : Option String :=
  systemDirs.findSome? fun dir =>
    if path.take dir.length == dir then
      let name := String.ofList (path.drop dir.length)
      if Program.isKnown name then some name else none
    else none

def atPath (fs : FileSystem) (path : Octets) : Except IoError Started :=
  match systemName? path with
  | some name => .ok (.known name)
  | none => do
    match ← fs.status (pathOf path) with
    | (_, .dir _) => .error .denied
    | (_, .file mode content) =>
      if mode &&& 0o111 == 0 then .error .denied else .ok (.file path (Octets.ofByteArray content))

def inDir (dir name : Octets) : Octets :=
  if dir.isEmpty then name else if dir.getLast? == some '/' then dir ++ name else dir ++ '/' :: name

/-- The path that a name stands for, and what it starts: the first of its kind on the search path.
Where nothing is found, something that must not be started counts before one that is not there. -/
def find (fs : FileSystem) (searchPath name : Octets) : Except IoError (Octets × Started) :=
  if name.contains '/' then (atPath fs name).map (name, ·)
  else
    let tries := (searchPath.splitOn ':').map fun dir =>
      let path := inDir dir name
      (atPath fs path).map (path, ·)
    match tries.findSome? (·.toOption) with
    | some found => .ok found
    | none =>
      if tries.any fun t => match t with
          | .error .denied => true
          | _ => false
      then .error .denied else .error .notFound

end Started

end Stencil.Shell
