import Stencil.Shell.Program.Arguments

/-!
# Programs on files

Programs that make, list, copy, move and remove files and directories.
-/

namespace Stencil.Shell.Program

def notEmpty : IoError := .other "Directory not empty"

def missingOperand (name : String) (what : Octets) : Act Status := do
  complain name what
  Act.complain ("Try '" ++ name ++ " --help' for more information.").toList
  return .exited 1

/-- Does something for each of the operands; what goes wrong is reported, and the status tells
it. -/
def forOperands (name : String) (operands : List Octets) (run : Octets → Act (Option Octets)) :
    Act Status := do
  if operands.isEmpty then missingOperand name "missing operand".toList
  else
    let step (fine : Bool) (operand : Octets) : Act Bool := do
      match ← run operand with
      | none => return fine
      | some text =>
        complain name text
        return false
    return .exited (if ← operands.foldlM step true then 0 else 1)

/-! ## Directories -/

/-- Makes a directory and those above it; the one that cannot be made. -/
def createAll (fs : FileSystem) (name : Octets) : Except (Octets × IoError) FileSystem :=
  let start : Octets := if name.head? == some '/' then ['/'] else []
  let parts := (name.splitOn '/').filter (!·.isEmpty)
  let rec go (fs : FileSystem) (path : Octets) : List Octets → Except (Octets × IoError) FileSystem
    | [] => .ok fs
    | part :: rest =>
      let path := path ++ part
      match fs.status (pathOf path) with
      | .ok (_, .dir _) => go fs (path ++ ['/']) rest
      | .ok (_, .file ..) => .error (path, if rest.isEmpty then .alreadyExists else .notDirectory)
      | .error _ =>
        match fs.createDir (pathOf path) with
        | .ok fs => go fs (path ++ ['/']) rest
        | .error e => .error (path, e)
  go fs start parts

def mkdir : Program := withOptions "mkdir"
    { plain := "pv", valued := "m",
      long := [("parents", 'p'), ("mode", 'm'), ("verbose", 'v')] } 1 fun a =>
  forOperands "mkdir" a.operands fun name => do
    let refusal (name : Octets) (e : IoError) : Octets :=
      "cannot create directory ".toList ++ quoted name ++ ": ".toList ++ reason e
    let m ← get
    if a.has 'p' then
      match createAll m.files name with
      | .ok files =>
        set { m with files }
        return none
      | .error (name, e) => return some (refusal name e)
    else
      match m.files.createDir (pathOf name) with
      | .ok files =>
        set { m with files }
        if a.has 'v' then
          Act.printLine ("mkdir: created directory ".toList ++ quoted name)
        return none
      | .error e => return some (refusal name e)

def removeEmpty (fs : FileSystem) (name : Octets) : Except IoError FileSystem := do
  match ← fs.status (pathOf name) with
  | (place, .dir _) =>
    if fs.isSealed place then .error .denied
    else if (fs.names place).isEmpty then .ok (fs.erase place)
    else .error notEmpty
  | (_, .file ..) => .error .notDirectory

def lastName (name : Octets) : Octets :=
  let trimmed := (name.reverse.dropWhile (· == '/')).reverse
  if trimmed.isEmpty then name.take 1
  else (trimmed.reverse.takeWhile (· != '/')).reverse

def andAbove (name : Octets) : List Octets :=
  let parts := (name.splitOn '/').filter (!·.isEmpty)
  (List.range parts.length).map fun n => List.intercalate ['/'] (parts.take (parts.length - n))

def rmdir : Program := withOptions "rmdir"
    { plain := "pv", long := [("parents", 'p'), ("verbose", 'v')] } 1 fun a =>
  forOperands "rmdir" (if a.has 'p' then a.operands.flatMap andAbove else a.operands) fun name => do
    match ← Act.change (removeEmpty · name) with
    | none =>
      if a.has 'v' then Act.printLine ("rmdir: removing directory, ".toList ++ quoted name)
      return none
    | some e => return some ("failed to remove ".toList ++ quoted name ++ ": ".toList ++ reason e)

/-- The names below a directory with its own before (`true`) or after them, each with its node. -/
def walk (fs : FileSystem) (before : Bool) :
    (depth : Nat) → Octets → Place → Node → List (Octets × Place × Node)
  | 0, _, _, _ => []
  | depth + 1, path, place, node =>
    match node with
    | .file .. => [(path, place, node)]
    | .dir mode =>
      let inner := ((fs.names place).mergeSort (· ≤ ·)).flatMap fun name =>
        let below := place ++ [name]
        let path := if path.getLast? == some '/' then path else path ++ ['/']
        walk fs before depth (path ++ Octets.ofText name) below ((fs.node? below).getD (.dir mode))
      if before then (path, place, node) :: inner else inner ++ [(path, place, node)]

def maxDepth : Nat := 64

def rm : Program := withOptions "rm"
    { plain := "frRdvi",
      long := [("force", 'f'), ("recursive", 'r'), ("dir", 'd'), ("verbose", 'v')] } 1 fun a => do
  let force := a.has 'f'
  if a.operands.isEmpty && force then return .success
  forOperands "rm" a.operands fun name => do
    let last := lastName name
    if (last == ['.'] || last == ['.', '.']) && (a.has 'r' || a.has 'R') then
      return some ("refusing to remove '.' or '..' directory: skipping ".toList ++ quoted name)
    let m ← get
    let refusal (e : IoError) : Octets :=
      "cannot remove ".toList ++ quoted name ++ ": ".toList ++ reason e
    match m.files.status (pathOf name) with
    | .error e => return if force && (e == .notFound || e == .notDirectory) then none else some (refusal e)
    | .ok (place, node) =>
      if node.isDir && !(a.has 'r' || a.has 'R') then
        if !a.has 'd' then return some (refusal .isDirectory)
        if !(m.files.names place).isEmpty then return some (refusal notEmpty)
      if m.files.isSealed place then return some (refusal .denied)
      set { m with files := m.files.erase place }
      if a.has 'v' then
        (walk m.files false maxDepth name place node).forM fun (name, _, node) =>
          let what := if node.isDir then "removed directory " else "removed "
          Act.printLine (what.toList ++ quoted name)
      return none

/-! ## Copies -/

def subtree (fs : FileSystem) (place : Place) : List (Place × Node) :=
  (fs.entries.filter fun e => place.isPrefixOf e.1).map fun (p, n) => (p.drop place.length, n)

def graft (fs : FileSystem) (place : Place) (nodes : List (Place × Node)) : FileSystem :=
  nodes.foldr (fun (p, n) fs => fs.put (place ++ p) n) fs

def copiedMode (mode : UInt32) : UInt32 :=
  mode &&& 0o755

/-- Copies nodes; a file that exists keeps its permissions. -/
def copyNodes (fs : FileSystem) (target : Place) (keepModes : Bool) (nodes : List (Place × Node)) :
    FileSystem :=
  nodes.foldr (fun (p, n) fs =>
    let place := target ++ p
    match n, fs.node? place with
    | .dir _, some _ => fs
    | .dir mode, none => fs.put place (.dir (if keepModes then mode else copiedMode mode))
    | .file mode content, some (.file old _) =>
      fs.put place (.file (if keepModes then mode else old) content)
    | .file mode content, _ =>
      fs.put place (.file (if keepModes then mode else copiedMode mode) content)) fs

/-- The operands of a copy: the sources, the target, and whether it is a directory that they go
into. -/
def copyOperands (name : String) (a : Arguments) :
    Act (Except Status (List Octets × Octets × Bool)) := do
  let fs ← Act.fileSystem
  match a.value? 't', a.operands with
  | some target, sources@(_ :: _) => return .ok (sources, target, true)
  | _, [] => return .error (← missingOperand name "missing file operand".toList)
  | _, [one] =>
    return .error
      (← missingOperand name ("missing destination file operand after ".toList ++ quoted one))
  | _, operands =>
    let target := operands.getLastD []
    let sources := operands.dropLast
    let isDir := fs.isDir (pathOf target) && !a.has 'T'
    if sources.length > 1 && !isDir then
      let e := match fs.status (pathOf target) with
        | .error e => e
        | .ok _ => .notDirectory
      complain name ("target ".toList ++ quoted target ++ ": ".toList ++ reason e)
      return .error (.exited 1)
    return .ok (sources, target, isDir)

def inTarget (source target : Octets) (isDir : Bool) : Octets :=
  if !isDir then target
  else if target.getLast? == some '/' then target ++ lastName source
  else target ++ '/' :: lastName source

def copyLetters (plain : String) : Arguments.Letters :=
  { plain, valued := "t", long := [("recursive", 'r'), ("force", 'f'), ("no-clobber", 'n'),
      ("verbose", 'v'), ("archive", 'a'), ("target-directory", 't'), ("no-target-directory", 'T'),
      ("parents", 'P')] }

def cp : Program := withOptions "cp" (copyLetters "rRafpnvTiuLPd") 1 fun a => do
  match ← copyOperands "cp" a with
  | .error status => return status
  | .ok (sources, target, isDir) =>
    let recursive := a.has 'r' || a.has 'R' || a.has 'a'
    let keepModes := a.has 'p' || a.has 'a'
    forOperands "cp" sources fun source => do
      let m ← get
      let path := inTarget source target isDir
      match m.files.status (pathOf source) with
      | .error e =>
        return some ("cannot stat ".toList ++ quoted source ++ ": ".toList ++ reason e)
      | .ok (place, node) =>
        let sourceIsDir := node.isDir
        if sourceIsDir && !recursive then
          return some ("-r not specified; omitting directory ".toList ++ quoted source)
        let refusal (e : IoError) : Octets :=
          (if sourceIsDir then "cannot create directory " else "cannot create regular file ").toList ++
            quoted path ++ ": ".toList ++ reason e
        match m.files.locate (pathOf path) with
        | .error e => return some (refusal e)
        | .ok goal =>
          if !sourceIsDir && path.getLast? == some '/' && (m.files.node? goal).isNone then
            return some (refusal .notDirectory)
          if goal == place then
            return some (quoted source ++ " and ".toList ++ quoted path ++ " are the same file".toList)
          if sourceIsDir && place.isPrefixOf goal then
            return some ("cannot copy a directory, ".toList ++ quoted source ++ ", into itself, ".toList ++
              quoted path)
          match m.files.node? goal, sourceIsDir with
          | some (.file ..), true =>
            return some ("cannot overwrite non-directory ".toList ++ quoted path ++
              " with directory ".toList ++ quoted source)
          | some (.dir _), false =>
            return some ("cannot overwrite directory ".toList ++ quoted path ++
              " with non-directory".toList)
          | found, _ =>
            if found.isSome && a.has 'n' then return none
            if found.isNone && m.files.isSealed goal then return some (refusal .denied)
            let nodes := if sourceIsDir then ([], node) :: subtree m.files place else [([], node)]
            set { m with files := copyNodes m.files goal keepModes nodes }
            if a.has 'v' then
              (walk m.files true maxDepth source place node).forM fun (name, _, _) =>
                Act.printLine (quoted name ++ " -> ".toList ++ quoted (path ++ name.drop source.length))
            return none

def mv : Program := withOptions "mv" (copyLetters "fnvTiu") 1 fun a => do
  match ← copyOperands "mv" a with
  | .error status => return status
  | .ok (sources, target, isDir) =>
    forOperands "mv" sources fun source => do
      let m ← get
      let path := inTarget source target isDir
      match m.files.status (pathOf source) with
      | .error e =>
        return some ("cannot stat ".toList ++ quoted source ++ ": ".toList ++ reason e)
      | .ok (place, node) =>
        let sourceIsDir := node.isDir
        let refusal (e : IoError) : Octets :=
          "cannot move ".toList ++ quoted source ++ " to ".toList ++ quoted path ++ ": ".toList ++ reason e
        match m.files.locate (pathOf path) with
        | .error e => return some (refusal e)
        | .ok goal =>
          if goal == place then
            return some (quoted source ++ " and ".toList ++ quoted path ++ " are the same file".toList)
          if sourceIsDir && place.isPrefixOf goal then
            return some ("cannot move ".toList ++ quoted source ++ " to a subdirectory of itself, ".toList ++
              quoted path)
          match m.files.node? goal, sourceIsDir with
          | some (.file ..), true =>
            return some ("cannot overwrite non-directory ".toList ++ quoted path ++
              " with directory ".toList ++ quoted source)
          | some (.dir _), false =>
            return some ("cannot overwrite directory ".toList ++ quoted path ++
              " with non-directory".toList)
          | found, _ =>
            if found.isSome && a.has 'n' then return none
            if found.isSome && !(m.files.names goal).isEmpty then return some (refusal notEmpty)
            if m.files.isSealed place || m.files.isSealed goal then return some (refusal .denied)
            let nodes := subtree m.files place
            let files := graft (m.files.erase place) goal nodes
            set { m with files }
            if a.has 'v' then
              Act.printLine ("renamed ".toList ++ quoted source ++ " -> ".toList ++ quoted path)
            return none

def touch : Program := withOptions "touch" { plain := "acmh", valued := "drt" } 1 fun a => do
  if a.operands.isEmpty then missingOperand "touch" "missing file operand".toList
  else
    forOperands "touch" a.operands fun name => do
      let m ← get
      if m.files.has (pathOf name) || a.has 'c' then return none
      match m.files.store (pathOf name) .empty with
      | .ok files =>
        set { m with files }
        return none
      | .error e => return some ("cannot touch ".toList ++ quoted name ++ ": ".toList ++ reason e)

/-! ## Permissions -/

def userBits (users : Octets) : UInt32 :=
  let all := users.isEmpty || users.contains 'a'
  (if all || users.contains 'u' then 0o700 else 0) |||
    (if all || users.contains 'g' then 0o070 else 0) |||
    (if all || users.contains 'o' then 0o007 else 0)

def permissionBits (mode : UInt32) (letters : Octets) : UInt32 :=
  let run := letters.contains 'x' || (letters.contains 'X' && mode &&& 0o111 != 0)
  (if letters.contains 'r' then 0o444 else 0) ||| (if letters.contains 'w' then 0o222 else 0) |||
    (if run then 0o111 else 0)

def changeMode? (mode : UInt32) (change : Octets) : Option UInt32 :=
  let isSign (c : Char) : Bool := c == '+' || c == '-' || c == '='
  let users := change.takeWhile (!isSign ·)
  if !users.all ("ugoa".contains ·) then none
  else
    match change.drop users.length with
    | sign :: letters =>
      if !letters.all ("rwxXst".contains ·) then none
      else
        let kept : UInt32 := if users.isEmpty then 0o755 else 0o777
        let mask := userBits users
        let bits := permissionBits mode letters &&& mask &&& (if sign == '=' then 0o777 else
          if letters.contains 'w' then kept ||| 0o200 else 0o777)
        some (match sign with
          | '+' => mode ||| bits
          | '-' => mode &&& (0o7777 ^^^ bits)
          | _ => (mode &&& (0o7777 ^^^ mask)) ||| bits)
    | [] => none

def newMode? (text : Octets) (mode : UInt32) : Option UInt32 :=
  if !text.isEmpty && text.all fun c => '0' ≤ c && c ≤ '7' then
    let n := text.foldl (fun n c => n * 8 + (c.toNat - '0'.toNat)) 0
    if n ≤ 0o7777 then some (UInt32.ofNat n) else none
  else (text.splitOn ',').foldlM changeMode? mode

def chmod : Program := fun args => do
  let isFlag (s : Octets) : Bool :=
    s == ['-', 'R'] || s == ['-', 'f'] || s == ['-', 'v'] || s == ['-', '-']
  let flags := args.filter isFlag
  match args.filter (!isFlag ·) with
  | [] => missingOperand "chmod" "missing operand".toList
  | [mode] => missingOperand "chmod" ("missing operand after ".toList ++ quoted mode)
  | mode :: names =>
    match newMode? mode 0 with
    | none => missingOperand "chmod" ("invalid mode: ".toList ++ quoted mode)
    | some _ =>
      forOperands "chmod" names fun name => do
        let m ← get
        if let some (place, old) := m.files.deviceAt? (pathOf name) then
          set { m with files := m.files.setDevice place ((newMode? mode old).getD old) }
          return none
        match m.files.status (pathOf name) with
        | .error e => return some ("cannot access ".toList ++ quoted name ++ ": ".toList ++ reason e)
        | .ok (place, node) =>
          let change (n : Node) : Node := n.withMode ((newMode? mode n.mode).getD n.mode)
          match node, flags.contains ['-', 'R'] with
          | .dir _, true =>
            let entries := m.files.entries.map fun (p, n) =>
              (p, if place.isPrefixOf p then change n else n)
            set { m with files := { m.files with entries } }
          | node, _ => set { m with files := m.files.put place (change node) }
          return none

/-! ## Names -/

def dropEnding (ending name : Octets) : Octets :=
  if ending.length < name.length && name.drop (name.length - ending.length) == ending then
    name.take (name.length - ending.length)
  else name

def basename : Program := withOptions "basename" { plain := "az", valued := "s", strict := true } 1
    fun a => do
  let ending := (a.value? 's').getD []
  match a.operands with
  | [] => missingOperand "basename" "missing operand".toList
  | names =>
    if a.has 'a' || a.has 's' then
      names.forM fun name => Act.printLine (dropEnding ending (lastName name))
      return .success
    else
      match names with
      | [name] =>
        Act.printLine (lastName name)
        return .success
      | [name, ending] =>
        Act.printLine (dropEnding ending (lastName name))
        return .success
      | _ :: _ :: extra :: _ => missingOperand "basename" ("extra operand ".toList ++ quoted extra)
      | [] => return .success

def dirOf (name : Octets) : Octets :=
  let trimmed := (name.reverse.dropWhile (· == '/')).reverse
  if trimmed.isEmpty then if name.isEmpty then ['.'] else ['/']
  else if !trimmed.contains '/' then ['.']
  else
    let dir := (((trimmed.reverse.dropWhile (· != '/')).dropWhile (· == '/'))).reverse
    if dir.isEmpty then ['/'] else dir

def dirname : Program := withOptions "dirname" { plain := "z" } 1 fun a => do
  if a.operands.isEmpty then missingOperand "dirname" "missing operand".toList
  else
    a.operands.forM fun name => Act.printLine (dirOf name)
    return .success

def placeText (place : Place) : Octets :=
  Octets.ofText ("/" ++ "/".intercalate place)

def pwd : Program := fun _ => do
  Act.printLine (placeText (← Act.fileSystem).workingDir)
  return .success

/-! ## Lists -/

/-- Permissions in letters, after the letter of the kind of thing that has them. -/
def modeLetters (kind : Char) (mode : UInt32) : Octets :=
  let bit (mask : UInt32) (c : Char) : Char := if mode &&& mask != 0 then c else '-'
  let run (mask special : UInt32) (letter : Char) : Char :=
    if mode &&& special != 0 then if mode &&& mask != 0 then letter else letter.toUpper
    else bit mask 'x'
  [kind, bit 0o400 'r', bit 0o200 'w', run 0o100 0o4000 's', bit 0o040 'r',
    bit 0o020 'w', run 0o010 0o2000 's', bit 0o004 'r', bit 0o002 'w', run 0o001 0o1000 't']

def nodeSize : Node → Nat
  | .dir _ => 4096
  | .file _ content => content.size

def listedName (a : Arguments) (name : Octets) : Octets :=
  if a.has 'Q' then '"' :: name ++ ['"'] else name

def listedDevice (a : Arguments) (name : Octets) (mode : UInt32) : Octets :=
  if a.has 'l' then modeLetters 'c' mode ++ " 1 root tty 5, 0 Jan  1 00:00 ".toList ++ listedName a name
  else listedName a name

def listed (a : Arguments) (name : Octets) (node : Node) : Octets :=
  let isDir := node.isDir
  let mode := node.mode
  let name := listedName a name
  let name :=
    if isDir && (a.has 'F' || a.has 'p') then name ++ ['/']
    else if a.has 'F' && !isDir && mode &&& 0o111 != 0 then name ++ ['*']
    else name
  if a.has 'l' then
    modeLetters (if isDir then 'd' else '-') mode ++ (if isDir then " 2" else " 1").toList ++ " root root ".toList ++
      Octets.ofNat (nodeSize node) ++ " Jan  1 00:00 ".toList ++ name
  else name

def listDir (a : Arguments) (fs : FileSystem) (place : Place) : List Octets :=
  let names := (fs.names place).map Octets.ofText
  let names := if a.has 'a' || a.has 'A' then names else names.filter (·.head? != some '.')
  let names := names.mergeSort Octets.le
  let names := if a.has 'a' then ['.'] :: ['.', '.'] :: names else names
  let names := if a.has 'r' then names.reverse else names
  let total := if a.has 'l' then ["total 0".toList] else []
  total ++ names.map fun name => 
    listed a name ((fs.node? (place ++ [Octets.text name])).getD (.dir Node.defaultDirMode))

def dirsBelow (a : Arguments) (fs : FileSystem) :
    (depth : Nat) → Octets → Place → List (Octets × Place)
  | 0, _, _ => []
  | depth + 1, path, place =>
    let names := (fs.names place).map Octets.ofText
    let names := if a.has 'a' || a.has 'A' then names else names.filter (·.head? != some '.')
    (path, place) :: (names.mergeSort Octets.le).flatMap fun name =>
      let below := place ++ [Octets.text name]
      match fs.node? below with
      | some (.dir _) => dirsBelow a fs depth (path ++ '/' :: name) below
      | _ => []

def ls : Program := withOptions "ls" { plain := "1aAdFprRlhtSCnUQ" } 2 fun a => do
  let fs ← Act.fileSystem
  let operands := if a.operands.isEmpty then [['.']] else a.operands
  let step (acc : List Octets × List (Octets × Place) × Bool) (name : Octets) :
      Act (List Octets × List (Octets × Place) × Bool) := do
    let (files, dirs, fine) := acc
    if let some (_, mode) := fs.deviceAt? (pathOf name) then
      return (listedDevice a name mode :: files, dirs, fine)
    match fs.status (pathOf name) with
    | .error e =>
      complain "ls" ("cannot access ".toList ++ quoted name ++ ": ".toList ++ reason e)
      return (files, dirs, false)
    | .ok (place, .dir mode) =>
      if a.has 'd' then return (listed a name (.dir mode) :: files, dirs, fine)
      else return (files, (name, place) :: dirs, fine)
    | .ok (_, node) => return (listed a name node :: files, dirs, fine)
  let (files, dirs, fine) ← (operands.mergeSort Octets.le).foldlM step ([], [], true)
  let dirs := dirs.reverse
  let dirs := if a.has 'R' then dirs.flatMap fun (name, place) => dirsBelow a fs 64 name place else dirs
  let titled := operands.length > 1 || a.has 'R'
  let lines (names : List Octets) : Octets := names.flatMap (· ++ ['\n'])
  let blocks := dirs.map fun (name, place) =>
    (if titled then name ++ [':', '\n'] else []) ++ lines (listDir a fs place)
  let blocks := if files.isEmpty then blocks else lines files.reverse :: blocks
  Act.print (List.intercalate ['\n'] blocks)
  return .exited (if fine then 0 else 2)

end Stencil.Shell.Program
