import Stencil.Shell.Program.Condition
import Stencil.Shell.Program.Files
import Stencil.Shell.Program.Print
import Stencil.Shell.Session
import Stencil.Shell.Syntax.Command

/-!
# Builtin commands

The commands that change or show the shell itself. Those that run other commands are part of the
evaluation.
-/

namespace Stencil.Shell

/-- A builtin command, as what it does with its arguments; the answer is the status. -/
abbrev Builtin := List Octets → Running Nat

namespace Builtin

open Running

def refuse (text : Octets) : Running Nat := do
  warn text
  return errorStatus

def number (s : Octets) : Running Nat :=
  match Octets.nat? s with
  | some n => if n < 2147483648 then return n else abort ("Illegal number: ".toList ++ s)
  | none => abort ("Illegal number: ".toList ++ s)

def singleQuoted (s : Octets) : Octets :=
  let parts := s.splitOn '\''
  let quotedPart (p : Octets) : Octets := '\'' :: p ++ ['\'']
  if parts.length == 1 then quotedPart s
  else
    let joined := parts.map fun p => if p.isEmpty then [] else quotedPart p
    List.intercalate "\"'\"".toList joined

def programBuiltin (p : Program) : Builtin := fun args => do
  return (← act (p args)).code

/-! ## Leaving -/

def exit : Builtin := fun args => do
  match args with
  | [] => throw (.exit (← get).status)
  | n :: _ => throw (.exit (← number n))

def return' : Builtin := fun args => do
  match args with
  | [] => throw (.return (← get).status)
  | n :: _ => throw (.return (← number n))

def leaveLoops (leave : Nat → Leave) : Builtin := fun args => do
  let n ← match args with
    | [] => pure 1
    | n :: _ => number n
  if n == 0 then abort ("Illegal number: ".toList ++ args.headD [])
  let n := min n (← get).loops
  if n == 0 then return 0 else throw (leave n)

/-! ## Directories -/

def workingDir : Running Octets := do
  return Program.placeText (← get).machine.files.workingDir

def cd : Builtin := fun args => do
  let args := args.filter fun a => a != ['-', 'L'] && a != ['-', 'P'] && a != ['-', '-']
  let s ← get
  let (target, shown) := match args with
    | [] => (s.value "HOME".toList, false)
    | ['-'] :: _ => (s.value "OLDPWD".toList, true)
    | dir :: _ => (dir, false)
  let fs := s.machine.files
  let candidates : List (Octets × Bool) :=
    let plain := (target, shown)
    if target.head? == some '/' || target.head? == some '.' || target.isEmpty then [plain]
    else
      ((s.value "CDPATH".toList).splitOn ':').map (fun dir =>
        if dir.isEmpty then plain else (dir ++ '/' :: target, true)) ++ [plain]
  let found := candidates.findSome? fun (path, shown) =>
    let path := if path.isEmpty then ['.'] else path
    match fs.status (pathOf path) with
    | .ok (place, .dir _) => some (place, shown)
    | _ => none
  match found with
  | none => refuse ("can't cd to ".toList ++ target)
  | some (place, shown) =>
    let before ← workingDir
    modify fun s => { s with
      machine := { s.machine with files := { s.machine.files with workingDir := place } } }
    let here ← workingDir
    modify fun s => (s.bind "OLDPWD".toList (some { value := some before, exported := true })).bind
      "PWD".toList (some { value := some here, exported := true })
    if shown then act (Act.printLine here)
    return 0

def pwd : Builtin := fun _ => do
  act (Act.printLine (← workingDir))
  return 0

/-! ## Variables -/

def valid (name : Octets) : Running Unit := do
  if !Word.isName name then abort (name ++ ": bad variable name".toList)

def setting (arg : Octets) : Octets × Option Octets :=
  let name := arg.takeWhile (· != '=')
  match arg.drop name.length with
  | _ :: value => (name, some value)
  | [] => (name, none)

/-- Marks variables; without arguments it shows those that are marked. -/
def marking (word : String) (isMarked : Variable → Bool) (mark : Variable → Variable) : Builtin :=
  fun args => do
    let args := args.filter (· != ['-', '-'])
    let s ← get
    if args.isEmpty || args == [['-', 'p']] then
      let marked := (s.bindings.filter fun v => isMarked v.2).mergeSort fun v w => Octets.le v.1 w.1
      marked.forM fun (name, v) =>
        let value := match v.value with
          | some text => '=' :: singleQuoted text
          | none => []
        act (Act.printLine (word.toList ++ ' ' :: name ++ value))
      return 0
    let args := args.filter (· != ['-', 'p'])
    args.forM fun arg => do
      let (name, value) := setting arg
      valid name
      match value with
      | some v => assign name v
      | none => pure ()
      modify fun s => s.bind name (some (mark ((s.bindings.lookup name).getD { value := none })))
    return 0

def export' : Builtin :=
  marking "export" (·.exported) fun v => { v with exported := true }

def readonly : Builtin :=
  marking "readonly" (·.fixed) fun v => { v with fixed := true }

def unset : Builtin := fun args => do
  let (functions, args) := match args with
    | ['-', 'f'] :: args => (true, args)
    | ['-', 'v'] :: args => (false, args)
    | args => (false, args)
  args.forM fun name => do
    let s ← get
    if functions then
      set { s with functions := s.functions.filter (·.1 != name) }
    else
      valid name
      match s.bindings.lookup name with
      | some { fixed := true, .. } => abort (name ++ ": is read only".toList)
      | some _ => set (s.bind name none)
      | none => pure ()
  return 0

def makeLocal (name : Octets) : Running Unit := do
  let s ← get
  match s.frames with
  | [] => abort "not in a function".toList
  | frame :: frames =>
    if (frame.lookup name).isNone then
      set { s with frames := ((name, s.bindings.lookup name) :: frame) :: frames }

def local' : Builtin := fun args => do
  if (← get).frames.isEmpty then abort "not in a function".toList
  args.forM fun arg => do
    let (name, value) := setting arg
    valid name
    makeLocal name
    match value with
    | some v => assign name v
    | none => pure ()
  return 0

def shift : Builtin := fun args => do
  let n ← match args with
    | [] => pure 1
    | n :: _ => number n
  let s ← get
  if n > s.params.length then abort "can't shift that many".toList
  set { s with params := s.params.drop n }
  return 0

/-! ## Options -/

def optionNames : List (String × Char) :=
  [("errexit", 'e'), ("noglob", 'f'), ("ignoreeof", 'I'), ("interactive", 'i'), ("monitor", 'm'),
    ("noexec", 'n'), ("stdin", 's'), ("xtrace", 'x'), ("verbose", 'v'), ("vi", 'V'), ("emacs", 'E'),
    ("noclobber", 'C'), ("allexport", 'a'), ("notify", 'b'), ("nounset", 'u'), ("privileged", 'p'),
    ("nolog", '\x00'), ("debug", '\x00')]

def withOption (o : Options) (on : Bool) (c : Char) : Option Options :=
  match c with
  | 'e' => some { o with errexit := on }
  | 'u' => some { o with nounset := on }
  | 'x' => some { o with xtrace := on }
  | 'f' => some { o with noglob := on }
  | 'n' => some { o with noexec := on }
  | 'a' => some { o with allexport := on }
  | c =>
    if c != '\x00' && optionNames.any (·.2 == c) then
      let others := o.others.filter (· != c)
      some { o with others := if on then others ++ [c] else others }
    else none

/-- Reads options from the beginning of arguments: what is left, and whether the rest was marked as
arguments. `-c` counts if `commands` holds, and is told. -/
def readOptions (commands : Bool) : (count : Nat) → Options → List Octets →
    Except Octets (Options × List Octets × (Bool × Bool))
  | 0, o, args => .ok (o, args, false, false)
  | count + 1, o, args =>
    match args with
    | ['-', '-'] :: rest => .ok (o, rest, true, false)
    | ['-'] :: rest => .ok (o, rest, true, false)
    | (sign :: letters) :: rest =>
      if (sign == '-' || sign == '+') && !letters.isEmpty then do
        let on := sign == '-'
        let step (acc : Options × List Octets × Bool) (c : Char) :
            Except Octets (Options × List Octets × Bool) :=
          let (o, rest, isCommand) := acc
          if c == 'c' && commands then .ok (o, rest, true)
          else if c == 'o' then
            match rest with
            | name :: rest =>
              match optionNames.lookup (String.ofList name) with
              | some c => .ok ((withOption o on c).getD o, rest, isCommand)
              | none => .error ("Illegal option ".toList ++ [sign, 'o', ' '] ++ name)
            | [] => .ok acc
          else
            match withOption o on c with
            | some o => .ok (o, rest, isCommand)
            | none => .error ("Illegal option ".toList ++ [sign, c])
        let (o, rest, isCommand) ← letters.foldlM step (o, rest, false)
        let (o, rest, marked, more) ← readOptions commands count o rest
        return (o, rest, marked, isCommand || more)
      else .ok (o, args, false, false)
    | args => .ok (o, args, false, false)

def showOptions (asTable : Bool) : Running Nat := do
  let letters := (← get).optionLetters
  if asTable then act (Act.printLine "Current option settings".toList)
  optionNames.forM fun (name, c) =>
    let on := letters.contains c
    let line :=
      if asTable then name ++ String.ofList (List.replicate (16 - name.length) ' ') ++
        (if on then "on" else "off")
      else (if on then "set -o " else "set +o ") ++ name
    act (Act.printLine line.toList)
  return 0

def set' : Builtin := fun args => do
  if args == ["-o".toList] then return ← showOptions true
  if args == ["+o".toList] then return ← showOptions false
  let s ← get
  if args.isEmpty then
    (s.bindings.mergeSort fun v w => Octets.le v.1 w.1).forM fun (name, v) =>
      match v.value with
      | some text => act (Act.printLine (name ++ '=' :: singleQuoted text))
      | none => pure ()
    return 0
  match readOptions false (args.length + 1) s.options args with
  | .error text => abort text
  | .ok (options, rest, marked, _) =>
    set { s with options, params := if marked || !rest.isEmpty then rest else s.params }
    return 0

/-! ## Reading -/

/-- A character that was read, and whether a backslash stood before it. -/
abbrev Sign := Char × Bool

/-- Reads a line; unless `raw` holds a backslash joins lines and keeps other characters from being
separators. `true` if the line had an end. `count` bounds the number of lines. -/
def lineSigns (raw : Bool) : (count : Nat) → Act (List Sign × Bool)
  | 0 => pure ([], false)
  | count + 1 => do
    let (line, ended) ← Act.takeLine
    if raw then return (line.map (·, false), ended)
    let rec signs : Octets → List Sign × Bool
      | '\\' :: c :: cs =>
        let (rest, joins) := signs cs
        ((c, true) :: rest, joins)
      | ['\\'] => ([], true)
      | c :: cs =>
        let (rest, joins) := signs cs
        ((c, false) :: rest, joins)
      | [] => ([], false)
    let (found, joins) := signs line
    if joins && ended then
      let (more, ended) ← lineSigns raw count
      return (found ++ more, ended)
    return (found, ended)

/-- Cuts a line into as many values as there are names; the last one takes the rest. -/
def readFields (separators : Octets) : (names : Nat) → List Sign → List Octets
  | 0, _ => []
  | names + 1, signs =>
    let isSeparator (s : Sign) : Bool := !s.2 && separators.contains s.1
    let isBlank (s : Sign) : Bool := isSeparator s && (s.1 == ' ' || s.1 == '\t' || s.1 == '\n')
    let signs := signs.dropWhile isBlank
    let field := signs.takeWhile (!isSeparator ·)
    let rest := signs.drop field.length
    let after := rest.dropWhile isBlank
    let after := match after with
      | s :: more => if isSeparator s then more.dropWhile isBlank else after
      | [] => []
    if names == 0 then
      -- one separator at the end is dropped with the blanks around it
      if after.isEmpty then [field.map (·.1)]
      else
        let trimmed := (signs.reverse.dropWhile isBlank).reverse
        [trimmed.map (·.1)]
    else field.map (·.1) :: readFields separators names after

def read : Builtin := fun args => do
  let rec options (raw : Bool) : List Octets → Bool × List Octets
    | ['-', 'r'] :: rest => options true rest
    | ['-', 'p'] :: _ :: rest => options raw rest
    | ['-', '-'] :: rest => (raw, rest)
    | rest => (raw, rest)
  let (raw, names) := options false args
  if names.isEmpty then refuse "arg count".toList
  else
    let s ← get
    let size := match s.machine.channel Act.input with
      | .source rest => rest.length
      | _ => 0
    let (signs, ended) ← act (lineSigns raw (size + 1))
    let values := readFields s.separators names.length signs
    (names.zip (values ++ List.replicate names.length [])).forM fun (name, value) => do
      valid name
      assign name value
    return if ended then 0 else 1

/-! ## Arguments of scripts -/

def getopts : Builtin := fun args => do
  match args with
  | letters :: name :: given => do
    let s ← get
    let params := if given.isEmpty then s.params else given
    let index := (Octets.nat? (s.value "OPTIND".toList)).getD 1
    let (silent, letters) := match letters with
      | ':' :: ls => (true, ls)
      | ls => (false, ls)
    let offset := if index == 0 then 0 else s.optionOffset
    let index := max index 1
    let finish (index offset : Nat) : Running Unit := do
      assign "OPTIND".toList (Octets.ofNat index)
      modify fun s => { s with optionOffset := offset }
    let arg := params[index - 1]?.getD []
    let current := if offset > 0 && offset < arg.length then arg.drop offset else []
    -- the letters that are left in the argument, and where they begin
    let (index, offset, current) ←
      if !current.isEmpty then pure (index, offset, current)
      else
        let index := if offset > 0 then index + 1 else index
        match params[index - 1]? with
        | some ('-' :: c :: cs) =>
          if c == '-' && cs.isEmpty then pure (index + 1, 0, [])
          else pure (index, 1, c :: cs)
        | _ => pure (index, 0, [])
    match current with
    | [] =>
      finish index 0
      assign name ['?']
      return 1
    | c :: cs =>
      let takesValue := match (letters.dropWhile (· != c)).drop 1 with
        | ':' :: _ => true
        | _ => false
      let next : Nat × Nat := if cs.isEmpty then (index + 1, 0) else (index, offset + 1)
      if c == ':' || !letters.contains c then
        finish next.1 next.2
        assign name ['?']
        if silent then assign "OPTARG".toList [c]
        else
          act (Act.complain ("Illegal option -".toList ++ [c]))
          modify (·.bind "OPTARG".toList none)
        return 0
      else if takesValue then
        if !cs.isEmpty then
          finish (index + 1) 0
          assign "OPTARG".toList cs
          assign name [c]
          return 0
        match params[index]? with
        | some value =>
          finish (index + 2) 0
          assign "OPTARG".toList value
          assign name [c]
          return 0
        | none =>
          finish (index + 1) 0
          if silent then
            assign "OPTARG".toList [c]
            assign name [':']
          else
            act (Act.complain ("No arg for -".toList ++ [c] ++ " option".toList))
            modify (·.bind "OPTARG".toList none)
            assign name ['?']
          return 0
      else
        finish next.1 next.2
        modify (·.bind "OPTARG".toList none)
        assign name [c]
        return 0
  | _ => refuse "Usage: getopts optstring var [arg]".toList

/-! ## Signals -/

def signals : List (Nat × String) :=
  [(0, "EXIT"), (1, "HUP"), (2, "INT"), (3, "QUIT"), (4, "ILL"), (5, "TRAP"), (6, "ABRT"), (7, "BUS"),
    (8, "FPE"), (9, "KILL"), (10, "USR1"), (11, "SEGV"), (12, "USR2"), (13, "PIPE"), (14, "ALRM"),
    (15, "TERM"), (17, "CHLD"), (18, "CONT"), (19, "STOP"), (20, "TSTP"), (21, "TTIN"), (22, "TTOU"),
    (23, "URG"), (24, "XCPU"), (25, "XFSZ"), (26, "VTALRM"), (27, "PROF"), (28, "WINCH"), (29, "IO"),
    (30, "PWR"), (31, "SYS")]

def signal? (s : Octets) : Option (Nat × String) :=
  match Octets.nat? s with
  | some n => signals.find? (·.1 == n)
  | none =>
    let name := (String.ofList s).toUpper
    signals.find? fun (_, known) => known == name || "SIG" ++ known == name

def trap : Builtin := fun args => do
  let args := match args with
    | ['-', '-'] :: args => args
    | args => args
  match args with
  | [] =>
    let s ← get
    signals.forM fun (_, name) =>
      match s.traps.lookup name.toList with
      | some action =>
        act (Act.printLine ("trap -- ".toList ++ singleQuoted action ++ ' ' :: name.toList))
      | none => pure ()
    return 0
  | action :: names =>
    let (action, names) : Option Octets × List Octets :=
      if names.isEmpty then (none, [action])
      else if action == ['-'] then (none, names)
      else if (Octets.nat? action).isSome then (none, args)
      else (some action, names)
    let step (status : Nat) (name : Octets) : Running Nat := do
      match signal? name with
      | none => do
        act (Act.complain ("trap: ".toList ++ name ++ ": bad trap".toList))
        return 1
      | some (_, name) =>
        modify fun s =>
          let rest := s.traps.filter (·.1 != name.toList)
          { s with traps := match action with
              | some a => (name.toList, a) :: rest
              | none => rest }
        return status
    names.foldlM step 0

def kill : Builtin := fun args => do
  if args == [['-', 'l']] then
    (List.range 32).forM fun n =>
      act (Act.printLine (((signals.lookup n).map fun s => if n == 0 then ['0'] else s.toList).getD
        (Octets.ofNat n)))
    return 0
  if let [['-', 'l'], status] := args then
    let n ← number status
    match if n == 0 then none else signals.lookup (if n > 128 then n - 128 else n) with
    | some name =>
      act (Act.printLine name.toList)
      return 0
    | none => return ← refuse ("invalid signal number or exit status: ".toList ++ status)
  let (wanted, targets) : Octets × List Octets := match args with
    | ['-', 's'] :: name :: rest => (name, rest)
    | ('-' :: c :: cs) :: rest => (c :: cs, rest)
    | rest => ("TERM".toList, rest)
  match signal? wanted, targets with
  | none, _ => refuse ("Illegal option -".toList ++ wanted.take 1)
  | some _, [] => refuse "Usage: kill [-s sigspec | -signum | -sigspec] [pid | job]... or\nkill -l [exitstatus]".toList
  | some (n, name), targets =>
    let step (status : Nat) (target : Octets) : Running Nat := do
      if target == processId || target == ['0'] then
        match (← get).traps.lookup name.toList with
        | some action =>
          modify fun s => { s with pending := s.pending ++ [action] }
          return status
        | none =>
          if n == 0 || n == 17 || n == 18 then return status else throw (.killed n)
      else if ((← get).processes.lookup target).isSome then return status
      else
        match Octets.nat? target with
        | some _ => do
          warn "No such process\n".toList
          return 1
        | none => do
          warn ("Illegal number: ".toList ++ target)
          return errorStatus
    targets.foldlM step 0

def signalText (n : Nat) : Option String :=
  match n with
  | 1 => some "Hangup"
  | 3 => some "Quit"
  | 6 => some "Aborted"
  | 8 => some "Floating point exception"
  | 9 => some "Killed"
  | 10 => some "User defined signal 1"
  | 11 => some "Segmentation fault"
  | 12 => some "User defined signal 2"
  | 14 => some "Alarm clock"
  | 15 => some "Terminated"
  | _ => none

/-! ## The names of the builtin commands -/

def nothing : Builtin := fun _ => return 0

def wait : Builtin := fun args => do
  let processes := (← get).processes
  args.foldlM (fun _ process => do
    let _ ← number process
    return (processes.lookup process).getD 127) 0

/-- Asks for a job, which is never there. -/
def noJob : Builtin := fun _ => refuse "No current job".toList

def umask : Builtin := fun args => do
  if args.isEmpty then
    let digits := Nat.toDigits 8 (← act Act.fileSystem).umask.toNat
    act (Act.printLine (List.replicate (4 - digits.length) '0' ++ digits))
  return 0

/-- A program of the shell itself; messages begin like those of other builtin commands. -/
def ownProgram (p : Octets → Program) : Builtin := fun args => do
  programBuiltin (p (← messageHead)) args

/-- The same for a program that prints, which needs somewhere to print to. -/
def printing (name : String) (p : Octets → Program) : Builtin := fun args => do
  let status ← ownProgram p args
  if ((← get).machine.handles.lookup Act.output).isSome || status != 0 then return status
  else
    warn (name ++ ": I/O error").toList
    return 1

def find? (name : String) : Option Builtin :=
  match name with
  | ":" | "true" | "times" | "hash" | "alias" | "unalias" | "ulimit" | "jobs" => some nothing
  | "false" => some fun _ => return 1
  | "wait" => some wait
  | "fg" | "bg" => some noJob
  | "echo" => some (printing "echo" fun _ => Program.echo)
  | "printf" => some (printing "printf" Program.printf)
  | "test" => some (ownProgram Program.test)
  | "[" => some (ownProgram Program.bracket)
  | "exit" => some exit
  | "return" => some return'
  | "break" => some (leaveLoops .break)
  | "continue" => some (leaveLoops .continue)
  | "cd" | "chdir" => some cd
  | "pwd" => some pwd
  | "export" => some export'
  | "readonly" => some readonly
  | "unset" => some unset
  | "local" => some local'
  | "shift" => some shift
  | "set" => some set'
  | "read" => some read
  | "getopts" => some getopts
  | "trap" => some trap
  | "kill" => some kill
  | "umask" => some umask
  | _ => none

def evaluating : List String :=
  [".", "command", "eval", "exec", "type"]

def isBuiltin (name : Octets) : Bool :=
  let name := String.ofList name
  evaluating.contains name || (find? name).isSome

def isSpecial (name : Octets) : Bool :=
  specialNames.contains (String.ofList name)

def isAssigning (name : Octets) : Bool :=
  ["alias", "export", "local", "readonly"].contains (String.ofList name)

end Builtin

end Stencil.Shell
