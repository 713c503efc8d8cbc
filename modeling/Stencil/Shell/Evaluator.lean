import Stencil.Shell.Builtin
import Stencil.Shell.Expansion
import Stencil.Shell.Search

/-!
# Running scripts

Commands are run one inside the other, with fuel that bounds how deep they nest and how often loops
turn. `tested` tells that somebody looks at the status of a command, so that a failure does not end
the script.
-/

namespace Stencil.Shell

namespace Running

def exhausted : Leave := .killed 9

/-! ## Redirections -/

inductive Connection where
  | read (name : Octets)
  | write (name : Octets)
  | append (name : Octets)
  | handle (number : Nat)
  | closed
  | text (s : Octets)

def connection (output : TakeOutput) : Redirect → Running (Nat × Connection)
  | .mk handle target => do
    match target with
    | .read w => return (handle, .read (← textOf output w))
    | .write w => return (handle, .write (← textOf output w))
    | .append w => return (handle, .append (← textOf output w))
    | .document n =>
      let w := ((← get).documents.lookup n).getD []
      return (handle, .text (Atom.text (← wordAtoms output w)))
    | .handle w =>
      let text ← textOf output w
      if text == ['-'] then return (handle, .closed)
      match text, Octets.nat? text with
      | [_], some n => return (handle, .handle n)
      | _, _ => abort "Syntax error: Bad fd number".toList

def openReason (creating : Bool) (e : IoError) : Octets :=
  if e == .notFound || e == .notDirectory then
    (if creating then "Directory nonexistent" else "No such file").toList
  else e.reason.toList

/-- Connects a handle; `false` if that is not possible, which is told. -/
def connect (handle : Nat) (c : Connection) : Running Bool := do
  let join (opened : Except IoError Nat) (creating : Bool) (name : Octets) : Running Bool := do
    match opened with
    | .ok index =>
      act (modify (·.connect handle index))
      return true
    | .error e =>
      let verb := if creating then "cannot create " else "cannot open "
      warn (verb.toList ++ name ++ ": ".toList ++ openReason creating e)
      return false
  match c with
  | .read name => join (← act (Act.openToRead name)) false name
  | .write name =>
    let s ← get
    if s.options.others.contains 'C' && s.machine.files.isFile (pathOf name) then
      warn ("cannot create ".toList ++ name ++ ": File exists".toList)
      return false
    join (← act (Act.openToWrite name false)) true name
  | .append name => join (← act (Act.openToWrite name true)) true name
  | .text s => join (.ok (← act (modifyGet (·.addChannel (.source s))))) false []
  | .closed =>
    act (modify fun m => { m with handles := m.handles.filter (·.1 != handle) })
    return true
  | .handle n =>
    match (← get).machine.handles.lookup n with
    | some index => join (.ok index) false []
    | none =>
      warn (Octets.ofNat n ++ ": Bad file descriptor".toList)
      return false

def connectAll : List (Nat × Connection) → Running Bool
  | [] => return true
  | (handle, c) :: cs => do
    if ← connect handle c then connectAll cs else return false

def setHandles (handles : List (Nat × Nat)) : Running Unit :=
  act (modify fun m => { m with handles })

/-! ## Starting programs -/

def launchFailure (name : Octets) (e : IoError) : Running Nat := do
  if e == .notFound || e == .notDirectory then
    warn (name ++ ": not found".toList)
    return 127
  else
    warn (name ++ ": ".toList ++ e.reason.toList)
    return if e == .nameTooLong then 127 else 126

def unknownStatus (name : Octets) (status : Nat) : Nat :=
  if name.contains '/' then status else 127

def startProgram (spawn : Spawn) (name : Octets) (args : List Octets) :
    Running (Except IoError Status) := do
  let s ← get
  act do
    let before := (← get).environment
    modify fun m => { m with environment := s.exported }
    let result ← spawn (some (s.value "PATH".toList)) name args
    modify fun m => { m with environment := before }
    return result

def external (spawn : Spawn) (name : Octets) (args : List Octets) : Running Nat := do
  match ← startProgram spawn name args with
  | .error e => return unknownStatus name (← launchFailure name e)
  | .ok (.exited n) => return n
  | .ok (.killed n) =>
    match Builtin.signalText n with
    | some text => act (Act.complain text.toList)
    | none => pure ()
    return (Status.killed n).code

/-! ## Names of commands -/

/-- What the name of a command stands for, as it is shown: in words or so that it could be run. -/
def describe (inWords : Bool) (name : Octets) : Running Nat := do
  let s ← get
  let say (words plain : Octets) : Running Nat := do
    act (Act.printLine (if inWords then name ++ words else plain))
    return 0
  if keywords.contains (String.ofList name) then say " is a shell keyword".toList name
  else if Builtin.isSpecial name then say " is a special shell builtin".toList name
  else if (s.functions.lookup name).isSome then say " is a shell function".toList name
  else if Builtin.isBuiltin name then say " is a shell builtin".toList name
  else
    let searchPath := s.value "PATH".toList
    match Started.find s.machine.files searchPath name with
    | .ok (path, _) => say (" is ".toList ++ path) path
    | .error _ =>
      if inWords then act (Act.printLine (name ++ ": not found".toList))
      return 127

/-- Arguments after `command`: what is only described, or what is run. -/
inductive Prefixed where
  | describe (inWords : Bool) (names : List Octets)
  | run (args : List Octets)

def prefixed : List Octets → Prefixed
  | ['-', 'v'] :: names => .describe false names
  | ['-', 'V'] :: names => .describe true names
  | ['-', 'p'] :: args => .run args
  | ['-', '-'] :: args => .run args
  | args => .run args

/-- Takes the word `command` away from the beginning of arguments; `true` if it stood there. -/
def strip : List Octets → Bool × List Octets
  | [] => (false, [])
  | name :: args =>
    if name == "command".toList then
      match prefixed args with
      | .run (next :: rest) => (true, (strip' (next :: rest) args.length))
      | _ => (false, name :: args)
    else (false, name :: args)
where
  strip' (args : List Octets) : (count : Nat) → List Octets
    | 0 => args
    | count + 1 =>
      match args with
      | name :: rest =>
        if name == "command".toList then
          match prefixed rest with
          | .run (next :: rest) => strip' (next :: rest) count
          | _ => args
        else args
      | [] => args

/-- Whether the values of variables among the words after a name are kept whole. -/
def keepsSettings (name : Octets) (words : List Word) : Bool :=
  Builtin.isAssigning name ||
    (name == "command".toList && ((words.head?.bind Word.plain?).map Builtin.isAssigning).getD false)

def commandFields (output : TakeOutput) : List Word → Running (List Octets)
  | [] => return []
  | w :: ws => do
    match ← fieldsOf output w with
    | [] => commandFields output ws
    | name :: fields =>
      let keeps := keepsSettings name ws
      let rest ← ws.mapM fun w => do
        match if keeps then Word.assignment? w else none with
        | some (target, value) => return [target ++ '=' :: (← valueOf output value)]
        | none => fieldsOf output w
      return name :: fields ++ rest.flatten

/-! ## Functions and copies -/

def popFrame : Running Unit := do
  let s ← get
  match s.frames with
  | [] => pure ()
  | frame :: frames =>
    set (frame.foldl (fun s (name, old) => s.bind name old) { s with frames })

def callFunction (params : List Octets) (body : Running Unit) : Running Nat := do
  let before ← get
  modify fun s => { s with params, loops := 0, optionOffset := 0 }
  let result ← attempt body
  modify fun s => { s with
    params := before.params, loops := before.loops, optionOffset := before.optionOffset }
  match result with
  | .ok () => return (← get).status
  | .error (.return status) => return status
  | .error leave => throw leave

def turn (body : Running Unit) : Running Bool := do
  match ← attempt body with
  | .ok () => return true
  | .error (.break n) => do
    setStatus 0
    if n > 1 then throw (.break (n - 1)) else return false
  | .error (.continue n) => do
    setStatus 0
    if n > 1 then throw (.continue (n - 1)) else return true
  | .error leave => throw leave

def inLoop (body : Running Unit) : Running Unit := do
  modify fun s => { s with loops := s.loops + 1 }
  ensuring body (modify fun s => { s with loops := s.loops - 1 })

/-- Ends the script if a command has failed and nobody looks at its status. -/
def checkFailure (tested : Bool) : Running Unit := do
  let s ← get
  if s.options.errexit && !tested && s.status != 0 then throw (.exit s.status)

def syntaxError {α : Type} (e : SyntaxError) : Running α := do
  modify fun s => { s with line := e.line }
  abort ("Syntax error: ".toList ++ e.fault.message.toList)

def sourceOf (text : Octets) : Running Source := do
  return { rest := text
           nextDocument := (← get).documents.foldl (fun n d => max n (d.1 + 1)) 0 }

def scriptPath (name : Octets) : Running Octets := do
  if name.contains '/' then return name
  let s ← get
  let found := (s.value "PATH".toList).splitOn ':' |>.findSome? fun dir =>
    let path := Started.inDir dir name
    if s.machine.files.isFile (pathOf path) then some path else none
  match found with
  | some path => return path
  | none => abort (name ++ ": not found".toList)

mutual

def runCommand (spawn : Spawn) : (fuel : Nat) → (tested : Bool) → Command → Running Unit
  | 0, _, _ => throw exhausted
  | fuel + 1, tested, c => do
    if (← get).options.noexec then return
    let output : TakeOutput := fun body => takeOutput spawn fuel body
    match c with
    | .simple line assignments words redirects =>
      simple spawn fuel tested line assignments words redirects
      runPending spawn fuel
      checkFailure tested
    | .pipe commands =>
      pipeline spawn fuel tested none commands
      checkFailure tested
    | .background c =>
      inSubshell spawn fuel (fun m =>
        let (index, m) := m.addChannel .null
        m.connect Act.input index) (runCommand spawn fuel false c)
      modify fun s =>
        let process := Octets.ofNat (1001 + s.processes.length)
        { s with processes := (process, s.status) :: s.processes }
      setStatus 0
    | .negated c =>
      runCommand spawn fuel true c
      setStatus (if (← get).status == 0 then 1 else 0)
    | .and c d =>
      runCommand spawn fuel true c
      if (← get).status == 0 then runCommand spawn fuel tested d
    | .or c d =>
      runCommand spawn fuel true c
      if (← get).status != 0 then runCommand spawn fuel tested d
    | .sequence c d =>
      runCommand spawn fuel tested c
      runCommand spawn fuel tested d
    | .ifs condition body otherwise =>
      runOptional spawn fuel true condition
      if (← get).status == 0 then runOptional spawn fuel tested body
      else
        match otherwise with
        | some c => runCommand spawn fuel tested c
        | none => setStatus 0
    | .loop continues condition body =>
      inLoop (whileLoop spawn fuel tested continues condition body 0)
    | .forEach line name words body =>
      modify fun s => { s with line }
      let values ← match words with
        | some ws => allFieldsOf output ws
        | none => pure (← get).params
      setStatus 0
      inLoop (forLoop spawn fuel tested name body values)
    | .cases line word branches =>
      modify fun s => { s with line }
      let value ← textOf output word
      cases spawn fuel tested value branches
    | .subshell line body redirects =>
      modify fun s => { s with line }
      let connections ← redirects.mapM (connection output)
      inSubshell spawn fuel id (do
        if ← connectAll connections then runOptional spawn fuel tested body
        else throw (.error errorStatus))
      checkFailure tested
    | .redirected line body redirects =>
      modify fun s => { s with line }
      let connections ← redirects.mapM (connection output)
      let handles := (← get).machine.handles
      ensuring (do
        if ← connectAll connections then runOptional spawn fuel tested body
        else setStatus errorStatus) (setHandles handles)
    | .define name body =>
      modify fun s => { s with functions := (name, body) :: s.functions.filter (·.1 != name) }
      setStatus 0

def runOptional (spawn : Spawn) : (fuel : Nat) → (tested : Bool) → Option Command → Running Unit
  | 0, _, _ => throw exhausted
  | fuel + 1, tested, c => do
    match c with
    | some c => runCommand spawn fuel tested c
    | none => pure ()

def runPending (spawn : Spawn) : (fuel : Nat) → Running Unit
  | 0 => throw exhausted
  | fuel + 1 => do
    match (← get).pending with
    | [] => pure ()
    | action :: rest =>
      modify fun s => { s with pending := rest }
      let status := (← get).status
      let _ ← evaluate spawn fuel false action
      setStatus status
      runPending spawn fuel

/-- Turns a loop with a condition; `status` is the one of the last turn. -/
def whileLoop (spawn : Spawn) : (fuel : Nat) → (tested continues : Bool) →
    (condition body : Option Command) → (status : Nat) → Running Unit
  | 0, _, _, _, _, _ => throw exhausted
  | fuel + 1, tested, continues, condition, body, status => do
    let holds ← turn (runOptional spawn fuel true condition)
    if !holds then setStatus status
    else if ((← get).status == 0) != continues then setStatus status
    else
      let goesOn ← turn (runOptional spawn fuel tested body)
      if goesOn then whileLoop spawn fuel tested continues condition body (← get).status

def forLoop (spawn : Spawn) : (fuel : Nat) → (tested : Bool) → Octets → Option Command →
    List Octets → Running Unit
  | 0, _, _, _, _ => throw exhausted
  | _, _, _, _, [] => pure ()
  | fuel + 1, tested, name, body, value :: values => do
    assign name value
    if ← turn (runOptional spawn fuel tested body) then forLoop spawn fuel tested name body values

def cases (spawn : Spawn) : (fuel : Nat) → (tested : Bool) → Octets →
    List (List Word × Option Command) → Running Unit
  | 0, _, _, _ => throw exhausted
  | _, _, _, [] => setStatus 0
  | fuel + 1, tested, value, (patterns, body) :: branches => do
    if ← anyFits spawn fuel value patterns then
      match body with
      | some c => runCommand spawn fuel tested c
      | none => setStatus 0
    else cases spawn fuel tested value branches

def anyFits (spawn : Spawn) : (fuel : Nat) → Octets → List Word → Running Bool
  | 0, _, _ => throw exhausted
  | _, _, [] => return false
  | fuel + 1, value, w :: ws => do
    let p ← patternOf (fun body => takeOutput spawn fuel body) w
    if p.fits value then return true else anyFits spawn fuel value ws

def inSubshell (spawn : Spawn) : (fuel : Nat) → (Machine → Machine) → Running Unit → Running Unit
  | 0, _, _ => throw exhausted
  | fuel + 1, prepare, body => do
    let (result, inner) ← inCopy do
      modify fun s => { s with
        machine := prepare s.machine
        traps := s.traps.filter (·.2.isEmpty) }
      match ← toEnd spawn fuel body with
      | .exited n => throw (.replaced n)
      | .killed n => throw (.killed n)
    match result with
    | .error (.killed n) => throw (.killed n)
    | .error (.replaced n) => setStatus n
    | _ => setStatus inner.status

def toEnd (spawn : Spawn) : (fuel : Nat) → Running Unit → Running Status
  | 0, _ => throw exhausted
  | fuel + 1, body => do
    let status ← match ← attempt body with
      | .ok () | .error (.break _) | .error (.continue _) => do
        pure (Status.exited (← get).status)
      | .error (.exit n) | .error (.error n) | .error (.return n) => pure (Status.exited n)
      | .error (.killed n) => pure (Status.killed n)
      | .error (.replaced n) => return .exited n
    let wrap (n : Nat) : Status := .exited (n % 256)
    let s ← get
    match status, s.traps.lookup "EXIT".toList with
    | .exited n, some action =>
      set { s with status := n, traps := s.traps.filter (·.1 != "EXIT".toList), command := none }
      match ← attempt (evaluate spawn fuel false action) with
      | .error (.exit m) | .error (.error m) => return wrap m
      | .error (.killed m) => return .killed m
      | _ => return wrap n
    | .exited n, none => return wrap n
    | .killed n, _ => return .killed n

def takeOutput (spawn : Spawn) : (fuel : Nat) → Option Command → Running Octets
  | 0, _ => throw exhausted
  | fuel + 1, body => do
    let index ← act (modifyGet (·.addChannel (.sink #[])))
    let before := (← get).status
    inSubshell spawn fuel (fun m => m.connect Act.output index) (do
      match body with
      | some c => runCommand spawn fuel false c
      | none => setStatus 0)
    modify fun s => { s with outputStatus := some s.status, status := before }
    return ((← get).machine.written index).filter (· != '\x00')

/-- Runs commands of which each reads what the one before it writes. `source` is what the first one
reads. -/
def pipeline (spawn : Spawn) : (fuel : Nat) → (tested : Bool) → (source : Option Nat) →
    List Command → Running Unit
  | 0, _, _, _ => throw exhausted
  | _, _, _, [] => pure ()
  | fuel + 1, tested, source, c :: cs => do
    let reading (m : Machine) : Machine :=
      match source with
      | some index => m.connect Act.input index
      | none => m
    match cs with
    | [] => inSubshell spawn fuel reading (runCommand spawn fuel tested c)
    | _ =>
      let index ← act (modifyGet (·.addChannel (.sink #[])))
      inSubshell spawn fuel (fun m => (reading m).connect Act.output index) (runCommand spawn fuel tested c)
      act (modify fun m =>
        { m with channels := m.channels.setIfInBounds index (.source (m.written index)) })
      pipeline spawn fuel tested (some index) cs

def evaluate (spawn : Spawn) : (fuel : Nat) → (tested : Bool) → Octets → Running Bool
  | 0, _, _ => throw exhausted
  | fuel + 1, tested, text => do
    script spawn fuel tested false (← sourceOf text)

/-- Runs what is left of a script, line by line; `any` tells whether a command has been run. -/
def script (spawn : Spawn) : (fuel : Nat) → (tested any : Bool) → Source → Running Bool
  | 0, _, _, _ => throw exhausted
  | fuel + 1, tested, any, source => do
    match source.nextLine with
    | .error e => syntaxError e
    | .ok (c, next) =>
      modify fun s => { s with documents := next.documents ++ s.documents }
      match c with
      | some c => runCommand spawn fuel tested c
      | none => pure ()
      let any := any || c.isSome
      if next.rest.isEmpty then return any
      else script spawn fuel tested any { next with documents := [] }

def simple (spawn : Spawn) : (fuel : Nat) → (tested : Bool) → (line : Nat) →
    List (Octets × Word) → List Word → List Redirect → Running Unit
  | 0, _, _, _, _, _ => throw exhausted
  | fuel + 1, tested, line, assignments, words, redirects => do
    modify fun s => { s with line, outputStatus := none }
    let output : TakeOutput := fun body => takeOutput spawn fuel body
    let fields ← commandFields output words
    let connections ← redirects.mapM (connection output)
    let (isPlain, args) := strip fields
    let name := args.headD []
    let s ← get
    let special := !isPlain && !args.isEmpty && Builtin.isSpecial name
    let handles := s.machine.handles
    let trace := s.options.xtrace
    if !(← connectAll connections) then
      setHandles handles
      setStatus errorStatus
      if special then throw (.error errorStatus)
    else
      let persistent := args.isEmpty || special
      if !persistent then modify fun s => { s with frames := [] :: s.frames }
      let body : Running Unit := do
        let shown ← assignments.mapM fun (target, w) => do
          let value ← valueOf output w
          if !persistent then Builtin.makeLocal target
          assign target value
          let exporting := !persistent || (name == "exec".toList && args.length > 1)
          if exporting then
            modify fun s => s.bind target (some { value := some value, exported := true })
          return target ++ '=' :: value
        if trace then
          let errors := handles.lookup Act.errors
          act do
            let before := (← get).handles
            match errors with
            | some index => modify (·.connect Act.errors index)
            | none => pure ()
            let sign := (s.lookup? "PS4".toList).getD "+ ".toList
            Act.complain (sign ++ List.intercalate [' '] (shown ++ fields))
            modify fun m => { m with handles := before }
        let status ← match args with
          | [] => pure ((← get).outputStatus.getD 0)
          | name :: args => perform spawn fuel tested isPlain name args
        setStatus status
      let keepsHandles := name == "exec".toList && args.length == 1
      ensuring body (do
        if !keepsHandles then setHandles handles
        if !persistent then popFrame)

def perform (spawn : Spawn) : (fuel : Nat) → (tested isPlain : Bool) → Octets → List Octets →
    Running Nat
  | 0, _, _, _, _ => throw exhausted
  | fuel + 1, tested, isPlain, name, args => do
    let s ← get
    let builtin : Running Nat :=
      naming name (do
        match String.ofList name, args with
        | "eval", args =>
          let any ← evaluate spawn fuel tested (List.intercalate [' '] args)
          if any then return (← get).status else return 0
        | ".", [] => return 0
        | ".", file :: _ => sourceFile spawn fuel file
        | "command", args =>
          match prefixed args with
          | .describe inWords names =>
            match names with
            | [] => return 0
            | name :: _ => describe inWords name
          | .run _ => return 0
        | "type", names =>
          names.foldlM (fun status name => do return max status (← describe true name)) 0
        | "exec", [] => return 0
        | "exec", program :: args =>
          match ← startProgram spawn program args with
          | .error e => throw (.exit (← launchFailure program e))
          | .ok (.exited n) => throw (.replaced n)
          | .ok (.killed n) => throw (.killed n)
        | text, args =>
          match Builtin.find? text with
          | some b => b args
          | none => return 0)
    if Builtin.isSpecial name then
      if isPlain then
        match ← attempt builtin with
        | .error (.error n) => return n
        | .error leave => throw leave
        | .ok n => return n
      else builtin
    else
      match if isPlain then none else s.functions.lookup name with
      | some body => callFunction args (runCommand spawn fuel tested body)
      | none =>
        if Builtin.isBuiltin name then
          match ← attempt builtin with
          | .error (.error n) => return n
          | .error leave => throw leave
          | .ok n => return n
        else external spawn name args

def sourceFile (spawn : Spawn) : (fuel : Nat) → Octets → Running Nat
  | 0, _ => throw exhausted
  | fuel + 1, file => do
    let path ← scriptPath file
    match ← act (Act.readFile path) with
    | .error e =>
      if e == .isDirectory then return 0
      else abort ("cannot open ".toList ++ path ++ ": ".toList ++ openReason false e)
    | .ok text =>
      match ← attempt (naming path (evaluate spawn fuel false text)) with
      | .ok any => if any then return (← get).status else return 0
      | .error (.return n) => return n
      | .error leave => throw leave

end

def fuel : Nat := 1000000

def whole (spawn : Spawn) (text : Octets) : Running Status :=
  toEnd spawn fuel (do
    setStatus 0
    let _ ← evaluate spawn fuel false text)

end Running

end Stencil.Shell
