import Stencil.Shell.Machine
import Stencil.Shell.Syntax

/-!
# Sessions

What a script that is being run holds: its parameters, variables and functions, its options, and the
machine that it runs on.
-/

namespace Stencil.Shell

structure Variable where
  /-- The value; none if the variable is only marked. -/
  value : Option Octets
  exported : Bool := false
  fixed : Bool := false

structure Options where
  /-- The first command that fails ends the script. -/
  errexit : Bool := false
  /-- A parameter that is not set is an error. -/
  nounset : Bool := false
  /-- Commands are shown before they run. -/
  xtrace : Bool := false
  /-- File names are not looked for. -/
  noglob : Bool := false
  noexec : Bool := false
  allexport : Bool := false
  /-- The other options that are on, by their letters. -/
  others : List Char := []

structure Session where
  machine : Machine
  /-- The name of the script. -/
  name : Octets
  params : List Octets := []
  bindings : List (Octets × Variable) := []
  functions : List (Octets × Command) := []
  documents : List (Nat × Word) := []
  status : Nat := 0
  /-- The status of the last command whose output was taken, while a command is made ready. -/
  outputStatus : Option Nat := none
  options : Options := {}
  line : Nat := 1
  /-- The command that messages name. -/
  command : Option Octets := none
  /-- What variables held before they were made local, for each running function, the last one
  first. -/
  frames : List (List (Octets × Option Variable)) := []
  loops : Nat := 0
  /-- What is done on signals and at the end, by their names. -/
  traps : List (Octets × Octets) := []
  /-- What signals have asked for. -/
  pending : List Octets := []
  /-- The processes of commands that ran beside the script, with their statuses, the last one
  first. -/
  processes : List (Octets × Nat) := []
  /-- How many arguments `getopts` has looked at in the current one. -/
  optionOffset : Nat := 0

inductive Leave where
  | exit (status : Nat)
  /-- Another program has taken the place of the shell and has ended. -/
  | replaced (status : Nat)
  /-- An error, of which a message has told. -/
  | error (status : Nat)
  | killed (signal : Nat)
  | return (status : Nat)
  | break (loops : Nat)
  | continue (loops : Nat)
  deriving DecidableEq, Repr

abbrev Running := ExceptT Leave (StateM Session)

namespace Running

variable {α : Type}

def act (a : Act α) : Running α := do
  let s ← get
  let (result, machine) := a.run s.machine
  set { s with machine }
  return result

def processId : Octets := "1000".toList

def messageHead : Running Octets := do
  let s ← get
  let head := s.name ++ ": ".toList ++ Octets.ofNat s.line ++ ": ".toList
  return match s.command with
    | some c => head ++ c ++ ": ".toList
    | none => head

def warn (text : Octets) : Running Unit := do
  let head ← messageHead
  act (Act.complain (head ++ text))

def errorStatus : Nat := 2

def abort (text : Octets) : Running α := do
  warn text
  throw (.error errorStatus)

/-- Runs something and tells how its course was left, if it was. -/
def attempt (r : Running α) : Running (Except Leave α) :=
  ExceptT.mk (Except.ok <$> r.run)

def ensuring (r : Running α) (after : Running Unit) : Running α := do
  let result ← attempt r
  after
  match result with
  | .ok a => return a
  | .error leave => throw leave

def naming (command : Octets) (r : Running α) : Running α := do
  let before := (← get).command
  modify fun s => { s with command := some command }
  ensuring r (modify fun s => { s with command := before })

def setStatus (status : Nat) : Running Unit :=
  modify fun s => { s with status }

end Running

namespace Session

def lookup? (s : Session) (name : Octets) : Option Octets :=
  (s.bindings.lookup name).bind (·.value)

def value (s : Session) (name : Octets) : Octets :=
  (s.lookup? name).getD []

def bind (s : Session) (name : Octets) (v : Option Variable) : Session :=
  let rest := s.bindings.filter (·.1 != name)
  { s with
    bindings := match v with
      | some v => (name, v) :: rest
      | none => rest }

def separators (s : Session) : Octets :=
  match s.bindings.lookup "IFS".toList with
  | some { value := some ifs, .. } => ifs
  | _ => " \t\n".toList

/-- The letters of the options that are on, in the order in which they are shown. -/
def optionLetters (s : Session) : Octets :=
  let o := s.options
  let letter (on : Bool) (c : Char) : Octets := if on then [c] else []
  let on := letter o.errexit 'e' ++ letter o.noglob 'f' ++ letter o.noexec 'n' ++
    letter o.nounset 'u' ++ letter o.xtrace 'x' ++ letter o.allexport 'a' ++ o.others
  "pubaCEVxvsnmiIfe".toList.filter (on.contains ·)

def exported (s : Session) : List (Octets × Octets) :=
  s.bindings.filterMap fun (name, v) =>
    match v with
    | { value := some text, exported := true, .. } => some (name, text)
    | _ => none

/-- The value of a parameter that is not the list of all; none if it is not set. -/
def parameter? (s : Session) (name : Octets) : Option Octets :=
  match name with
  | ['#'] => some (Octets.ofNat s.params.length)
  | ['?'] => some (Octets.ofNat s.status)
  | ['$'] => some Running.processId
  | ['!'] => s.processes.head?.map (·.1)
  | ['-'] => some s.optionLetters
  | ['0'] => some s.name
  | _ =>
    match Octets.nat? name with
    | some n => if n == 0 then some s.name else s.params[n - 1]?
    | none => s.lookup? name

end Session

namespace Running

def assign (name : Octets) (value : Octets) : Running Unit := do
  if !Word.isName name then abort (name ++ ": bad variable name".toList)
  let s ← get
  let old := s.bindings.lookup name
  if (old.map (·.fixed)).getD false then abort (name ++ ": is read only".toList)
  let exported := (old.map (·.exported)).getD false || s.options.allexport
  set (s.bind name (some { value := some value, exported }))

/-- Runs in a session of its own on the same machine; what is left of it is the machine and, as the
answer, the session. -/
def inCopy (r : Running Unit) : Running (Except Leave Unit × Session) := do
  let s ← get
  let (result, inner) := r.run s
  set { s with
    machine := { inner.machine with
      files := { inner.machine.files with workingDir := s.machine.files.workingDir }
      handles := s.machine.handles } }
  return (result, inner)

end Running

end Stencil.Shell
