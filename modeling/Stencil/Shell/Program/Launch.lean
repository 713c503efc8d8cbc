import Stencil.Shell.Program.Arguments

/-!
# Programs that start programs

Starts a program with another environment, or with arguments that are read from the input.
-/

namespace Stencil.Shell.Program

def launchStatus (e : IoError) : Nat :=
  if e == .notFound then 127 else 126

def launch (spawn : Spawn) (name what : String) (program : Octets) (args : List Octets) :
    Act Status := do
  match ← spawn none program args with
  | .ok status => return status
  | .error e =>
    complain name (what.toList ++ quoted program ++ ": ".toList ++ reason e)
    return .exited (launchStatus e)

/-- Splits arguments at the first one that gives no variable a value. -/
def settings : List Octets → List (Octets × Octets) × List Octets
  | [] => ([], [])
  | arg :: rest =>
    let name := arg.takeWhile (· != '=')
    match arg.drop name.length with
    | _ :: value =>
      let (found, rest) := settings rest
      ((name, value) :: found, rest)
    | [] => ([], arg :: rest)

def env (spawn : Spawn) : Program := withOptions "env"
    { plain := "i0", valued := "uC", strict := true,
      long := [("ignore-environment", 'i'), ("unset", 'u')] } 125 fun a => do
  let operands := match a.operands with
    | ['-'] :: rest => rest
    | operands => operands
  let clears := a.has 'i' || a.operands.head? == some ['-']
  let (found, command) := settings operands
  let before := (← get).environment
  let kept := if clears then [] else before.filter fun v => !(a.values 'u').contains v.1
  let environment := found.foldl (fun vs v =>
    if vs.any (·.1 == v.1) then vs.map fun w => if w.1 == v.1 then v else w else vs ++ [v]) kept
  match command with
  | [] =>
    environment.forM fun (name, value) => Act.printLine (name ++ '=' :: value)
    return .success
  | program :: args =>
    modify fun m => { m with environment }
    let status ← launch spawn "env" "" program args
    modify fun m => { m with environment := before }
    return status

/-- Runs a program for a time that is never too short. -/
def timeout (spawn : Spawn) : Program := withOptions "timeout"
    { plain := "fpv", valued := "ks", strict := true } 125 fun a => do
  match a.operands with
  | _ :: program :: args => launch spawn "timeout" "failed to run command " program args
  | _ =>
    Act.complain "Try 'timeout --help' for more information.".toList
    return .exited 125

def wrapper (name : String) (valued : String) (spawn : Spawn) : Program := withOptions name
    { plain := "", valued, strict := true } 125 fun a => do
  match a.operands with
  | program :: args => launch spawn name "" program args
  | [] =>
    complain name "missing operand".toList
    Act.complain ("Try '" ++ name ++ " --help' for more information.").toList
    return .exited 125

/-! ## Arguments from the input -/

/-- The words of a text, where quotes and backslashes count; `count` bounds the number of steps. A
quote that is not closed is told. -/
def quotedWords : (count : Nat) → (word : Option Octets) → Octets → Except Char (List Octets)
  | 0, word, _ | _, word, [] => .ok (word.map List.reverse).toList
  | count + 1, word, c :: cs =>
    let so := word.getD []
    if c == ' ' || c == '\t' || c == '\n' then
      match word with
      | some w => (quotedWords count none cs).map (w.reverse :: ·)
      | none => quotedWords count none cs
    else if c == '\\' then
      match cs with
      | d :: cs => quotedWords count (some (d :: so)) cs
      | [] => .ok (word.map List.reverse).toList
    else if c == '"' || c == '\'' then
      let inner := cs.takeWhile fun d => d != c && d != '\n'
      match cs.drop inner.length with
      | d :: rest =>
        if d == c then quotedWords count (some (inner.reverse ++ so)) rest else .error c
      | [] => .error c
    else quotedWords count (some (c :: so)) cs

def chunks (n : Nat) : (count : Nat) → List Octets → List (List Octets)
  | 0, _ => []
  | _, [] => []
  | count + 1, xs => xs.take (max n 1) :: chunks n count (xs.drop (max n 1))

def replaceText (old new : Octets) : (count : Nat) → Octets → Octets
  | 0, s => s
  | _, [] => []
  | count + 1, c :: cs =>
    if !old.isEmpty && (c :: cs).take old.length == old then
      new ++ replaceText old new count ((c :: cs).drop old.length)
    else c :: replaceText old new count cs

def xargs (spawn : Spawn) : Program := withOptions "xargs"
    { plain := "0rtpx", valued := "nILdPsEa", strict := true,
      long := [("null", '0'), ("no-run-if-empty", 'r'), ("max-args", 'n'), ("replace", 'I'),
        ("delimiter", 'd'), ("max-procs", 'P'), ("verbose", 't')] } 1 fun a => do
  let text ← Act.takeInput
  let command := if a.operands.isEmpty then ["echo".toList] else a.operands
  let separator : Option Char :=
    if a.has '0' then some '\x00'
    else (a.value? 'd').map fun d => if d == ['\\', 'n'] then '\n' else d.headD ' '
  let pieces (c : Char) : List Octets :=
    let parts := text.splitOn c
    if parts.getLast? == some [] then parts.dropLast else parts
  let lines := (Octets.lines text).map fun l => l.dropWhile fun c => c == ' ' || c == '\t'
  let words : Except Char (List Octets) := match separator with
    | some c => .ok (pieces c)
    | none =>
      if a.has 'I' then .ok (lines.filter (!·.isEmpty)) else quotedWords (text.length + 1) none text
  match words with
  | .error c =>
    let kind := if c == '"' then "double" else "single"
    complain "xargs" ("unmatched " ++ kind ++ " quote; by default quotes are special to xargs " ++
      "unless you use the -0 option").toList
    return .exited 1
  | .ok words =>
    let program := command.headD []
    let given := command.drop 1
    let calls : List (List Octets) := match a.value? 'I' with
      | some mark => words.map fun w => given.map fun arg => replaceText mark w (arg.length + 1) arg
      | none =>
        let groups := match (a.value? 'n').bind Octets.nat?, (a.value? 'L').bind Octets.nat? with
          | some n, _ => chunks n (words.length + 1) words
          | none, some n =>
            (chunks n (lines.length + 1) (lines.filter (!·.isEmpty))).map fun ls =>
              (quotedWords (text.length + 1) none (List.intercalate [' '] ls)).toOption.getD []
          | none, none => if words.isEmpty then [] else [words]
        (if groups.isEmpty && !a.has 'r' then [[]] else groups).map (given ++ ·)
    -- the programs have nothing to read
    let before := (← get).handles
    modify fun m =>
      let (index, m) := m.addChannel .null
      m.connect Act.input index
    let step (acc : Nat × Bool) (args : List Octets) : Act (Nat × Bool) := do
      if acc.2 then return acc
      if a.has 't' then Act.complain (List.intercalate [' '] (program :: args))
      match ← spawn none program args with
      | .error e =>
        complain "xargs" (plainly program e)
        return (launchStatus e, true)
      | .ok (.exited 0) => return acc
      | .ok (.exited 255) =>
        complain "xargs" (program ++ ": exited with status 255; aborting".toList)
        return (124, true)
      | .ok (.exited _) => return (123, false)
      | .ok (.killed n) =>
        complain "xargs" (program ++ ": terminated by signal ".toList ++ Octets.ofNat n)
        return (125, true)
    let (code, _) ← calls.foldlM step (0, false)
    modify fun m => { m with handles := before }
    return .exited code

end Stencil.Shell.Program
