import Stencil.Shell.Pattern
import Stencil.Shell.Program.Files
import Stencil.Shell.Program.Launch

/-!
# Finding files and programs

Walks through directories and tests what is there; programs are found on the search path.
-/

namespace Stencil.Shell.Program

inductive FileTest where
  | always (answer : Bool)
  | name (pattern : Pattern)
  | foldedName (pattern : Pattern)
  | path (pattern : Pattern)
  | kind (letters : Octets)
  | empty
  | size (order : Option Ordering) (count unit : Nat)
  | print (ending : Octets)
  | run (command : List Octets)
  | gather (command : List Octets)
  | delete
  | prune
  | quit
  | not (test : FileTest)
  | both (first second : FileTest)
  | either (first second : FileTest)

namespace FileTest

/-- Whether something is done with the files, so that their names are not shown by themselves. -/
def acts : FileTest → Bool
  | print _ | run _ | gather _ | delete | quit => true
  | not t => t.acts
  | both a b | either a b => a.acts || b.acts
  | _ => false

def deletes : FileTest → Bool
  | delete => true
  | not t => t.deletes
  | both a b | either a b => a.deletes || b.deletes
  | _ => false

/-! ## The expression -/

structure Limits where
  least : Nat := 0
  most : Option Nat := none
  depthFirst : Bool := false

abbrev Reader := StateT (List Octets × Limits) (Except Octets)

def peek? : Reader (Option Octets) :=
  return (← get).1.head?

def skip : Reader Unit :=
  modify fun (args, limits) => (args.drop 1, limits)

def operand (option : Octets) : Reader Octets := do
  match ← peek? with
  | some text => skip; return text
  | none => throw ("missing argument to `".toList ++ option ++ ['\''])

def number (option : Octets) : Reader Nat := do
  let text ← operand option
  match if text.all (·.isDigit) then Octets.nat? text else none with
  | some n => return n
  | none =>
    throw ("Expected a positive decimal integer argument to ".toList ++ option ++ ", but got ".toList ++
      quoted text)

def pattern (text : Octets) : Pattern :=
  Pattern.ofCells (text.map (·, false))

def command (option : Octets) : Reader FileTest := do
  let (args, limits) ← get
  let lone := args.takeWhile (· != [';'])
  let many := args.takeWhile (· != ['+'])
  let failure : Octets := "missing argument to `".toList ++ option ++ ['\'']
  if many.length < lone.length && many.getLast? == some "{}".toList then
    set (args.drop (many.length + 1), limits)
    if many.length < 2 then throw failure
    return gather many.dropLast
  else if lone.length < args.length && !lone.isEmpty then
    set (args.drop (lone.length + 1), limits)
    return run lone
  else throw failure

def sizeOf? (text : Octets) : Option FileTest := do
  let (order, rest) := match text with
    | '+' :: rest => (some Ordering.gt, rest)
    | '-' :: rest => (some Ordering.lt, rest)
    | rest => (some Ordering.eq, rest)
  let digits := rest.takeWhile (·.isDigit)
  let unit ← match rest.drop digits.length with
    | [] | ['b'] => some 512
    | ['c'] => some 1
    | ['w'] => some 2
    | ['k'] => some 1024
    | ['M'] => some 1048576
    | _ => none
  return size order (← Octets.nat? digits) unit

def primary (option : Octets) : Reader FileTest := do
  let limit (change : Limits → Limits) : Reader FileTest := do
    modify fun (args, limits) => (args, change limits)
    return always true
  match String.ofList option with
  | "-name" => return name (pattern (← operand option))
  | "-iname" => return foldedName (pattern ((← operand option).map (·.toLower)))
  | "-path" | "-wholename" => return path (pattern (← operand option))
  | "-type" =>
    let letters := (← operand option).filter (· != ',')
    match letters.find? fun c => !"bcdpfls".contains c with
    | some c => throw ("Unknown argument to -type: ".toList ++ [c])
    | none => return kind letters
  | "-empty" => return empty
  | "-size" =>
    let text ← operand option
    match sizeOf? text with
    | some test => return test
    | none => throw ("Invalid argument `".toList ++ text ++ "' to -size".toList)
  | "-true" => return always true
  | "-false" => return always false
  | "-print" => return print ['\n']
  | "-print0" => return print ['\x00']
  | "-exec" => command option
  | "-delete" => return delete
  | "-prune" => return prune
  | "-quit" => return quit
  | "-depth" | "-d" => limit ({ · with depthFirst := true })
  | "-mindepth" =>
    let n ← number option
    limit ({ · with least := n })
  | "-maxdepth" =>
    let n ← number option
    limit ({ · with most := some n })
  | text =>
    if text.startsWith "-" then throw ("unknown predicate `".toList ++ option ++ ['\''])
    else throw ("paths must precede expression: `".toList ++ option ++ ['\''])

mutual

/-- Tests of which one has to hold; `steps` bounds how deep the parts are. -/
def expression : (steps : Nat) → Reader FileTest
  | 0 => throw "expression too long".toList
  | steps + 1 => do
    let first ← conjunction steps
    match (← peek?).map String.ofList with
    | some "-o" | some "-or" =>
      skip
      if (← peek?).isNone then throw "expected an expression after '-o'".toList
      return either first (← expression steps)
    | _ => return first

def conjunction : (steps : Nat) → Reader FileTest
  | 0 => throw "expression too long".toList
  | steps + 1 => do
    let first ← factor steps
    match (← peek?).map String.ofList with
    | none | some ")" | some "-o" | some "-or" => return first
    | some "-a" | some "-and" => skip; return both first (← conjunction steps)
    | _ => return both first (← conjunction steps)

def factor : (steps : Nat) → Reader FileTest
  | 0 => throw "expression too long".toList
  | steps + 1 => do
    let some option ← peek? | throw "expected an expression".toList
    skip
    match String.ofList option with
    | "!" | "-not" =>
      if (← peek?).isNone then throw ("expected an expression after ".toList ++ quoted option)
      return not (← factor steps)
    | "(" =>
      let inner ← expression steps
      if (← peek?) != some [')'] then
        throw ("invalid expression; I was expecting to find a ')' somewhere " ++
          "but did not see one.").toList
      skip
      return inner
    | "-o" | "-or" | "-a" | "-and" =>
      throw ("invalid expression; you have used a binary operator '".toList ++ option ++
        "' with nothing before it.".toList)
    | _ => primary option

end

/-- Reads an expression; the names of what is found are shown if nothing else is done. -/
def parse (args : List Octets) : Except Octets (FileTest × Limits) := do
  if args.isEmpty then return (print ['\n'], {})
  let (test, rest, limits) ← (expression (3 * args.length + 3)).run (args, {})
  if !rest.isEmpty then throw "you have too many ')'".toList
  return (if test.acts then test else both test (print ['\n']), limits)

/-! ## The walk -/

structure Walk where
  pruned : Bool := false
  stopped : Bool := false
  fine : Bool := true
  gathered : List (List Octets × List Octets) := []

structure Entry where
  path : Octets
  place : Place
  node : Node

def start (spawn : Spawn) (command : List Octets) : StateT Walk Act Bool := do
  match ← spawn none (command.headD []) (command.drop 1) with
  | .ok status => return status == .success
  | .error e =>
    complain "find" (quoted (command.headD []) ++ ": ".toList ++ reason e)
    return false

def holds (spawn : Spawn) (e : Entry) : FileTest → StateT Walk Act Bool
  | always answer => return answer
  | name p => return p.fits (lastName e.path)
  | foldedName p => return p.fits ((lastName e.path).map (·.toLower))
  | path p => return p.fits e.path
  | kind letters =>
    return match e.node with
      | .dir _ => letters.contains 'd'
      | .file .. => letters.contains 'f'
  | empty => do
    match e.node with
    | .dir _ => return ((← Act.fileSystem).names e.place).isEmpty
    | .file _ content => return content.isEmpty
  | size order count unit =>
    return some (compare ((nodeSize e.node + unit - 1) / unit) count) == order
  | print ending => do
    Act.print (e.path ++ ending)
    return true
  | run command => start spawn (command.map fun arg => replaceText "{}".toList e.path (arg.length + 1) arg)
  | gather command => do
    modify fun w =>
      if w.gathered.any (·.1 == command) then
        { w with gathered := w.gathered.map fun g =>
            if g.1 == command then (g.1, g.2 ++ [e.path]) else g }
      else { w with gathered := w.gathered ++ [(command, [e.path])] }
    return true
  | delete => do
    let refuse (text : String) : StateT Walk Act Bool := do
      complain "find" ("cannot delete ".toList ++ quoted e.path ++ ": ".toList ++ text.toList)
      modify ({ · with fine := false })
      return false
    let fs ← (Act.fileSystem : Act FileSystem)
    if e.node.isDir then
      if lastName e.path == ['.'] then return true
      if !fs.isSealed e.place && !(fs.names e.place).isEmpty then
        return ← refuse "Directory not empty"
    if fs.isSealed e.place then return ← refuse "Permission denied"
    modifyThe Machine fun m => { m with files := m.files.erase e.place }
    return true
  | prune => do
    modify ({ · with pruned := true })
    return true
  | quit => do
    modify ({ · with stopped := true })
    return true
  | not t => return !(← holds spawn e t)
  | both a b => do
    if ← holds spawn e a then
      if (← get).stopped then return false else holds spawn e b
    else return false
  | either a b => do
    if ← holds spawn e a then return true
    else if (← get).stopped then return false else holds spawn e b

/-- Walks through what stands at a place and below it; `depth` bounds how far. -/
def visit (spawn : Spawn) (limits : Limits) (test : FileTest) :
    (depth level : Nat) → Entry → StateT Walk Act Unit
  | 0, _, _ => return
  | depth + 1, level, e => do
    if (← get).stopped then return
    modify ({ · with pruned := false })
    let depthFirst := limits.depthFirst || test.deletes
    let own : StateT Walk Act Unit := do
      if limits.least ≤ level && !(← get).stopped then let _ ← holds spawn e test
    if !depthFirst then own
    let goesOn := (limits.most.map fun most => decide (level < most)).getD true
    if goesOn && e.node.isDir && (depthFirst || !(← get).pruned) then
      let fs ← (Act.fileSystem : Act FileSystem)
      ((fs.names e.place).mergeSort (· ≤ ·)).forM fun below => do
        let place := e.place ++ [below]
        let path := if e.path.getLast? == some '/' then e.path else e.path ++ ['/']
        match fs.node? place with
        | some node => visit spawn limits test depth (level + 1) ⟨path ++ Octets.ofText below, place, node⟩
        | none => return
    if depthFirst then own

end FileTest

def find (spawn : Spawn) : Program := fun args => do
  let isPath (arg : Octets) : Bool :=
    match arg with
    | '-' :: _ :: _ | ['('] | [')'] | ['!'] => false
    | _ => true
  let args := if args.head? == some "--".toList then args.drop 1 else args
  let places := args.takeWhile isPath
  match FileTest.parse (args.drop places.length) with
  | .error text =>
    complain "find" text
    return .exited 1
  | .ok (test, limits) =>
    let step (w : FileTest.Walk) (path : Octets) : Act FileTest.Walk := do
      match (← Act.fileSystem).status (pathOf path) with
      | .error e =>
        complain "find" (quoted path ++ ": ".toList ++ reason e)
        return { w with fine := false }
      | .ok (place, node) => do
        let (_, w) ← (FileTest.visit spawn limits test maxDepth 0 ⟨path, place, node⟩).run w
        return w
    let w ← (if places.isEmpty then [['.']] else places).foldlM step {}
    let (fine, w) ← (w.gathered.foldlM
      (fun fine (command, paths) => return (← FileTest.start spawn (command ++ paths)) && fine) true).run w
    return .exited (if fine && w.fine then 0 else 1)

def which : Program := withOptions "which" { plain := "as" } 2 fun a => do
  let m ← get
  let searchPath := (m.environment.lookup "PATH".toList).getD []
  let isProgram (path : Octets) : Bool :=
    match m.files.status (pathOf path) with
    | .ok (_, .file mode _) => mode &&& 0o111 != 0
    | _ => false
  let found := a.operands.map fun name =>
    if name.contains '/' then [name].filter isProgram
    else
      let paths := (searchPath.splitOn ':').map fun dir => (if dir.isEmpty then ['.'] else dir) ++ '/' :: name
      let paths := paths.filter isProgram
      if a.has 'a' then paths else paths.take 1
  if !a.has 's' then found.flatten.forM Act.printLine
  return .exited (if found.all (!·.isEmpty) && !found.isEmpty then 0 else 1)

def printenv : Program := withOptions "printenv" { plain := "0", strict := true } 2 fun a => do
  let environment := (← get).environment
  let ending : Octets := if a.has '0' then ['\x00'] else ['\n']
  if a.operands.isEmpty then
    environment.forM fun (name, value) => Act.print (name ++ '=' :: value ++ ending)
    return .success
  let values := a.operands.filterMap fun name => environment.lookup name
  values.forM fun value => Act.print (value ++ ending)
  return .exited (if values.length == a.operands.length then 0 else 1)

end Stencil.Shell.Program
