import Stencil.Shell.EditScript
import Stencil.Shell.Program.Lines

/-!
# Stream editor

Runs an edit script on each line of its operands.
-/

namespace Stencil.Shell.Program.Sed

open EditScript

structure Line where
  text : Octets
  /-- Whether a line end follows it. -/
  ended : Bool
  file : Octets

inductive Queued where
  | text (s : Octets)
  | file (name : Octets)

structure Editing where
  input : List Line
  number : Nat := 0
  file : Octets := ['-']
  space : Octets := []
  ended : Bool := true
  held : Octets := []
  /-- Whether a line end follows what is held. -/
  heldEnded : Bool := true
  queue : List Queued := []
  /-- Whether something has been replaced since the line was read. -/
  replaced : Bool := false
  /-- The commands whose range has begun, with the line that it ends at if that is known. -/
  ranges : List (Nat × Option Nat) := []
  /-- The width of lines in visible characters, or 0. -/
  width : Nat := 70
  /-- The character at the end of lines. -/
  ending : Char := '\n'
  lastSearch : Option (Bool × Regex) := none
  /-- What has been written, if it is kept for a file. -/
  kept : Option Octets := none
  /-- Whether the last line written has no end. -/
  open' : Bool := false

/-- A part of a run, which may end with a status. -/
abbrev Run := ExceptT Nat (StateT Editing Act)

def outside {α : Type} (a : Act α) : Run α :=
  ExceptT.lift (StateT.lift a)

def failSearch {α : Type} : Run α := do
  outside (complain "sed" "-e expression #1, char 0: no previous regular expression".toList)
  throw 1

inductive Outcome where
  /-- The next command. -/
  | goOn
  | jump (label : Octets)
  /-- The cycle ends; the line is printed if `printing` holds. -/
  | done (printing : Bool)
  /-- The script starts again with the rest of the line. -/
  | restart
  | skip
  | quit (code : Nat) (printing : Bool)

def output (s : Octets) : Run Unit := do
  match (← get).kept with
  | some _ => modify fun e => { e with kept := some ((e.kept.getD []) ++ s) }
  | none => outside (Act.print s)

def close : Run Unit := do
  if (← get).open' then
    output [(← get).ending]
    modify fun e => { e with open' := false }

def writeLine (text : Octets) (ended : Bool) : Run Unit := do
  close
  let ending := (← get).ending
  output (if ended then text ++ [ending] else text)
  modify fun e => { e with open' := !ended }

def printSpace : Run Unit := do
  let e ← get
  writeLine e.space e.ended

def writeTo (file : Octets) (text : Octets) (ended : Bool) : Run Unit := do
  if file == "/dev/stdout".toList then writeLine text ended
  else
    let ending := (← get).ending
    let line := if ended then text ++ [ending] else text
    let before ← outside (Act.readFile file)
    let _ ← outside (Act.storeFile file (before.toOption.getD [] ++ line))

def flush : Run Unit := do
  let queue := (← get).queue
  modify fun e => { e with queue := [] }
  queue.forM fun q => do
    close
    match q with
    | .text s => output s
    | .file name =>
      match ← outside (Act.readFile name) with
      | .ok content => output content
      | .error _ => pure ()

def takeLine? : Run (Option Line) := do
  match (← get).input with
  | l :: input =>
    modify fun e => { e with input, number := e.number + 1, file := l.file, ended := l.ended }
    return some l
  | [] => return none

/-- Looks for an expression; an empty one is the last one that was used. -/
def find (s : Search) : Run (Bool × Regex) := do
  let last := (← get).lastSearch
  let found := match s.regex with
    | some r => some (s.folding, r)
    | none => last
  match found with
  | none => failSearch
  | some used =>
    modify fun e => { e with lastSearch := some used }
    return used

def holdsAt (a : Address) : Run Bool := do
  let e ← get
  match a with
  | .line n => return e.number == n
  | .every first step => return e.number ≥ first && (e.number - first) % step == 0
  | .last => return e.input.isEmpty
  | .search s =>
    let (folding, r) ← find s
    return (Regex.find? folding r (← get).space).isSome

def selected (i : Nat) (s : LineRange) : Run Bool := do
  let begin (a : Address) (last : RangeEnd) : Run Bool := do
    if !(← holdsAt a) then return false
    let n := (← get).number
    let start (last : Option Nat) : Run Unit :=
      modify fun e => { e with ranges := (i, last) :: e.ranges.filter (·.1 != i) }
    match last with
    | .address (.line m) => if m > n then start (some m)
    | .address _ => start none
    | .later count => if count > 0 then start (some (n + count))
    | .multiple m => if m > 0 && n % m != 0 then start (some ((n / m + 1) * m))
    return true
  let finish : Run Unit :=
    modify fun e => { e with ranges := e.ranges.filter (·.1 != i) }
  let inRange (a : Address) (last : RangeEnd) : Run Bool := do
    let e ← get
    match e.ranges.lookup i with
    | none => begin a last
    | some (some m) =>
      if e.number ≥ m then finish
      if e.number > m then begin a last else return true
    | some none =>
      match last with
      | .address a => if ← holdsAt a then finish
      | _ => pure ()
      return true
  let holds ← match s.first, s.last with
    | none, _ => pure true
    | some a, none => holdsAt a
    | some a, some last => inRange a last
  return holds != s.negated

/-! ## Replacing -/

/-- Applies changes of case to a text; what changes one character only comes first. -/
def recase (mode : CaseChange) (once : Option CaseChange) (s : Octets) : Octets :=
  let s := match mode with
    | .upper => s.map Char.toUpper
    | .lower => s.map Char.toLower
    | _ => s
  match once, s with
  | some .upperNext, c :: cs => c.toUpper :: cs
  | some .lowerNext, c :: cs => c.toLower :: cs
  | _, s => s

def replaced (parts : List Replacement) (f : Regex.Fit) : Octets :=
  let rec go (mode : CaseChange) (once : Option CaseChange) : List Replacement → Octets
    | [] => []
    | part :: rest =>
      let add (s : Octets) : Octets :=
        if s.isEmpty then go mode once rest else recase mode once s ++ go mode none rest
      match part with
      | .text c => add [c]
      | .group n => add (f.group n)
      | .change .upperNext => go mode (some .upperNext) rest
      | .change .lowerNext => go mode (some .lowerNext) rest
      | .change c => go c none rest
  go .none none parts

/-- Replaces fits from the one with a number on; `true` if there was one. -/
def replaceIn (s : Substitution) (folding : Bool) (r : Regex) (text : Octets) : Octets × Bool :=
  let step (acc : List Octets × Nat × Bool) (piece : Octets ⊕ Regex.Fit) : List Octets × Nat × Bool :=
    let (out, count, any) := acc
    match piece with
    | .inl t => (t :: out, count, any)
    | .inr f =>
      let count := count + 1
      if count == s.number || (count > s.number && s.global) then
        (replaced s.replacement f :: out, count, true)
      else (f.text :: out, count, any)
  let (out, _, any) := (Regex.splitAll folding r text).foldl step ([], 0, false)
  (out.reverse.flatten, any)

def substitute (s : Substitution) : Run Unit := do
  let (folding, r) ← find s.search
  let (text, any) := replaceIn s folding r (← get).space
  if any then
    modify fun e => { e with space := text, replaced := true }
    if s.print then printSpace
    match s.file with
    | some file => writeTo file text true
    | none => pure ()

/-! ## Running -/

def visible (width : Nat) (text : Octets) : Octets :=
  let octal (n : Nat) : Octets :=
    '\\' :: [n / 64, n / 8 % 8, n % 8].map fun d => Char.ofNat (d + '0'.toNat)
  let cell (c : Char) : Octets :=
    match c with
    | '\\' => ['\\', '\\']
    | '\x07' => ['\\', 'a']
    | '\x08' => ['\\', 'b']
    | '\x0c' => ['\\', 'f']
    | '\n' => ['\\', 'n']
    | '\r' => ['\\', 'r']
    | '\t' => ['\\', 't']
    | '\x0b' => ['\\', 'v']
    | c => if inClass "print" c then [c] else octal c.toNat
  let step (acc : Octets × Nat) (cell : Octets) : Octets × Nat :=
    if width > 1 && acc.2 + cell.length > width - 1 then (cell.reverse ++ '\n' :: '\\' :: acc.1, cell.length)
    else (cell.reverse ++ acc.1, acc.2 + cell.length)
  ((text.map cell).foldl step ([], 0)).1.reverse ++ ['$']

def perform (quiet : Bool) (i : Nat) (step : Step) : Run Outcome := do
  let e ← get
  let change (f : Editing → Editing) : Run Outcome := do
    modify f
    return .goOn
  let queue (q : Queued) : Run Outcome :=
    change fun e => { e with queue := e.queue ++ [q] }
  match step.verb with
  | .substitute s =>
    substitute s
    return .goOn
  | .transliterate pairs =>
    change fun e => { e with space := e.space.map fun c => (pairs.lookup c).getD c }
  | .append text => queue (.text text)
  | .insert text =>
    close
    output text
    return .goOn
  | .change text =>
    if step.lines.negated || step.lines.last.isNone || (e.ranges.lookup i).isNone then
      close
      output text
    return .done false
  | .delete => return .done false
  | .deleteFirst => return if e.space.contains e.ending then .restart else .done false
  | .print =>
    printSpace
    return .goOn
  | .printFirst =>
    writeLine (e.space.takeWhile (· != e.ending)) (e.ended || e.space.contains e.ending)
    return .goOn
  | .printNumber =>
    writeLine (Octets.ofNat e.number) true
    return .goOn
  | .printName =>
    writeLine e.file true
    return .goOn
  | .list width =>
    writeLine (visible (width.getD e.width) e.space) true
    return .goOn
  | .nothing => return .goOn
  | .next =>
    if e.input.isEmpty then return .quit 0 true
    if !quiet then printSpace
    flush
    match ← takeLine? with
    | some l => change fun e => { e with space := l.text }
    | none => return .goOn
  | .joinNext =>
    if e.input.isEmpty then return .quit 0 true
    flush
    match ← takeLine? with
    | some l => change fun e => { e with space := e.space ++ e.ending :: l.text }
    | none => return .goOn
  | .hold => change fun e => { e with held := e.space, heldEnded := e.ended }
  | .joinHold => change fun e => { e with held := e.held ++ e.ending :: e.space, heldEnded := e.ended }
  | .recall => change fun e => { e with space := e.held, ended := e.heldEnded }
  | .joinRecall => change fun e => { e with space := e.space ++ e.ending :: e.held, ended := e.heldEnded }
  | .exchange =>
    change fun e =>
      { e with space := e.held, ended := e.heldEnded, held := e.space, heldEnded := e.ended }
  | .clear => change fun e => { e with space := [] }
  | .quit code printing => return .quit code printing
  | .read file => queue (.file file)
  | .write file =>
    writeTo file e.space e.ended
    return .goOn
  | .label _ | .closeBlock | .openBlock => return .goOn
  | .branch label => return .jump label
  | .branchIf label =>
    modify fun e => { e with replaced := false }
    return if e.replaced then .jump label else .goOn
  | .branchUnless label =>
    modify fun e => { e with replaced := false }
    return if e.replaced then .goOn else .jump label

/-- The commands after the end of a block that has been opened `depth` times. -/
def afterBlock : (depth : Nat) → List (Nat × Step) → List (Nat × Step)
  | _, [] => []
  | depth, (_, s) :: rest =>
    match s.verb with
    | .openBlock => afterBlock (depth + 1) rest
    | .closeBlock => if depth ≤ 1 then rest else afterBlock (depth - 1) rest
    | _ => afterBlock depth rest

/-- The commands after a label; an empty label is the end of the script. -/
def afterLabel (script : List (Nat × Step)) (label : Octets) : List (Nat × Step) :=
  if label.isEmpty then []
  else
    (script.dropWhile fun (_, s) => match s.verb with
      | .label name => name != label
      | _ => true).drop 1

def commands (quiet : Bool) (script : List (Nat × Step)) :
    (fuel : Nat) → List (Nat × Step) → Run Outcome
  | 0, _ => return .done true
  | _, [] => return .done true
  | fuel + 1, (i, s) :: rest => do
    if !(← selected i s.lines) then
      match s.verb with
      | .openBlock => commands quiet script fuel (afterBlock 1 rest)
      | _ => commands quiet script fuel rest
    else
      match ← perform quiet i s with
      | .goOn => commands quiet script fuel rest
      | .jump label => commands quiet script fuel (afterLabel script label)
      | outcome => return outcome

def commandLimit : Nat := 10000000

/-- Runs the script on the lines that are left; `fuel` bounds their number. The status. -/
def cycles (quiet : Bool) (script : List (Nat × Step)) : (fuel : Nat) → (fresh : Bool) → Run Nat
  | 0, _ => return 0
  | fuel + 1, fresh => do
    if fresh then
      match ← takeLine? with
      | none => return 0
      | some l => modify fun e => { e with space := l.text, replaced := false }
    let outcome ← commands quiet script commandLimit script
    match outcome with
    | .quit code printing =>
      if printing && !quiet then printSpace
      flush
      return code
    | .restart =>
      flush
      modify fun e => { e with space := (e.space.dropWhile (· != e.ending)).drop 1 }
      cycles quiet script fuel false
    | .done printing =>
      if printing && !quiet then printSpace
      flush
      cycles quiet script fuel true
    | _ =>
      flush
      cycles quiet script fuel true

def linesOf (ending : Char) (file : Octets) (text : Octets) : List Line :=
  let rec go (line : Octets) : Octets → List Line
    | [] => if line.isEmpty then [] else [{ text := line.reverse, ended := false, file }]
    | c :: cs =>
      if c == ending then { text := line.reverse, ended := true, file } :: go [] cs
      else go (c :: line) cs
  go [] text

def written (script : List Step) : List Octets :=
  script.filterMap fun s => match s.verb with
    | .write file => some file
    | .substitute s => s.file
    | _ => none

def missingLabel? (script : List Step) : Option Octets :=
  let labels := script.filterMap fun s => match s.verb with
    | .label name => some name
    | _ => none
  script.findSome? fun s => match s.verb with
    | .branch l | .branchIf l | .branchUnless l =>
      if l.isEmpty || labels.contains l then none else some l
    | _ => none

structure Source where
  text : Octets
  file : Option Octets := none

/-- Where reading stopped: the part of the script with what messages say of it. -/
def place (sources : List Source) (left : Nat) (isBlock : Bool) : Octets :=
  let rec go (expression position : Nat) : List Source → Octets
    | [] => []
    | s :: rest =>
      let expression := if s.file.isSome then expression else expression + 1
      if position ≤ s.text.length || rest.isEmpty then
        match s.file with
        | some file =>
          let line := (s.text.take position).count '\n' + 1
          "file ".toList ++ file ++ " line ".toList ++ Octets.ofNat line
        | none =>
          "-e expression #".toList ++ Octets.ofNat expression ++ ", char ".toList ++
            Octets.ofNat (if isBlock then 0 else position)
      else go expression (position - s.text.length - 1) rest
  let total := sources.foldl (fun n s => n + s.text.length + 1) 0 - 1
  go 0 (total - left) sources

/-- The arguments without the script: it is the first operand if no option gives one. -/
def sourcesOf (a : Arguments) : Act (Except Octets (List Source × List Octets)) := do
  let step (acc : Except Octets (List Source)) (o : Char × Octets) : Act (Except Octets (List Source)) := do
    match acc, o with
    | .error e, _ => return .error e
    | .ok sources, ('e', text) => return .ok (sources ++ [{ text := text }])
    | .ok sources, ('f', file) =>
      match ← if file == ['-'] then Except.ok <$> Act.takeInput else Act.readFile file with
      | .ok text =>
        let text := if text.getLast? == some '\n' then text.dropLast else text
        return .ok (sources ++ [{ text, file := some file }])
      | .error e => return .error ("couldn't open file ".toList ++ plainly file e)
    | acc, _ => return acc
  match ← a.options.foldlM step (.ok []) with
  | .error e => return .error e
  | .ok sources =>
    if a.has 'e' || a.has 'f' then return .ok (sources, a.operands)
    match a.operands with
    | text :: operands => return .ok ([{ text }], operands)
    | [] => return .error []

structure Settings where
  script : List (Nat × Step)
  /-- Whether lines are printed only if the script asks for it. -/
  quiet : Bool
  width : Nat
  ending : Char

/-- The state in which a run begins. Commands with a range from before the first line are in it. -/
def Settings.start (o : Settings) (input : List Line) : Editing :=
  { input, width := o.width, ending := o.ending
    ranges := o.script.filterMap fun (i, s) =>
      match s.lines.first with
      | some (.line 0) => some (i, none)
      | _ => none }

def Settings.run (o : Settings) (start : Editing) : Act (Nat × Editing) := do
  let size := start.input.foldl (fun n l => n + l.text.length + 2) 0
  let (result, e) ← (cycles o.quiet o.script (2 * size + 2) true).run.run start
  match result with
  | .ok code => return (code, e)
  | .error code => return (code, { e with input := [] })

def inPlace (o : Settings) (backup : Octets) (files : List Octets) : Act Nat := do
  let step (status : Nat) (file : Octets) : Act Nat := do
    let fs ← Act.fileSystem
    match fs.status (pathOf file) with
    | .error e =>
      complain "sed" ("can't read ".toList ++ plainly file e)
      return max status 2
    | .ok (_, .dir _) =>
      complain "sed" ("couldn't edit ".toList ++ file ++ ": not a regular file".toList)
      return max status 4
    | .ok (_, .file _ content) =>
      let text := Octets.ofByteArray content
      if !backup.isEmpty then
        let _ ← Act.storeFile (file ++ backup) text
      let start := o.start (linesOf o.ending file text)
      let (code, e) ← o.run { start with kept := some [] }
      let rest := e.input.flatMap fun l => if l.ended then l.text ++ [o.ending] else l.text
      let kept := (e.kept.getD []) ++ (if e.open' && !rest.isEmpty then [o.ending] else []) ++ rest
      let _ ← Act.storeFile file kept
      return max status code
  files.foldlM step 0

/-- Runs a script on the operands, one after the other as one text or each on its own. -/
def joined (o : Settings) (separate : Bool) (files : List Octets) : Act Nat := do
  let found ← readOperands files
  let readable := found.takeWhile fun f => match f.2 with
    | .error .isDirectory => false
    | _ => true
  let step (acc : List (List Line) × Nat) (f : Octets × Except IoError Octets) :
      Act (List (List Line) × Nat) := do
    match f.2 with
    | .ok text => return (acc.1 ++ [linesOf o.ending f.1 text], acc.2)
    | .error e =>
      complain "sed" ("can't read ".toList ++ plainly f.1 e)
      return (acc.1, 2)
  let (inputs, status) ← readable.foldlM step ([], 0)
  let inputs := if separate then inputs else [inputs.flatten]
  -- a line without an end gets one if another one follows
  let count := inputs.flatten.length
  let run (acc : Nat × Nat × Bool) (input : List Line) : Act (Nat × Nat × Bool) := do
    let (code, before, stopped) := acc
    if stopped then return acc
    let input := input.zipIdx.map fun (l, i) =>
      if before + i + 1 < count then { l with ended := true } else l
    let (code', e) ← o.run (o.start input)
    return (max code code', before + input.length, !e.input.isEmpty || code' != 0)
  let (code, _, _) ← inputs.foldlM run (0, 0, false)
  match found.drop readable.length with
  | (name, _) :: _ =>
    complain "sed" ("read error on ".toList ++ plainly name .isDirectory)
    return 4
  | [] => return if code != 0 then code else status

def brokenStatus : Nat := 4

def run : Program := withOptions "sed"
    { usage := r"Usage: sed [OPTION]... {script-only-if-no-other-script} [input-file]..."
      plain := "nErsuz", valued := "efl", attached := "i",
      long := [("quiet", 'n'), ("silent", 'n'), ("expression", 'e'), ("file", 'f'),
        ("regexp-extended", 'E'), ("in-place", 'i'), ("separate", 's'), ("posix", 'u'),
        ("line-length", 'l'), ("unbuffered", 'u'), ("null-data", 'z')] } 1 fun a => do
  match ← sourcesOf a with
  | .error message =>
    if message.isEmpty then
      Act.complain
        r"Usage: sed [OPTION]... {script-only-if-no-other-script} [input-file]...".toList
      return .exited 1
    complain "sed" message
    return .exited brokenStatus
  | .ok (sources, operands) =>
    let text := List.intercalate ['\n'] (sources.map (·.text))
    let quietly := text.take 3 == ['#', 'n', '\n'] || text == ['#', 'n']
    match EditScript.parse (a.has 'E' || a.has 'r') text with
    | .error (left, fault) =>
      complain "sed" (place sources left (fault == .openBlock) ++ ": ".toList ++ fault.message.toList)
      return .exited 1
    | .ok script =>
      match missingLabel? script with
      | some label =>
        complain "sed" ("can't find label for jump to `".toList ++ label ++ ['\''])
        return .exited brokenStatus
      | none =>
        (written script).forM fun file => do
          let _ ← Act.storeFile file []
        let settings : Settings :=
          { script := script.zipIdx.map fun (s, i) => (i, s)
            quiet := a.has 'n' || quietly
            width := ((a.value? 'l').bind Octets.nat?).getD 70
            ending := if a.has 'z' then '\x00' else '\n' }
        let code ←
          if a.has 'i' then inPlace settings ((a.value? 'i').getD []) operands
          else joined settings (a.has 's') operands
        return .exited code

end Stencil.Shell.Program.Sed
