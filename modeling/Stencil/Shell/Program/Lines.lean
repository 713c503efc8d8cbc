import Stencil.Shell.Pattern
import Stencil.Shell.Program.Cut

/-!
# Programs on lines

Programs that copy, pick and count the lines of their input.
-/

namespace Stencil.Shell.Program

/-- A character in signs that can be seen; those with the highest bit too. -/
def visibleChar (tabs : Bool) (c : Char) : Octets :=
  let low (n : Nat) : Octets :=
    if n == 127 then ['^', '?'] else if n < 32 then ['^', Char.ofNat (n + 64)] else [Char.ofNat n]
  let n := c.toNat
  if c == '\n' || (c == '\t' && !tabs) then [c]
  else if n < 128 then low n
  else 'M' :: '-' :: low (n - 128)

/-- Whether the first of two lines is left out because both are empty. -/
def dropRepeatedBlanks : List Octets → List Octets
  | s :: t :: rest =>
    if s.isEmpty && t.isEmpty then dropRepeatedBlanks (t :: rest)
    else s :: dropRepeatedBlanks (t :: rest)
  | rest => rest

def decorated (a : Arguments) (text : Octets) : Octets :=
  let all := a.has 'A'
  let marks := all || a.has 'E' || a.has 'e'
  let visible := all || a.has 'v' || a.has 'e' || a.has 't'
  let tabs := all || a.has 'T' || a.has 't'
  let show' (c : Char) : Octets :=
    if visible then visibleChar tabs c else if tabs && c == '\t' then ['^', 'I'] else [c]
  let number (n : Nat) : Octets :=
    let ds := Octets.ofNat n
    List.replicate (6 - ds.length) ' ' ++ ds ++ ['\t']
  let ended := text.getLast? == some '\n'
  let lines := Octets.lines text
  let lines := if a.has 's' then dropRepeatedBlanks lines else lines
  let step (acc : Nat × List Octets) (line : Octets) : Nat × List Octets :=
    let shown := line.flatMap show'
    if a.has 'b' && line.isEmpty || !(a.has 'n' || a.has 'b') then (acc.1, shown :: acc.2)
    else (acc.1 + 1, (number acc.1 ++ shown) :: acc.2)
  let shown := (lines.foldl step (1, [])).2.reverse
  let joint := if marks then ['$', '\n'] else ['\n']
  List.intercalate joint shown ++ (if ended then joint else [])

def cat : Program := withOptions "cat"
    { plain := "nbsuveETAt",
      long := [("number", 'n'), ("number-nonblank", 'b'), ("squeeze-blank", 's'), ("show-all", 'A'),
        ("show-ends", 'E'), ("show-tabs", 'T'), ("show-nonprinting", 'v')] } 1 fun a => do
  let operands := if a.operands.isEmpty then [['-']] else a.operands
  let decorating := a.options.any fun o => o.1 != 'u'
  let step (acc : Bool × Octets) (name : Octets) : Act (Bool × Octets) := do
    match ← if name == ['-'] then Except.ok <$> Act.takeInput else Act.readFile name with
    | .ok text =>
      if decorating then return (acc.1, acc.2 ++ text)
      Act.print text
      return acc
    | .error e =>
      complain "cat" (plainly name e)
      return (false, acc.2)
  let (fine, text) ← operands.foldlM step (true, [])
  Act.print (decorated a text)
  return .exited (if fine then 0 else 1)

def tee : Program := withOptions "tee" { plain := "ai" } 1 fun a => do
  let text ← Act.takeInput
  Act.print text
  let step (fine : Bool) (name : Octets) : Act Bool := do
    let kept ← if a.has 'a' then do pure ((← Act.readFile name).toOption.getD []) else pure []
    match ← Act.storeFile name (kept ++ text) with
    | none => return fine
    | some e =>
      complain "tee" (plainly name e)
      return false
  return .exited (if ← a.operands.foldlM step true then 0 else 1)

def fullLines (s : Octets) : List Octets :=
  let rec go (line : Octets) : Octets → List Octets
    | [] => if line.isEmpty then [] else [line.reverse]
    | c :: cs => if c == '\n' then (c :: line).reverse :: go [] cs else go (c :: line) cs
  go [] s

def withCount (args : List Octets) : List Octets :=
  match args with
  | ('-' :: c :: cs) :: rest => if c.isDigit then ['-', 'n'] :: (c :: cs) :: rest else args
  | _ => args

def countOf? (s : Octets) : Option Nat :=
  match s.getLast? with
  | some 'k' | some 'K' => (Octets.nat? s.dropLast).map (· * 1024)
  | _ => Octets.nat? s

def selecting (name : String) (a : Arguments) (select : Octets → Octets) : Act Status := do
  let found ← readOperands a.operands
  let headings := (found.length > 1 || a.has 'v') && !a.has 'q'
  let step (acc : Bool × Bool) (f : Octets × Except IoError Octets) : Act (Bool × Bool) := do
    match f.2 with
    | .error e =>
      complain name ("cannot open ".toList ++ quoted f.1 ++ " for reading: ".toList ++ reason e)
      return (false, acc.2)
    | .ok text =>
      if headings then
        let title := if f.1 == ['-'] then "standard input".toList else f.1
        Act.print ((if acc.2 then [] else ['\n']) ++ "==> ".toList ++ title ++ " <==\n".toList)
      Act.print (select text)
      return (acc.1, false)
  let (fine, _) ← found.foldlM step (true, true)
  return .exited (if fine then 0 else 1)

def head : Program := fun args =>
  withOptions "head" { plain := "qv", valued := "nc", long := [("lines", 'n'), ("bytes", 'c')] } 1
    (fun a => do
      let lines := (a.value? 'n').getD "10".toList
      let count := (a.value? 'c').getD lines
      let (dropping, digits) := match count with
        | '-' :: ds => (true, ds)
        | '+' :: ds => (false, ds)
        | ds => (false, ds)
      match countOf? digits with
      | none =>
        let what := if a.has 'c' then "bytes" else "lines"
        complain "head" (("invalid number of " ++ what ++ ": ").toList ++ quoted count)
        return .exited 1
      | some n =>
        selecting "head" a fun text =>
          if a.has 'c' then if dropping then text.take (text.length - n) else text.take n
          else
            let ls := fullLines text
            ((if dropping then ls.take (ls.length - n) else ls.take n)).flatten)
    (withCount args)

def tail : Program := fun args =>
  withOptions "tail" { plain := "qvf", valued := "nc", long := [("lines", 'n'), ("bytes", 'c')] } 1
    (fun a => do
      let lines := (a.value? 'n').getD "10".toList
      let count := (a.value? 'c').getD lines
      let (dropping, digits) := match count with
        | '+' :: ds => (true, ds)
        | '-' :: ds => (false, ds)
        | ds => (false, ds)
      match countOf? digits with
      | none =>
        let what := if a.has 'c' then "bytes" else "lines"
        complain "tail" (("invalid number of " ++ what ++ ": ").toList ++ quoted count)
        return .exited 1
      | some n =>
        selecting "tail" a fun text =>
          if a.has 'c' then
            if dropping then text.drop (n - 1) else text.drop (text.length - n)
          else
            let ls := fullLines text
            ((if dropping then ls.drop (n - 1) else ls.drop (ls.length - n))).flatten)
    (match args with
      | ('+' :: ds) :: rest => ['-', 'n'] :: ('+' :: ds) :: rest
      | args => withCount args)

def opening (file : Octets) (e : IoError) : Octets :=
  "failed to open ".toList ++ quoted file ++ " for reading: ".toList ++ reason e

def tac : Program := withOptions "tac" { plain := "b" } 1 fun a => do
  let (texts, fine) ← readAll "tac" a.operands opening
  Act.print (texts.flatMap fun t => (fullLines t).reverse.flatten)
  return .exited (if fine then 0 else 1)

def rev : Program := withOptions "rev" { plain := "" } 1 fun a => do
  let (texts, fine) ← readAll "rev" a.operands fun file e =>
    "cannot open ".toList ++ file ++ ": ".toList ++ reason e
  Act.print (texts.flatMap fun t => (fullLines t).flatMap fun l =>
    if l.getLast? == some '\n' then l.dropLast.reverse ++ ['\n'] else l.reverse)
  return .exited (if fine then 0 else 1)

def isWordGap (c : Char) : Bool :=
  inClass "space" c

def wordCount (s : Octets) : Nat :=
  (s.foldl (fun (acc : Nat × Bool) c =>
    if isWordGap c then (acc.1, false)
    else (if acc.2 then acc.1 else acc.1 + 1, true)) (0, false)).1

def wc : Program := withOptions "wc" { plain := "lwcmL" } 1 fun a => do
  let found ← readOperands a.operands
  let all := a.options.isEmpty
  let counts (s : Octets) : List Nat :=
    (if all || a.has 'l' then [s.count '\n'] else []) ++
      (if all || a.has 'w' then [wordCount s] else []) ++
      (if a.has 'm' then [s.length] else []) ++
      (if all || a.has 'c' then [s.length] else []) ++
      (if a.has 'L' then [(Octets.lines s).foldl (fun n l => max n l.length) 0] else [])
  let columns := (counts []).length
  let total := found.foldl (fun n f => n + ((f.2.toOption.map List.length).getD 0)) 0
  let fromInput := a.operands.isEmpty || a.operands.contains ['-']
  let width :=
    if columns == 1 && found.length ≤ 1 then 1
    else if fromInput then 7 else (Octets.ofNat total).length
  let line (ns : List Nat) (name : Octets) : Octets :=
    let cells := ns.map fun n =>
      let ds := Octets.ofNat n
      List.replicate (width - ds.length) ' ' ++ ds
    List.intercalate [' '] cells ++ (if name.isEmpty then [] else ' ' :: name) ++ ['\n']
  let step (acc : Bool × List Nat) (f : Octets × Except IoError Octets) : Act (Bool × List Nat) := do
    match f.2 with
    | .error e =>
      complain "wc" (plainly f.1 e)
      return (false, acc.2)
    | .ok s =>
      Act.print (line (counts s) (if a.operands.isEmpty then [] else f.1))
      return (acc.1, (acc.2.zip (counts s)).map fun (m, n) => m + n)
  let (fine, sums) ← found.foldlM step (true, List.replicate columns 0)
  if found.length > 1 then Act.print (line sums "total".toList)
  return .exited (if fine then 0 else 1)

def nl : Program := withOptions "nl" { plain := "p", valued := "bwsvin" } 1 fun a => do
  let (texts, fine) ← readAll "nl" a.operands plainly
  let width := ((a.value? 'w').bind Octets.nat?).getD 6
  let start := ((a.value? 'v').bind Octets.nat?).getD 1
  let separator := (a.value? 's').getD ['\t']
  let every := a.value? 'b' == some ['a']
  let step (acc : Nat × List Octets) (line : Octets) : Nat × List Octets :=
    if line.isEmpty && !every then
      (acc.1, (List.replicate (width + separator.length) ' ') :: acc.2)
    else
      let ds := Octets.ofNat acc.1
      (acc.1 + 1, (List.replicate (width - ds.length) ' ' ++ ds ++ separator ++ line) :: acc.2)
  let lines := (texts.flatMap Octets.lines).foldl step (start, [])
  Act.print (lines.2.reverse.flatMap (· ++ ['\n']))
  return .exited (if fine then 0 else 1)

/-- The characters between columns; an empty escape stands for none. -/
def delimiters (s : Octets) : List Octets :=
  let rec go : (count : Nat) → Octets → List Octets
    | 0, _ => []
    | _, [] => []
    | count + 1, '\\' :: '0' :: cs => [] :: go count cs
    | count + 1, cs =>
      let (c, rest) := setChar cs
      [c] :: go count rest
  go s.length s

/-- Joins lines of several operands, or all lines of one. Operands that stand for the input share
its lines. -/
def paste : Program := withOptions "paste"
    { plain := "sz", valued := "d", long := [("serial", 's'), ("delimiters", 'd')] } 1 fun a => do
  let operands := if a.operands.isEmpty then [['-']] else a.operands
  let inputs := operands.countP (· == ['-'])
  let input ← if inputs > 0 then Octets.lines <$> Act.takeInput else pure []
  let step (acc : List (List Octets) × Nat × Bool) (name : Octets) :
      Act (List (List Octets) × Nat × Bool) := do
    let (columns, taken, fine) := acc
    if name == ['-'] then
      let own :=
        if a.has 's' then if taken == 0 then input else []
        else (input.zipIdx.filter fun (_, i) => i % inputs == taken).map (·.1)
      return (columns ++ [own], taken + 1, fine)
    match ← Act.readFile name with
    | .ok text => return (columns ++ [Octets.lines text], taken, fine)
    | .error e =>
      complain "paste" (plainly name e)
      return (columns, taken, false)
  let (columns, _, fine) ← operands.foldlM step ([], 0, true)
  if !fine && !a.has 's' then return .exited 1
  let joints := match a.value? 'd' with
    | some s => delimiters s
    | none => [['\t']]
  let join (cells : List Octets) : Octets :=
    let joint (i : Nat) : Octets :=
      match joints with
      | [] => []
      | ds => ds[i % ds.length]?.getD ['\t']
    cells.zipIdx.flatMap fun (cell, i) => (if i == 0 then [] else joint (i - 1)) ++ cell
  if a.has 's' then Act.print (columns.flatMap fun lines => join lines ++ ['\n'])
  else
    let count := columns.foldl (fun n ls => max n ls.length) 0
    Act.print ((List.range count).flatMap fun i =>
      join (columns.map fun ls => ls[i]?.getD []) ++ ['\n'])
  return .exited (if fine then 0 else 1)

def fold : Program := fun args =>
  withOptions "fold" { plain := "sb", valued := "w" } 1 (fun a => do
    let width := max 1 (((a.value? 'w').bind Octets.nat?).getD 80)
    let (texts, fine) ← readAll "fold" a.operands plainly
    let rec wrap : (count : Nat) → Octets → Octets
      | 0, s => s
      | count + 1, s =>
        if s.length ≤ width then s
        else
          let line := s.take width
          let kept := if a.has 's' then line.reverse.dropWhile (· != ' ') else []
          let n := if kept.isEmpty then width else kept.length
          s.take n ++ '\n' :: wrap count (s.drop n)
    Act.print (texts.flatMap fun t => (fullLines t).flatMap fun l =>
      if l.getLast? == some '\n' then wrap l.length l.dropLast ++ ['\n'] else wrap l.length l)
    return .exited (if fine then 0 else 1))
    (match args with
      | ('-' :: c :: cs) :: rest => if c.isDigit then ['-', 'w'] :: (c :: cs) :: rest else args
      | args => args)

end Stencil.Shell.Program
