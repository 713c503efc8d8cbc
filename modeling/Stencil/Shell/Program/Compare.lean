import Stencil.Shell.Program.Lines

/-!
# Comparing files

Programs that tell where two files differ and which lines they share.
-/

namespace Stencil.Shell.Program

def cmp : Program := withOptions "cmp" { plain := "slb" } 2 fun a => do
  let (left, right) := match a.operands with
    | [l] => (l, ['-'])
    | l :: r :: _ => (l, r)
    | [] => (['-'], ['-'])
  match ← readOperands [left, right] with
  | [(_, .ok s), (_, .ok t)] =>
    if s == t then return .success
    let same := ((s.zip t).takeWhile fun (c, d) => c == d).length
    if !a.has 's' then
      if same < s.length && same < t.length then
        let unit := if a.has 'b' then "byte " else "char "
        Act.printLine (left ++ ' ' :: right ++ (" differ: " ++ unit).toList ++ Octets.ofNat (same + 1) ++
          ", line ".toList ++ Octets.ofNat ((s.take same).count '\n' + 1))
      else
        let (short, kept) := if s.length < t.length then (left, s) else (right, t)
        if kept.isEmpty then
          complain "cmp" ("EOF on ".toList ++ short ++ " which is empty".toList)
        else
          let ends := kept.count '\n'
          let place := if kept.getLast? == some '\n' then ", line " else ", in line "
          let line := if kept.getLast? == some '\n' then ends else ends + 1
          complain "cmp" ("EOF on ".toList ++ short ++ " after byte ".toList ++
            Octets.ofNat kept.length ++ place.toList ++ Octets.ofNat line)
    return .exited 1
  | found =>
    found.forM fun (name, content) => do
      match content with
      | .error e => if !a.has 's' then complain "cmp" (plainly name e)
      | .ok _ => pure ()
    return .exited 2

/-! ## Changes -/

inductive Edit where
  | keep
  | delete
  | insert

/-- The lengths of the longest common parts of a list of lines and the ends of another one, the
whole list first. `below` has those for the first list without its first line. -/
def commonLengths (line : Octets) (others : List Octets) (below : List Nat) : List Nat :=
  match others, below with
  | [], _ => [0]
  | t :: ts, skipBoth :: rest =>
    let right := commonLengths line ts rest
    let here := if line == t then rest.headD 0 + 1 else max skipBoth (right.headD 0)
    here :: right
  | _ :: _, [] => [0]

/-- The tables of common lengths for all ends of the first list. -/
def commonTable (others : List Octets) : List Octets → List (List Nat)
  | [] => [List.replicate (others.length + 1) 0]
  | s :: ss =>
    let below := commonTable others ss
    commonLengths s others (below.headD []) :: below

def edits : List Octets → List Octets → List (List Nat) → List Edit
  | [], ts, _ => ts.map fun _ => .insert
  | ss, [], _ => ss.map fun _ => .delete
  | s :: ss, t :: ts, table =>
    if s == t then .keep :: edits ss ts (table.tail.map List.tail)
    else
      let rows := table.tail
      let deleting := (rows.headD []).headD 0
      let inserting := ((table.headD []).tail).headD 0
      if deleting ≥ inserting then .delete :: edits ss (t :: ts) rows
      else .insert :: edits (s :: ss) ts (table.map List.tail)
termination_by ss ts => ss.length + ts.length

/-- A place where lines have changed: how many lines stand before it on both sides, and the lines
themselves. -/
structure Hunk where
  leftStart : Nat
  rightStart : Nat
  removed : List Octets
  added : List Octets

def hunks (i j : Nat) (open? : Option Hunk) :
    List Edit → List Octets → List Octets → List Hunk
  | [], _, _ => open?.toList
  | .keep :: es, ss, ts => open?.toList ++ hunks (i + 1) (j + 1) none es (ss.drop 1) (ts.drop 1)
  | .delete :: es, ss, ts =>
    let h := open?.getD ⟨i, j, [], []⟩
    hunks (i + 1) j (some { h with removed := h.removed ++ ss.take 1 }) es (ss.drop 1) ts
  | .insert :: es, ss, ts =>
    let h := open?.getD ⟨i, j, [], []⟩
    hunks i (j + 1) (some { h with added := h.added ++ ts.take 1 }) es ss (ts.drop 1)

namespace Hunk

def span (start count : Nat) : Octets :=
  if count ≤ 1 then Octets.ofNat (start + count)
  else Octets.ofNat (start + 1) ++ ',' :: Octets.ofNat (start + count)

def text (h : Hunk) : Octets :=
  let letter := if h.removed.isEmpty then 'a' else if h.added.isEmpty then 'd' else 'c'
  let marked (sign : Char) (lines : List Octets) : Octets :=
    lines.flatMap fun l =>
      sign :: ' ' :: l ++
        (if l.getLast? == some '\n' then [] else "\n\\ No newline at end of file\n".toList)
  span h.leftStart h.removed.length ++ letter :: span h.rightStart h.added.length ++ ['\n'] ++
    marked '<' h.removed ++ (if letter == 'c' then "---\n".toList else []) ++ marked '>' h.added

end Hunk

def diff : Program := withOptions "diff"
    { plain := "qsbwiB", long := [("brief", 'q'), ("report-identical-files", 's')] } 2 fun a => do
  match a.operands with
  | [left, right] =>
    let squeeze (s : Octets) : Octets :=
      let s := if a.has 'i' then s.map Char.toLower else s
      if a.has 'w' then s.filter fun c => c != ' ' && c != '\t' else s
    match ← readOperands [left, right] with
    | [(_, .ok s), (_, .ok t)] =>
      let (ss, ts) := (fullLines s, fullLines t)
      let (ls, rs) := (ss.map squeeze, ts.map squeeze)
      if ls == rs then
        if a.has 's' then
          Act.printLine ("Files ".toList ++ left ++ " and ".toList ++ right ++ " are identical".toList)
        return .success
      if a.has 'q' then
        Act.printLine ("Files ".toList ++ left ++ " and ".toList ++ right ++ " differ".toList)
      else
        let found := hunks 0 0 none (edits ls rs (commonTable rs ls)) ss ts
        Act.print (found.flatMap Hunk.text)
      return .exited 1
    | found =>
      found.forM fun (name, content) => do
        match content with
        | .error e => complain "diff" (plainly name e)
        | .ok _ => pure ()
      return .exited 2
  | operands =>
    complain "diff" ("missing operand after ".toList ++ quoted (operands.getLastD "diff".toList))
    complain "diff" "Try 'diff --help' for more information.".toList
    return .exited 2

/-- The lines of two ordered lists, each with the columns in which it stands. -/
def merged : List Octets → List Octets → List (Nat × Octets)
  | [], ts => ts.map (2, ·)
  | ss, [] => ss.map (1, ·)
  | s :: ss, t :: ts =>
    if s == t then (3, s) :: merged ss ts
    else if Octets.le s t then (1, s) :: merged ss (t :: ts)
    else (2, t) :: merged (s :: ss) ts
termination_by ss ts => ss.length + ts.length

def comm : Program := withOptions "comm" { plain := "123i" } 1 fun a => do
  match a.operands with
  | [left, right] =>
    match ← readOperands [left, right] with
    | [(_, .ok s), (_, .ok t)] =>
      let tab (hidden : Char) : Octets := if a.has hidden then [] else ['\t']
      Act.print ((merged (Octets.lines s) (Octets.lines t)).flatMap fun (column, line) =>
        if column == 1 then if a.has '1' then [] else line ++ ['\n']
        else if column == 2 then if a.has '2' then [] else tab '1' ++ line ++ ['\n']
        else if a.has '3' then [] else tab '1' ++ tab '2' ++ line ++ ['\n'])
      return .success
    | found =>
      found.forM fun (name, content) => do
        match content with
        | .error e => complain "comm" (plainly name e)
        | .ok _ => pure ()
      return .exited 1
  | [one] =>
    complain "comm" ("missing operand after ".toList ++ quoted one)
    Act.complain "Try 'comm --help' for more information.".toList
    return .exited 1
  | [] =>
    complain "comm" "missing operand".toList
    Act.complain "Try 'comm --help' for more information.".toList
    return .exited 1
  | _ :: _ :: extra :: _ =>
    complain "comm" ("extra operand ".toList ++ quoted extra)
    Act.complain "Try 'comm --help' for more information.".toList
    return .exited 1

end Stencil.Shell.Program
