import Stencil.Shell.Program.Lines
import Stencil.Shell.Regex

/-!
# Finding lines

Prints the lines of its operands in which a regular expression fits.
-/

namespace Stencil.Shell.Program.Grep

def literal (s : Octets) : Regex :=
  s.foldr (fun c r => .sequence (.char c) r) .empty

/-- A pattern in which `\d` and `\D` stand for digits and other characters. -/
def withDigits : Octets → Octets
  | '\\' :: 'd' :: cs => "[0-9]".toList ++ withDigits cs
  | '\\' :: 'D' :: cs => "[^0-9]".toList ++ withDigits cs
  | '\\' :: c :: cs => '\\' :: c :: withDigits cs
  | c :: cs => c :: withDigits cs
  | [] => []

def expression (a : Arguments) (extended : Bool) (patterns : List Octets) :
    Except RegexFault Regex := do
  let rs ← patterns.mapM fun p =>
    if a.has 'F' then pure (literal p)
    else Regex.parse ⟨extended, true⟩ (if a.has 'P' then withDigits p else p)
  let wrap (r : Regex) : Regex :=
    if a.has 'x' then .sequence .lineStart (.sequence r .lineEnd)
    else if a.has 'w' then .sequence (.wordEdge false) (.sequence r (.wordEdge false))
    else r
  pure <| match rs.map wrap with
    | [] => .sequence .lineEnd (.char '\n')
    | r :: others => others.foldl .choice r

structure Line where
  number : Nat
  /-- The number of bytes before it. -/
  offset : Nat
  text : Octets
  selected : Bool

/-- The lines that are shown: the selected ones and those near them. A gap stands where lines are
left out. -/
def withContext (before after : Nat) (lines : List Line) : List (Option Line) :=
  let isNear (n : Nat) : Bool :=
    lines.any fun l => l.selected && l.number ≤ n + before && n ≤ l.number + after
  let rec go (last : Nat) : List Line → List (Option Line)
    | [] => []
    | l :: rest =>
      if isNear l.number then
        (if last != 0 && last + 1 != l.number then [none] else []) ++ some l :: go l.number rest
      else go last rest
  go 0 lines

def search (a : Arguments) (r : Regex) (title : Option Octets) (text : Octets) : Octets × Nat :=
  let folding := a.has 'i' || a.has 'y'
  let ending := if a.has 'z' then '\x00' else '\n'
  let limit := (a.value? 'm').bind Octets.nat?
  let mark (acc : Nat × List Line) (line : Octets × Nat) : Nat × List Line :=
    let l : Line :=
      { number := line.2 + 1, offset := acc.1, text := line.1
        selected := (Regex.find? folding r line.1).isSome != a.has 'v' }
    (acc.1 + line.1.length + 1, l :: acc.2)
  let pieces := text.splitOn ending
  let pieces := if pieces.getLast? == some [] then pieces.dropLast else pieces
  let marked := (pieces.zipIdx.foldl mark (0, [])).2.reverse
  let lines := match limit with
    | none => marked
    | some n =>
      let step (acc : Nat × List Line) (l : Line) : Nat × List Line :=
        if acc.1 ≥ n then acc else (if l.selected then acc.1 + 1 else acc.1, l :: acc.2)
      (marked.foldl step (0, [])).2.reverse
  let count := lines.countP (·.selected)
  let number (c : Char) : Octets := match (a.value? c).bind Octets.nat? with
    | some n => Octets.ofNat n
    | none => []
  let context (c : Char) : Nat :=
    ((Octets.nat? (number c)).or (Octets.nat? (number 'C'))).getD 0
  let head (l : Line) (sign : Char) : Octets :=
    (match title with
      | some t => t ++ [sign]
      | none => []) ++
    (if a.has 'n' then Octets.ofNat l.number ++ [sign] else []) ++
    (if a.has 'b' then Octets.ofNat l.offset ++ [sign] else [])
  let title' := title.getD "(standard input)".toList
  let out :=
    if a.has 'q' then []
    else if a.has 'l' then if count > 0 then title' ++ ['\n'] else []
    else if a.has 'L' then if count == 0 then title' ++ ['\n'] else []
    else if a.has 'c' then
      (match title with
        | some t => t ++ [':']
        | none => []) ++ Octets.ofNat count ++ ['\n']
    else if a.has 'o' then
      if a.has 'v' then []
      else (lines.filter (·.selected)).flatMap fun l =>
        (Regex.splitAll folding r l.text).flatMap fun piece =>
          match piece with
          | .inr f => if f.text.isEmpty then [] else head l ':' ++ f.text ++ [ending]
          | .inl _ => []
    else
      let gaps := a.has 'A' || a.has 'B' || a.has 'C'
      let shown := withContext (context 'B') (context 'A') lines
      (if gaps then shown else shown.filter (·.isSome)).flatMap fun l =>
        match l with
        | some l => head l (if l.selected then ':' else '-') ++ l.text ++ [ending]
        | none => "--\n".toList
  (out, count)

def filesBelow (fs : FileSystem) (name : Octets) : List Octets :=
  let top := name.text
  let top := if top.endsWith "/" then (top.dropEnd 1).toString else top
  (fs.listing top).filterMap fun (path, node) =>
    if node.isDir then none else some (Octets.ofText path)

/-- Finds lines; `extended` tells which notation patterns have. -/
def run (name : String) (extended fixed : Bool) : Program := withOptions name
    { usage := "Usage: " ++ name ++ " [OPTION]... PATTERNS [FILE]..."
      plain := "vicnlLqoEFGwxshHrRyaPbTIUz", valued := "efABCm",
      long := [("invert-match", 'v'), ("ignore-case", 'i'), ("count", 'c'), ("line-number", 'n'),
        ("quiet", 'q'), ("silent", 'q'), ("only-matching", 'o'), ("extended-regexp", 'E'),
        ("fixed-strings", 'F'), ("word-regexp", 'w'), ("line-regexp", 'x'), ("regexp", 'e'),
        ("files-with-matches", 'l'), ("no-messages", 's'), ("recursive", 'r'),
        ("color", 'a'), ("max-count", 'm')] } 2 fun a => do
  let a := if fixed then { a with options := ('F', []) :: a.options } else a
  let given := a.values 'e'
  let fromFiles ← (a.values 'f').mapM fun file => do
    match ← if file == ['-'] then Except.ok <$> Act.takeInput else Act.readFile file with
    | .ok text => return (some (Octets.lines text))
    | .error e =>
      complain name (plainly file e)
      return none
  if fromFiles.contains none then return .exited 2
  let fromFiles := fromFiles.filterMap id
  let (patterns, operands) : List Octets × List Octets :=
    if a.has 'e' || a.has 'f' then (given.flatMap (·.splitOn '\n') ++ fromFiles.flatten, a.operands)
    else match a.operands with
      | p :: rest => (p.splitOn '\n', rest)
      | [] => ([], [])
  if a.operands.isEmpty && !a.has 'e' && !a.has 'f' then
    Act.complain ("Usage: " ++ name ++ " [OPTION]... PATTERNS [FILE]...").toList
    Act.complain ("Try '" ++ name ++ " --help' for more information.").toList
    return .exited 2
  match expression a (extended || a.has 'E' || a.has 'P') patterns with
  | .error e =>
    complain name e.message.toList
    return .exited 2
  | .ok r =>
    let recursive := a.has 'r' || a.has 'R'
    let fs ← Act.fileSystem
    let expand (file : Octets) : List Octets :=
      if recursive && fs.isDir (pathOf file) then filesBelow fs file else [file]
    let start := if recursive && operands.isEmpty then [['.']] else operands
    let files := start.flatMap expand
    let titled := (files.length > 1 || recursive || a.has 'H') && !a.has 'h'
    let found ← readOperands files
    let step (acc : Bool × Bool) (f : Octets × Except IoError Octets) : Act (Bool × Bool) := do
      match f.2 with
      | .error e =>
        if !a.has 's' then complain name (plainly f.1 e)
        return (acc.1, true)
      | .ok text =>
        let title := if f.1 == ['-'] then "(standard input)".toList else f.1
        let isNamed := titled || ((a.has 'l' || a.has 'L') && f.1 != ['-'])
        let (out, count) := search a r (if isNamed then some title else none) text
        Act.print out
        return (acc.1 || count > 0, acc.2)
    let (any, failed) ← found.foldlM step (false, false)
    return .exited (if failed && !(a.has 'q' && any) then 2 else if any then 0 else 1)

end Stencil.Shell.Program.Grep
