import Stencil.Shell.Program.Arguments

/-!
# Order

Programs that order lines and join equal ones.
-/

namespace Stencil.Shell.Program

/-- A part of a line by which lines are ordered: from a field and a character on, up to a field and
a character, and the letters that say how. -/
structure SortKey where
  first : Nat
  firstChar : Nat
  last : Option Nat
  lastChar : Nat
  letters : Octets

def keyPosition (s : Octets) : Nat × Nat × Octets :=
  let field := s.takeWhile Char.isDigit
  let rest := s.drop field.length
  match rest with
  | '.' :: more =>
    let char := more.takeWhile Char.isDigit
    ((Octets.nat? field).getD 0, (Octets.nat? char).getD 0, more.drop char.length)
  | letters => ((Octets.nat? field).getD 0, 0, letters)

def sortKey (s : Octets) : SortKey :=
  let (first, firstChar, letters) := keyPosition (s.takeWhile (· != ','))
  match s.dropWhile (· != ',') with
  | _ :: rest =>
    let (last, lastChar, more) := keyPosition rest
    { first, firstChar, last := some last, lastChar, letters := letters ++ more }
  | [] => { first, firstChar, last := none, lastChar := 0, letters }

def isBlankChar (c : Char) : Bool :=
  c == ' ' || c == '\t'

/-- The fields of a line: between separators, or with the blanks before them; at most `count`. -/
def sortFields (separator : Option Char) : (count : Nat) → Octets → List Octets
  | 0, _ => []
  | count + 1, s =>
    match separator with
    | some c =>
      let field := s.takeWhile (· != c)
      match s.drop field.length with
      | _ :: rest => field :: sortFields separator count rest
      | [] => [field]
    | none =>
      if s.isEmpty then []
      else
        let blanks := s.takeWhile isBlankChar
        let word := (s.drop blanks.length).takeWhile (!isBlankChar ·)
        let field := blanks ++ word
        field :: sortFields separator count (s.drop field.length)

def keyText (separator : Option Char) (k : SortKey) (line : Octets) : Octets :=
  let fields := sortFields separator (line.length + 1) line
  let joint : Octets := match separator with
    | some c => [c]
    | none => []
  let skip (s : Octets) : Octets :=
    if k.letters.contains 'b' then s.dropWhile isBlankChar else s
  let picked := match k.last with
    | none => fields.drop (k.first - 1)
    | some last => (fields.take last).drop (k.first - 1)
  let picked := match picked with
    | first :: others => (skip first).drop (k.firstChar - 1) :: others
    | [] => []
  let picked := match k.last, picked.reverse with
    | some _, l :: others =>
      if k.lastChar == 0 then picked
      else
        let before := if others.isEmpty then k.firstChar - 1 else 0
        ((l.take (k.lastChar - before)) :: others).reverse
    | _, _ => picked
  List.intercalate joint picked

/-- A number that a text begins with, in units that are small enough to compare. -/
def sortNumber (s : Octets) : Int × Octets :=
  let s := s.dropWhile isBlankChar
  let (negative, s) := match s with
    | '-' :: s => (true, s)
    | s => (false, s)
  let whole := s.takeWhile Char.isDigit
  let fraction := match s.drop whole.length with
    | '.' :: rest => (rest.takeWhile Char.isDigit).take 18
    | _ => []
  let digits := whole ++ fraction ++ List.replicate (18 - fraction.length) '0'
  let n : Int := (Octets.nat? digits).getD 0
  let unit := match (s.drop whole.length).dropWhile fun c => c == '.' || c.isDigit with
    | c :: _ => [c]
    | [] => []
  (if negative then -n else n, unit)

/-- The number of the month that a text begins with, or 0. -/
def monthNumber (s : Octets) : Nat :=
  let months := ["JAN", "FEB", "MAR", "APR", "MAY", "JUN", "JUL", "AUG", "SEP", "OCT", "NOV", "DEC"]
  let name := String.ofList (((s.dropWhile isBlankChar).take 3).map Char.toUpper)
  match months.findIdx? (· == name) with
  | some i => i + 1
  | none => 0

def sortOrder (letters : Octets) (s t : Octets) : Ordering :=
  let prepare (s : Octets) : Octets :=
    let s := if letters.contains 'b' then s.dropWhile isBlankChar else s
    let s := if letters.contains 'd' then s.filter fun c => c.isAlphanum || isBlankChar c else s
    if letters.contains 'f' then s.map Char.toUpper else s
  let order :=
    if letters.contains 'n' || letters.contains 'g' then compare (sortNumber s).1 (sortNumber t).1
    else if letters.contains 'M' then compare (monthNumber s) (monthNumber t)
    else if letters.contains 'h' then
      let size (s : Octets) : Int × Int :=
        let (n, unit) := sortNumber s
        let rank : Nat := match unit with
          | ['K'] | ['k'] => 1
          | ['M'] => 2
          | ['G'] => 3
          | ['T'] => 4
          | _ => 0
        ((if n < 0 then -(rank : Int) else rank), n)
      (compare (size s).1 (size t).1).then (compare (size s).2 (size t).2)
    else
      let (s, t) := (prepare s, prepare t)
      if s == t then .eq else if Octets.le s t then .lt else .gt
  if letters.contains 'r' then order.swap else order

def sort : Program := withOptions "sort"
    { plain := "rnufbdsghVcCmzM", valued := "ktoS",
      long := [("reverse", 'r'), ("numeric-sort", 'n'), ("unique", 'u'), ("ignore-case", 'f'),
        ("key", 'k'), ("field-separator", 't'), ("output", 'o'), ("stable", 's')] } 2 fun a => do
  let (texts, fine) ← readAll "sort" a.operands fun file e =>
    "cannot read: ".toList ++ plainly file e
  if !fine then return .exited 2
  let lines := texts.flatMap Octets.lines
  let separator := (a.value? 't').bind fun s =>
    if s == ['\\', '0'] then some '\x00' else s.head?
  let general := (a.options.map (·.1)).filter ("rnfbdghM".contains ·)
  let keys := (a.values 'k').map sortKey
  let keys := keys.map fun k => if k.letters.isEmpty then { k with letters := general } else k
  let byKeys (s t : Octets) : Ordering :=
    if keys.isEmpty then sortOrder general s t
    else keys.foldl (fun o k =>
      o.then (sortOrder k.letters (keyText separator k s) (keyText separator k t))) .eq
  let lastResort (s t : Octets) : Ordering :=
    if a.has 's' || a.has 'u' then .eq
    else
      let o := if s == t then Ordering.eq else if Octets.le s t then .lt else .gt
      if general.contains 'r' then o.swap else o
  let order (s t : Octets) : Ordering := (byKeys s t).then (lastResort s t)
  match (a.values 'k').find? fun k => (sortKey k).first == 0 with
  | some k =>
    complain "sort" ("field number is zero: invalid field specification ".toList ++ quoted k)
    return .exited 2
  | none => pure ()
  if a.has 'c' || a.has 'C' then
    let rec sorted (number : Nat) : List Octets → Option (Nat × Octets)
      | s :: t :: rest =>
        let bad := order s t == .gt || (a.has 'u' && byKeys s t == .eq)
        if bad then some (number + 1, t) else sorted (number + 1) (t :: rest)
      | _ => none
    match sorted 1 lines with
    | none => return .success
    | some (number, line) =>
      let file := a.operands.headD ['-']
      if !a.has 'C' then complain "sort" (file ++ [':'] ++ Octets.ofNat number ++ ": disorder: ".toList ++ line)
      return .exited 1
  let inOrder (s t : Octets) : Bool := order s t != .gt
  let result :=
    if a.has 'm' then (texts.map Octets.lines).foldl (fun acc ls => List.merge acc ls inOrder) []
    else lines.mergeSort inOrder
  let result := if a.has 'u' then
      result.foldr (fun s acc =>
        match acc with
        | t :: rest => if byKeys s t == .eq then s :: rest else s :: acc
        | [] => [s]) []
    else result
  let text := result.flatMap (· ++ ['\n'])
  match a.value? 'o' with
  | some file =>
    match ← Act.storeFile file text with
    | none => return .success
    | some e =>
      complain "sort" ("open failed: ".toList ++ plainly file e)
      return .exited 2
  | none =>
    Act.print text
    return .success

def uniq : Program := withOptions "uniq" { plain := "cdui", valued := "fsw" } 1 fun a => do
  match a.operands with
  | file :: _ =>
    let text ← if file == ['-'] then Except.ok <$> Act.takeInput else Act.readFile file
    match text with
    | .error e =>
      complain "uniq" (plainly file e)
      return .exited 1
    | .ok text => go a text
  | [] => go a (← Act.takeInput)
where
  go (a : Arguments) (text : Octets) : Act Status := do
    let skipFields := ((a.value? 'f').bind Octets.nat?).getD 0
    let skipChars := ((a.value? 's').bind Octets.nat?).getD 0
    let rec dropFields : Nat → Octets → Octets
      | 0, s => s
      | n + 1, s => dropFields n ((s.dropWhile isBlankChar).dropWhile (!isBlankChar ·))
    let key (s : Octets) : Octets :=
      let s := (dropFields skipFields s).drop skipChars
      let s := match (a.value? 'w').bind Octets.nat? with
        | some n => s.take n
        | none => s
      if a.has 'i' then s.map Char.toLower else s
    let groups := (Octets.lines text).foldr (fun s (acc : List (Octets × Nat)) =>
      match acc with
      | (t, n) :: rest => if key s == key t then (s, n + 1) :: rest else (s, 1) :: acc
      | [] => [(s, 1)]) []
    let shown := groups.filter fun (_, n) =>
      (!a.has 'd' || n > 1) && (!a.has 'u' || n == 1)
    let count (n : Nat) : Octets :=
      let ds := Octets.ofNat n
      List.replicate (7 - ds.length) ' ' ++ ds ++ [' ']
    let out := shown.flatMap fun (s, n) => (if a.has 'c' then count n else []) ++ s ++ ['\n']
    match a.operands with
    | [_, target] =>
      match ← Act.storeFile target out with
      | none => return .success
      | some e =>
        complain "uniq" (plainly target e)
        return .exited 1
    | _ =>
      Act.print out
      return .success

end Stencil.Shell.Program
