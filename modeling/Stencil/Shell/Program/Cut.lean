import Stencil.Shell.Pattern
import Stencil.Shell.Program.Arguments

/-!
# Parts of lines

Programs that pick parts of lines and replace characters.
-/

namespace Stencil.Shell.Program

def ranges? (s : Octets) : Option (List (Nat × Option Nat)) :=
  (s.splitOn ',').mapM fun part =>
    match part.splitOn '-' with
    | [n] => (Octets.nat? n).bind fun n => if n == 0 then none else some (n, some n)
    | [low, high] =>
      if low.isEmpty && high.isEmpty then none
      else
        let l := if low.isEmpty then some 1 else Octets.nat? low
        l.bind fun l =>
          if high.isEmpty then some (l, none)
          else (Octets.nat? high).bind fun h => if h < l then none else some (l, some h)
    | _ => none

def isDecreasing (s : Octets) : Bool :=
  (s.splitOn ',').any fun part =>
    match (part.splitOn '-').map Octets.nat? with
    | [some l, some h] => h < l
    | _ => false

def isPicked (ranges : List (Nat × Option Nat)) (n : Nat) : Bool :=
  ranges.any fun (low, high) => low ≤ n && (high.map fun h => decide (n ≤ h)).getD true

def cut : Program := withOptions "cut"
    { plain := "sn", valued := "dfcb",
      long := [("delimiter", 'd'), ("fields", 'f'), ("complement", 'C'), ("output-delimiter", 'D'),
        ("characters", 'c'), ("bytes", 'b'), ("only-delimited", 's')] } 1 fun a => do
  let list := ((a.value? 'f').or (a.value? 'c')).or (a.value? 'b')
  if ((a.value? 'd').map fun d => decide (d.length > 1)).getD false then
    complain "cut" "the delimiter must be a single character".toList
    Act.complain "Try 'cut --help' for more information.".toList
    return .exited 1
  match list with
  | none =>
    complain "cut" "you must specify a list of bytes, characters, or fields".toList
    Act.complain "Try 'cut --help' for more information.".toList
    return .exited 1
  | some list =>
    match ranges? list with
    | none =>
      if (list.splitOn ',').any fun part => part.all (· == '0') then
        let what := if a.has 'f' then "fields are" else "byte/character positions are"
        complain "cut" (what ++ " numbered from 1").toList
      else if isDecreasing list then complain "cut" "invalid decreasing range".toList
      else
        let what := if a.has 'f' then "invalid field value " else "invalid byte/character position "
        complain "cut" (what.toList ++ quoted list)
      Act.complain "Try 'cut --help' for more information.".toList
      return .exited 1
    | some ranges =>
      let (texts, fine) ← readAll "cut" a.operands plainly
      let picked (n : Nat) : Bool := isPicked ranges n != a.has 'C'
      let pick {α : Type} (xs : List α) : List α :=
        ((xs.zip (List.range' 1 xs.length)).filter fun (_, n) => picked n).map (·.1)
      let delimiter := match a.value? 'd' with
        | some d => d.headD '\x00'
        | none => '\t'
      let joint := (a.value? 'D').getD [delimiter]
      let line (s : Octets) : Option Octets :=
        if a.has 'f' then
          if s.contains delimiter then some (List.intercalate joint (pick (s.splitOn delimiter)))
          else if a.has 's' then none else some s
        else some (pick s)
      Act.print (texts.flatMap fun t =>
        ((Octets.lines t).filterMap line).flatMap (· ++ ['\n']))
      return .exited (if fine then 0 else 1)

def setChar : Octets → Char × Octets
  | '\\' :: c :: cs =>
    match c with
    | 'n' => ('\n', cs)
    | 't' => ('\t', cs)
    | 'r' => ('\r', cs)
    | 'a' => ('\x07', cs)
    | 'b' => ('\x08', cs)
    | 'f' => ('\x0c', cs)
    | 'v' => ('\x0b', cs)
    | c =>
      let digits := ((c :: cs).take 3).takeWhile fun c => '0' ≤ c && c ≤ '7'
      if digits.isEmpty then (c, cs)
      else
        let n := digits.foldl (fun n c => n * 8 + (c.toNat - '0'.toNat)) 0
        (Char.ofNat (n % 256), (c :: cs).drop digits.length)
  | c :: cs => (c, cs)
  | [] => ('\x00', [])

/-- A part of a set: a character so many times, or as often as it is needed. -/
abbrev SetPart := Char × Option Nat

/-- A part in brackets, such as a class or a repetition, and what follows it. -/
def bracketPart? (cs : Octets) : Except Octets (Option (List SetPart × Octets)) :=
  let once (cs : Octets) : List SetPart := cs.map (·, some 1)
  match cs with
  | '[' :: ':' :: rest =>
    let name := rest.takeWhile (· != ':')
    match rest.drop name.length with
    | ':' :: ']' :: rest =>
      let text := String.ofList name
      if classNames.contains text then
        .ok (some (once (((List.range 256).map Char.ofNat).filter (inClass text)), rest))
      else .error ("invalid character class ".toList ++ quoted name)
    | _ => .ok none
  | '[' :: '=' :: c :: '=' :: ']' :: rest => .ok (some ([(c, some 1)], rest))
  | '[' :: rest =>
    let (c, rest) := setChar rest
    match rest with
    | '*' :: rest =>
      let digits := rest.takeWhile Char.isDigit
      match rest.drop digits.length with
      | ']' :: rest =>
        let base := if digits.head? == some '0' then 8 else 10
        let n := digits.foldl (fun n d => n * base + (d.toNat - '0'.toNat)) 0
        .ok (some ([(c, if n == 0 then none else some n)], rest))
      | _ => .ok none
    | _ => .ok none
  | _ => .ok none

/-- The parts of a set with ranges, classes and escapes; at most `count` of them. -/
def setParts : (count : Nat) → Octets → Except Octets (List SetPart)
  | 0, _ => .ok []
  | _, [] => .ok []
  | count + 1, cs => do
    match ← bracketPart? cs with
    | some (parts, rest) => return parts ++ (← setParts count rest)
    | none =>
      let (c, rest) := setChar cs
      match rest with
      | '-' :: d :: more =>
        let (d, more) := setChar (d :: more)
        if d < c then
          throw ("range-endpoints of ".toList ++ quoted [c, '-', d] ++
            " are in reverse collating sequence order".toList)
        let chars := (List.range (d.toNat + 1 - c.toNat)).map fun n => Char.ofNat (c.toNat + n)
        return chars.map (·, some 1) ++ (← setParts count more)
      | rest => return (c, some 1) :: (← setParts count rest)

def filled (length : Nat) (parts : List SetPart) : Octets :=
  let known := parts.foldl (fun n part => n + part.2.getD 0) 0
  parts.flatMap fun (c, n) => List.replicate (n.getD (length - known)) c

def tr : Program := withOptions "tr"
    { plain := "dscCt",
      long := [("delete", 'd'), ("squeeze-repeats", 's'), ("complement", 'c'), ("truncate-set1", 't')],
      strict := true } 1 fun a => do
  let misuse (text : Octets) (more : String) : Act Status := do
    complain "tr" text
    if !more.isEmpty then Act.complain more.toList
    Act.complain "Try 'tr --help' for more information.".toList
    return .exited 1
  let squeeze (chars : Octets) (s : Octets) : Octets :=
    s.foldr (fun c acc => if chars.contains c && acc.head? == some c then acc else c :: acc) []
  let single := (a.has 'd') != (a.has 's')
  match a.operands with
  | [] => misuse "missing operand".toList ""
  | [first, extra] =>
    if a.has 'd' && !a.has 's' then
      misuse ("extra operand ".toList ++ quoted extra)
        "Only one string may be given when deleting without squeezing repeats."
    else go a squeeze first (some extra)
  | [first] =>
    if single then go a squeeze first none
    else
      misuse ("missing operand after ".toList ++ quoted first)
        (if a.has 'd' then "Two strings must be given when both deleting and squeezing repeats."
          else "Two strings must be given when translating.")
  | _ :: _ :: extra :: _ => misuse ("extra operand ".toList ++ quoted extra) ""
where
  go (a : Arguments) (squeeze : Octets → Octets → Octets) (first : Octets) (second : Option Octets) :
      Act Status := do
    let sets : Except Octets (List SetPart × Option (List SetPart)) := do
      let source ← setParts (first.length + 1) first
      let target ← second.mapM fun s => setParts (s.length + 1) s
      return (source, target)
    match sets with
    | .error text =>
      complain "tr" text
      return .exited 1
    | .ok (source, target) =>
      let source := filled 0 source
      let source := if a.has 'c' || a.has 'C' then
          ((List.range 256).map Char.ofNat).filter fun c => !source.contains c
        else source
      match target with
      | none =>
        let text ← Act.takeInput
        Act.print (if a.has 'd' then text.filter fun c => !source.contains c else squeeze source text)
        return .success
      | some target =>
        let goal := filled source.length target
        if goal.isEmpty && !a.has 'd' && !a.has 't' && !source.isEmpty then
          complain "tr" "when not truncating set1, string2 must be non-empty".toList
          return .exited 1
        let text ← Act.takeInput
        if a.has 'd' then
          Act.print (squeeze goal (text.filter fun c => !source.contains c))
        else
          let last := goal.getLastD '\x00'
          let source := if a.has 't' then source.take goal.length else source
          let pairs := (source.zip (goal ++ List.replicate source.length last)).reverse
          let out := text.map fun c => (pairs.lookup c).getD c
          Act.print (if a.has 's' then squeeze goal out else out)
        return .success

end Stencil.Shell.Program
