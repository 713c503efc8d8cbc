import Stencil.Shell.Program.Print
import Stencil.Shell.Program.Arguments
import Stencil.Shell.Regex

/-!
# Programs on numbers

Prints rows of numbers, and the values of expressions.
-/

namespace Stencil.Shell.Program

/-! ## Rows -/

/-- A number with decimal places: its digits without the point, and how many of them stand behind
it. -/
structure Decimal where
  digits : Int
  places : Nat

namespace Decimal

def parse? (s : Octets) : Option Decimal :=
  let (negative, s) := match s with
    | '-' :: s => (true, s)
    | '+' :: s => (false, s)
    | s => (false, s)
  let isMark (c : Char) : Bool := c == 'e' || c == 'E'
  let plain := s.takeWhile (!isMark ·)
  let power : Option Int := match s.drop plain.length with
    | [] => some 0
    | _ :: rest => Octets.int? rest
  let whole := plain.takeWhile (· != '.')
  let decimals := (plain.drop whole.length).drop 1
  if whole.isEmpty && decimals.isEmpty then none
  else do
    let n ← Octets.nat? (whole ++ decimals)
    let power ← power
    let n : Int := if negative then -(n : Int) else n
    let places : Int := decimals.length - power
    if power.natAbs > 400 then none
    else if places ≥ 0 then some ⟨n, places.toNat⟩
    else some ⟨n * (Nat.pow 10 places.natAbs : Nat), 0⟩

def scaled (d : Decimal) (places : Nat) : Int :=
  d.digits * (Nat.pow 10 (places - d.places) : Nat)

def text (places width : Nat) (n : Int) : Octets :=
  let ds := Octets.ofNat n.natAbs
  let ds := List.replicate (places + 1 - ds.length) '0' ++ ds
  let whole := ds.take (ds.length - places)
  let point : Octets := if places == 0 then [] else '.' :: ds.drop (ds.length - places)
  let sign : Octets := if n < 0 then ['-'] else []
  sign ++ List.replicate (width - sign.length - whole.length - point.length) '0' ++ whole ++ point

end Decimal

/-- The numbers from one on in steps, up to another one; at most `count`. -/
def row (last step : Int) : (count : Nat) → Int → List Int
  | 0, _ => []
  | count + 1, n =>
    if (step ≥ 0 && n > last) || (step < 0 && n < last) then [] else n :: row last step count (n + step)

def isNegative (s : Octets) : Bool :=
  match s with
  | '-' :: c :: _ => c.isDigit || c == '.'
  | _ => false

def seq : Program := fun args =>
  let numbered := (args.dropWhile fun s => !isNegative s)
  let before := args.takeWhile fun s => !isNegative s
  let letters : Arguments.Letters :=
    { plain := "w", valued := "sf", strict := true,
      long := [("separator", 's'), ("equal-width", 'w'), ("format", 'f')] }
  withOptions "seq" letters 1 (fun a => do
    let operands := a.operands ++ numbered
    let invalid (s : Octets) : Act Status := do
      complain "seq" ("invalid floating point argument: ".toList ++ quoted s)
      Act.complain "Try 'seq --help' for more information.".toList
      return .exited 1
    match operands.find? fun s => (Decimal.parse? s).isNone with
    | some s => invalid s
    | none =>
      match operands.filterMap Decimal.parse? with
      | [] =>
        complain "seq" "missing operand".toList
        Act.complain "Try 'seq --help' for more information.".toList
        return .exited 1
      | _ :: _ :: _ :: _ :: _ =>
        complain "seq" ("extra operand ".toList ++ quoted (operands[3]?.getD []))
        Act.complain "Try 'seq --help' for more information.".toList
        return .exited 1
      | ds =>
        let (first, step, last) : Decimal × Decimal × Decimal := match ds with
          | [l] => (⟨1, 0⟩, ⟨1, 0⟩, l)
          | [f, l] => (f, ⟨1, 0⟩, l)
          | f :: s :: l :: _ => (f, s, l)
          | [] => (⟨1, 0⟩, ⟨1, 0⟩, ⟨0, 0⟩)
        if step.digits == 0 then
          let text := operands[1]?.getD []
          complain "seq" ("invalid Zero increment value: ".toList ++ quoted text)
          Act.complain "Try 'seq --help' for more information.".toList
          return .exited 1
        let places := max first.places step.places
        let common := max places last.places
        let ns := row (last.scaled common) (step.scaled common)
          (((last.scaled common - first.scaled common) / step.scaled common).natAbs + 1)
          (first.scaled common)
        let shrink (n : Int) : Int := Int.tdiv n (Nat.pow 10 (common - places) : Nat)
        let plain := ns.map fun n => Decimal.text places 0 (shrink n)
        let width := if a.has 'w' then
            max (plain.foldl (fun n s => max n s.length) 0)
              (Decimal.text places 0 (shrink (last.scaled common))).length
          else 0
        let texts := ns.map fun n => Decimal.text places width (shrink n)
        let separator := (a.value? 's').getD ['\n']
        if texts.isEmpty then return .success
        match a.value? 'f' with
        | some format =>
          let print (i : Nat) (text : Octets) : Act Unit := do
            if i > 0 then Act.print separator
            let _ ← printFormat "seq: ".toList (format.length + 1) format { args := [text] }
          texts.zipIdx.forM fun (text, i) => print i text
          Act.print ['\n']
          return .success
        | none => pure ()
        Act.print (List.intercalate separator texts ++ ['\n'])
        return .success) before

/-! ## Expressions -/

inductive ExprFault where
  | noOperand
  | missingAfter (s : Octets)
  | unexpected (s : Octets)
  | missingParenthesis (s : Octets)
  | closing
  | notInteger
  | division
  | regex (f : RegexFault)
  deriving DecidableEq, Repr

namespace ExprFault

def message : ExprFault → Octets
  | noOperand => "missing operand".toList
  | missingAfter s => "syntax error: missing argument after ".toList ++ quoted s
  | unexpected s => "syntax error: unexpected argument ".toList ++ quoted s
  | missingParenthesis s => "syntax error: expecting ')' after ".toList ++ quoted s
  | closing => "syntax error: unexpected ')'".toList
  | notInteger => "non-integer argument".toList
  | division => "division by zero".toList
  | regex f => f.message.toList

end ExprFault

namespace Expr

abbrev Reader := StateT (Octets × List Octets) (Except ExprFault)

def peek : Reader (Option Octets) := do
  return (← get).2.head?

def take : Reader Octets := do
  match ← get with
  | (last, []) => throw (.missingAfter last)
  | (_, s :: rest) =>
    set (s, rest)
    return s

def isNothing (s : Octets) : Bool :=
  s.isEmpty ||
    (let digits := if s.head? == some '-' then s.drop 1 else s
     !digits.isEmpty && digits.all (· == '0'))

def truth (b : Bool) : Octets :=
  if b then ['1'] else ['0']

def integer (s : Octets) : Reader Int :=
  match s, Octets.int? s with
  | '+' :: _, _ => throw .notInteger
  | _, some n => return n
  | _, none => throw .notInteger

/-- What fits an expression at the beginning of a text: its first group, or how long it is. -/
def fitting (text pattern : Octets) : Reader Octets :=
  let groups (r : Regex) : Bool := (Regex.groupCount r) > 0
  match Regex.parse ⟨false, false⟩ pattern with
  | .error f => throw (.regex f)
  | .ok r =>
    match Regex.fitAt? false r { before := none, rest := text, position := 0 } with
    | some q => return if groups r then (q.groups.lookup 1).getD [] else Octets.ofNat q.position
    | none => return if groups r then [] else ['0']

def compare (operator : String) (l r : Octets) : Bool :=
  let order : Ordering := match Octets.int? l, Octets.int? r with
    | some m, some n => Ord.compare m n
    | _, _ => if l == r then .eq else if Octets.le l r then .lt else .gt
  match operator with
  | "<" => order == .lt
  | "<=" => order != .gt
  | "=" | "==" => order == .eq
  | "!=" => order != .eq
  | ">=" => order != .lt
  | _ => order == .gt

def operators : List (List String) :=
  [["|"], ["&"], ["<", "<=", "=", "==", "!=", ">=", ">"], ["+", "-"], ["*", "/", "%"], [":"]]

def apply (operator : String) (l r : Octets) : Reader Octets := do
  match operator with
  | "|" => return if !isNothing l then l else if !isNothing r then r else ['0']
  | "&" => return if isNothing l || isNothing r then ['0'] else l
  | "+" => return Octets.ofInt ((← integer l) + (← integer r))
  | "-" => return Octets.ofInt ((← integer l) - (← integer r))
  | "*" => return Octets.ofInt ((← integer l) * (← integer r))
  | "/" | "%" =>
    let m ← integer l
    let n ← integer r
    if n == 0 then throw .division
    return Octets.ofInt (if operator == "/" then Int.tdiv m n else Int.tmod m n)
  | ":" => fitting l r
  | operator => return truth (compare operator l r)

mutual

def value : (steps : Nat) → List (List String) → Reader Octets
  | 0, _ => return []
  | steps + 1, [] => operand steps
  | steps + 1, level :: levels => do
    let l ← value steps levels
    continued steps level levels l

def continued : (steps : Nat) → List String → List (List String) → Octets → Reader Octets
  | 0, _, _, l => return l
  | steps + 1, level, levels, l => do
    match ← peek with
    | some s =>
      let operator := String.ofList s
      if level.contains operator then
        let _ ← take
        let r ← value steps levels
        continued steps level levels (← apply operator l r)
      else return l
    | none => return l

def operand : (steps : Nat) → Reader Octets
  | 0 => return []
  | steps + 1 => do
    let s ← take
    match String.ofList s with
    | "(" =>
      let v ← value steps operators
      match ← get with
      | (_, [')'] :: rest) =>
        set (([')'] : Octets), rest)
        return v
      | (last, []) => throw (.missingParenthesis last)
      | (_, other :: _) => throw (.unexpected other)
    | ")" => throw .closing
    | "+" => take
    | "length" => return Octets.ofNat (← operand steps).length
    | "match" =>
      let l ← operand steps
      fitting l (← operand steps)
    | "index" =>
      let l ← operand steps
      let r ← operand steps
      let before := (l.takeWhile (!r.contains ·)).length
      return Octets.ofNat (if before < l.length then before + 1 else 0)
    | "substr" =>
      let l ← operand steps
      let position ← operand steps
      let length ← operand steps
      match Octets.nat? position, Octets.nat? length with
      | some p, some n => return if p == 0 then [] else (l.drop (p - 1)).take n
      | _, _ => return []
    | _ => return s

end

def run (args : List Octets) : Except ExprFault Octets := do
  if args.isEmpty then throw .noOperand
  let (v, _, rest) ← (value (16 * args.length + 16) operators).run ([], args)
  match rest with
  | [] => return v
  | s :: _ => throw (.unexpected s)

end Expr

def expr : Program := fun args => do
  let args := match args with
    | ['-', '-'] :: args => args
    | args => args
  match Expr.run args with
  | .ok v =>
    Act.printLine v
    return .exited (if Expr.isNothing v then 1 else 0)
  | .error f =>
    complain "expr" f.message
    if f == .noOperand then Act.complain "Try 'expr --help' for more information.".toList
    return .exited 2

end Stencil.Shell.Program
