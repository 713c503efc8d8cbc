import Stencil.Text.Search
import Stencil.Toml.Value

/-!
# TOML scalars

Strings, numbers, truth values, dates and times. A string is read from the character after its
opening quotes; the other scalars are read from a text that holds nothing else.
-/

namespace Stencil.Toml

def isTextChar (c : Char) : Bool :=
  c == '\t' || (c.toNat ≥ 32 && c.toNat != 127)

def isSpace (c : Char) : Bool :=
  c == ' ' || c == '\t'

def hexDigit? (c : Char) : Option Nat :=
  if c.isDigit then some (c.toNat - '0'.toNat)
  else if 'a' ≤ c ∧ c ≤ 'f' then some (c.toNat - 'a'.toNat + 10)
  else if 'A' ≤ c ∧ c ≤ 'F' then some (c.toNat - 'A'.toNat + 10)
  else none

def scalar? (digits : List Char) : Option Char := do
  let ds ← digits.mapM hexDigit?
  let n := ds.foldl (fun n d => n * 16 + d) 0
  if h : n.isValidChar then some (Char.ofNatAux n h) else none

def simpleEscape? : Char → Option Char
  | 'b' => some '\x08'
  | 't' => some '\t'
  | 'n' => some '\n'
  | 'f' => some '\x0c'
  | 'r' => some '\r'
  | '"' => some '"'
  | '\\' => some '\\'
  | _ => none

/-- A string in double quotes; `acc` holds its characters so far, the last one first. -/
def basicString (acc : List Char) : List Char → Option (List Char × List Char)
  | [] => none
  | '"' :: cs => some (acc.reverse, cs)
  | '\\' :: 'u' :: a :: b :: c :: d :: cs =>
    match scalar? [a, b, c, d] with
    | some x => basicString (x :: acc) cs
    | none => none
  | '\\' :: 'U' :: a :: b :: c :: d :: e :: f :: g :: h :: cs =>
    match scalar? [a, b, c, d, e, f, g, h] with
    | some x => basicString (x :: acc) cs
    | none => none
  | '\\' :: c :: cs =>
    match simpleEscape? c with
    | some x => basicString (x :: acc) cs
    | none => none
  | c :: cs => if c != '\\' && isTextChar c then basicString (c :: acc) cs else none

def literalString (acc : List Char) : List Char → Option (List Char × List Char)
  | [] => none
  | '\'' :: cs => some (acc.reverse, cs)
  | c :: cs => if isTextChar c then literalString (c :: acc) cs else none

/-- Whether a line may be continued: after a backslash, only blanks may come before the line break,
and after that all blanks and line breaks are skipped. -/
inductive Continuation where
  | no
  | toLineBreak
  | pastLineBreak
  deriving DecidableEq, Repr

def basicLines (acc : List Char) (k : Continuation) : List Char → Option (List Char × List Char)
  | [] => none
  | '\r' :: '\n' :: cs =>
    if k = .no then basicLines ('\n' :: acc) .no cs else basicLines acc .pastLineBreak cs
  | '"' :: '"' :: '"' :: '"' :: '"' :: cs =>
    if k = .toLineBreak then none else some (('"' :: '"' :: acc).reverse, cs)
  | '"' :: '"' :: '"' :: '"' :: cs =>
    if k = .toLineBreak then none else some (('"' :: acc).reverse, cs)
  | '"' :: '"' :: '"' :: cs =>
    if k = .toLineBreak then none else some (acc.reverse, cs)
  | '\\' :: 'u' :: a :: b :: c :: d :: cs =>
    match scalar? [a, b, c, d] with
    | some x => if k = .toLineBreak then none else basicLines (x :: acc) .no cs
    | none => none
  | '\\' :: 'U' :: a :: b :: c :: d :: e :: f :: g :: h :: cs =>
    match scalar? [a, b, c, d, e, f, g, h] with
    | some x => if k = .toLineBreak then none else basicLines (x :: acc) .no cs
    | none => none
  | '\\' :: c :: cs =>
    if k = .toLineBreak then none
    else
      match simpleEscape? c with
      | some x => basicLines (x :: acc) .no cs
      | none =>
        if c == '\n' then basicLines acc .pastLineBreak cs
        else if isSpace c || (c == '\r' && cs.head? == some '\n') then basicLines acc .toLineBreak cs
        else none
  | c :: cs =>
    if k ≠ .no ∧ isSpace c then basicLines acc k cs
    else if k ≠ .no ∧ c = '\n' then basicLines acc .pastLineBreak cs
    else if k = .toLineBreak then none
    else if c == '\n' || (c != '\\' && isTextChar c) then basicLines (c :: acc) .no cs
    else none

def literalLines (acc : List Char) : List Char → Option (List Char × List Char)
  | [] => none
  | '\r' :: '\n' :: cs => literalLines ('\n' :: acc) cs
  | '\'' :: '\'' :: '\'' :: '\'' :: '\'' :: cs => some (('\'' :: '\'' :: acc).reverse, cs)
  | '\'' :: '\'' :: '\'' :: '\'' :: cs => some (('\'' :: acc).reverse, cs)
  | '\'' :: '\'' :: '\'' :: cs => some (acc.reverse, cs)
  | c :: cs => if c == '\n' || isTextChar c then literalLines (c :: acc) cs else none

/-- A line break right after the opening quotes does not count. -/
def dropLineBreak : List Char → List Char
  | '\n' :: cs => cs
  | '\r' :: '\n' :: cs => cs
  | cs => cs

def digitsOf? (isDigit : Char → Bool) : List Char → Option (List Char)
  | [] => none
  | [c] => if isDigit c then some [c] else none
  | c :: '_' :: cs => if isDigit c then (digitsOf? isDigit cs).map (c :: ·) else none
  | c :: cs => if isDigit c then (digitsOf? isDigit cs).map (c :: ·) else none

def natOf (base : Nat) (digits : List Char) : Nat :=
  digits.foldl (fun n c => n * base + (hexDigit? c).getD 0) 0

def splitSign : List Char → Bool × List Char
  | '+' :: cs => (false, cs)
  | '-' :: cs => (true, cs)
  | cs => (false, cs)

def decimalDigits? (cs : List Char) : Option (List Char) := do
  let ds ← digitsOf? Char.isDigit cs
  if ds.head? = some '0' ∧ cs ≠ ['0'] then none else some ds

def intInRange? (n : Int) : Option Value :=
  if -9223372036854775808 ≤ n ∧ n ≤ 9223372036854775807 then some (.int n) else none

def integer? (cs : List Char) : Option Value :=
  match cs with
  | '0' :: 'x' :: ds => do
    intInRange? (natOf 16 (← digitsOf? (fun c => (hexDigit? c).isSome) ds))
  | '0' :: 'o' :: ds => do
    intInRange? (natOf 8 (← digitsOf? (fun c => '0' ≤ c && c ≤ '7') ds))
  | '0' :: 'b' :: ds => do
    intInRange? (natOf 2 (← digitsOf? (fun c => c == '0' || c == '1') ds))
  | _ => do
    let (negative, cs) := splitSign cs
    let n : Int := natOf 10 (← decimalDigits? cs)
    intInRange? (if negative then -n else n)

/-- A number with a fraction, an exponent or both. A positive number must not be too large. -/
def float? (cs : List Char) : Option Value := do
  let (negative, cs) := splitSign cs
  let isMark (c : Char) : Bool := c == '.' || c == 'e' || c == 'E'
  let whole ← decimalDigits? (cs.takeWhile (!isMark ·))
  let rest := cs.dropWhile (!isMark ·)
  let (fraction, rest) ← match rest with
    | '.' :: rest => do
      let isMark (c : Char) : Bool := c == 'e' || c == 'E'
      pure (← digitsOf? Char.isDigit (rest.takeWhile (!isMark ·)), rest.dropWhile (!isMark ·))
    | [] => none
    | _ => pure ([], rest)
  let power : Int ← match rest with
    | [] => pure 0
    | _ :: rest => do
      let (minus, ds) := splitSign rest
      let n : Int := natOf 10 (← digitsOf? Char.isDigit ds)
      pure (if minus then -n else n)
  let x := Double.ofDecimal negative (natOf 10 (whole ++ fraction)) (power - fraction.length)
  if !x.isFinite && !negative then none else some (.float x)

def special? (cs : List Char) : Option Value :=
  let (negative, name) := splitSign cs
  let signed (x : Float) : Option Value := some (.float (.ofFloat (if negative then -x else x)))
  if name = "inf".toList then signed (1.0 / 0.0)
  else if name = "nan".toList then signed (0.0 / 0.0)
  else none

def fixedDigits? (n : Nat) (cs : List Char) : Option Nat :=
  if cs.length = n ∧ cs.all Char.isDigit then some (natOf 10 cs) else none

def daysIn (year month : Nat) : Nat :=
  if month = 2 then
    if year % 4 = 0 ∧ (year % 100 ≠ 0 ∨ year % 400 = 0) then 29 else 28
  else if month = 4 ∨ month = 6 ∨ month = 9 ∨ month = 11 then 30
  else 31

def date? : List Char → Option (List Char)
  | [a, b, c, d, '-', e, f, '-', g, h] => do
    let year ← fixedDigits? 4 [a, b, c, d]
    let month ← fixedDigits? 2 [e, f]
    let day ← fixedDigits? 2 [g, h]
    if 1 ≤ month ∧ month ≤ 12 ∧ 1 ≤ day ∧ day ≤ daysIn year month then
      some [a, b, c, d, '-', e, f, '-', g, h]
    else none
  | _ => none

/-- The digits of a fraction of a second that are kept: nine at most, without zeros at the end. -/
def secondFraction (ds : List Char) : List Char :=
  let kept := trimEnd (· == '0') (ds.take 9)
  if kept.isEmpty then [] else '.' :: kept

def time? : List Char → Option (List Char × List Char)
  | a :: b :: ':' :: c :: d :: ':' :: e :: f :: rest => do
    let hour ← fixedDigits? 2 [a, b]
    let minute ← fixedDigits? 2 [c, d]
    let second ← fixedDigits? 2 [e, f]
    if hour ≤ 23 ∧ minute ≤ 59 ∧ second ≤ 60 then
      let clock := [a, b, ':', c, d, ':', e, f]
      match rest with
      | '.' :: rest =>
        let ds := rest.takeWhile Char.isDigit
        if ds.isEmpty then none
        else some (clock ++ secondFraction ds, rest.dropWhile Char.isDigit)
      | _ => some (clock, rest)
    else none
  | _ => none

def offset? : List Char → Option (List Char)
  | [] => some []
  | ['Z'] | ['z'] => some ['Z']
  | [sign, a, b, ':', c, d] => do
    let hour ← fixedDigits? 2 [a, b]
    let minute ← fixedDigits? 2 [c, d]
    if (sign = '+' ∨ sign = '-') ∧ hour ≤ 23 ∧ minute ≤ 59 then
      some ((if hour + minute = 0 then '+' else sign) :: [a, b, ':', c, d])
    else none
  | _ => none

/-- A date, a time or both, in the form in which it is kept. -/
def datetime? (cs : List Char) : Option Value :=
  let dated (day : List Char) (rest : List Char) : Option (List Char) := do
    let d ← date? day
    match rest with
    | [] => pure d
    | _ :: rest =>
      let (t, zone) ← time? rest
      pure (d ++ 'T' :: t ++ (← offset? zone))
  let isMark (c : Char) : Bool := c == 'T' || c == 't' || c == ' '
  let text :=
    match time? cs with
    | some (t, []) => some t
    | _ => dated (cs.takeWhile (!isMark ·)) (cs.dropWhile (!isMark ·))
  text.map (.datetime <| String.ofList ·)

def scalarOf? (cs : List Char) : Option Value :=
  if cs = "true".toList then some (.bool true)
  else if cs = "false".toList then some (.bool false)
  else (datetime? cs).or <| (float? cs).or <| (integer? cs).or (special? cs)

end Stencil.Toml
