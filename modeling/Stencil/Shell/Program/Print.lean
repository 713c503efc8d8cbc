import Stencil.Double.Decimal
import Stencil.Double.Fixed
import Stencil.Shell.Arithmetic
import Stencil.Shell.Machine

/-!
# Printing

The programs that print their arguments, as they are or by a format.
-/

namespace Stencil.Shell.Program

def isOctal (c : Char) : Bool :=
  '0' ≤ c && c ≤ '7'

/-- The character that up to `count` octal digits stand for, and what follows them. -/
def octalChar (count : Nat) (cs : Octets) : Char × Octets :=
  let digits := (cs.take count).takeWhile isOctal
  let n := digits.foldl (fun n c => n * 8 + (c.toNat - '0'.toNat)) 0
  (Char.ofNat (n % 256), cs.drop digits.length)

def escape? : Char → Option Char
  | 'a' => some '\x07'
  | 'b' => some '\x08'
  | 'f' => some '\x0c'
  | 'n' => some '\n'
  | 'r' => some '\r'
  | 't' => some '\t'
  | 'v' => some '\x0b'
  | 'e' => some '\x1b'
  | '\\' => some '\\'
  | _ => none

/-- The character that up to two digits of base 16 stand for, and what follows them; none if there
is no digit. -/
def hexChar? (cs : Octets) : Option (Char × Octets) :=
  let value (c : Char) : Nat :=
    if c.isDigit then c.toNat - '0'.toNat else c.toLower.toNat - 'a'.toNat + 10
  let isHex (c : Char) : Bool := c.isDigit || ('a' ≤ c.toLower && c.toLower ≤ 'f')
  let digits := (cs.take 2).takeWhile isHex
  if digits.isEmpty then none
  else some (Char.ofNat (digits.foldl (fun n c => n * 16 + value c) 0), cs.drop digits.length)

/-- The text that escapes stand for; `true` if `\c` ends all output. Octal numbers may stand after a
zero, numbers of base 16 count if `hex` holds. `count` bounds the number of steps. -/
def unescape (hex : Bool) : (count : Nat) → Octets → Octets × Bool
  | 0, _ => ([], false)
  | _ + 1, [] => ([], false)
  | count + 1, '\\' :: c :: cs =>
    let go (x : Char) (rest : Octets) : Octets × Bool :=
      let (text, stop) := unescape hex count rest
      (x :: text, stop)
    match escape? c, if hex && c == 'x' then hexChar? cs else none with
    | some x, _ => go x cs
    | none, some (x, rest) => go x rest
    | none, none =>
      if c == 'c' then ([], true)
      else if isOctal c then
        let (x, rest) := octalChar 3 (if c == '0' then cs else c :: cs)
        go x rest
      else go '\\' (c :: cs)
  | count + 1, c :: cs =>
    let (text, stop) := unescape hex count cs
    (c :: text, stop)

def spaced (args : List Octets) : Octets :=
  List.intercalate [' '] args

def echo : Program := fun args => do
  let (newline, args) := match args with
    | ['-', 'n'] :: args => (false, args)
    | args => (true, args)
  let text := spaced args
  let (text, stop) := unescape false (text.length + 1) text
  Act.print (if newline && !stop then text ++ ['\n'] else text)
  return .success

def plainEcho : Program := fun args => do
  let isFlag (a : Octets) : Bool :=
    a.length > 1 && a.head? == some '-' && (a.drop 1).all fun c => c == 'n' || c == 'e' || c == 'E'
  let flags := (args.takeWhile isFlag).flatMap (·.drop 1)
  let text := spaced (args.dropWhile isFlag)
  let escapes := (flags.filter (· != 'n')).getLast? == some 'e'
  let (text, stop) := if escapes then unescape true (text.length + 1) text else (text, false)
  Act.print (if flags.contains 'n' || stop then text else text ++ ['\n'])
  return .success

structure Directive where
  flags : Octets := []
  width : Nat := 0
  precision : Option Nat := none
  conversion : Char

namespace Directive

def has (d : Directive) (flag : Char) : Bool :=
  d.flags.contains flag

/-- Fills a text up to the width, with zeros after its sign if `zeros` holds. -/
def pad (d : Directive) (zeros : Bool) (sign body : Octets) : Octets :=
  let missing := d.width - (sign.length + body.length)
  if d.has '-' then sign ++ body ++ List.replicate missing ' '
  else if zeros && d.has '0' then sign ++ List.replicate missing '0' ++ body
  else List.replicate missing ' ' ++ sign ++ body

def text (d : Directive) (s : Octets) : Octets :=
  d.pad false [] (match d.precision with
    | some n => s.take n
    | none => s)

def sign (d : Directive) (negative : Bool) : Octets :=
  if negative then ['-'] else if d.has '+' then ['+'] else if d.has ' ' then [' '] else []

def integer (d : Directive) (n : Int) : Octets :=
  let unsigned : Nat := (n % (Nat.pow 2 64 : Nat)).toNat
  let (sign, digits) : Octets × Octets := match d.conversion with
    | 'o' => (if d.has '#' && n != 0 then ['0'] else [], Nat.toDigits 8 unsigned)
    | 'x' => (if d.has '#' && n != 0 then ['0', 'x'] else [], Nat.toDigits 16 unsigned)
    | 'X' =>
      (if d.has '#' && n != 0 then ['0', 'X'] else [], (Nat.toDigits 16 unsigned).map Char.toUpper)
    | 'u' => ([], Nat.toDigits 10 unsigned)
    | _ => (d.sign (n < 0), Nat.toDigits 10 n.natAbs)
  let digits := match d.precision with
    | some p => if n == 0 && p == 0 then [] else List.replicate (p - digits.length) '0' ++ digits
    | none => digits
  d.pad d.precision.isNone sign digits

def float (d : Directive) (x : Double) : Octets :=
  let upper := d.conversion.isUpper
  let places := d.precision.getD 6
  if x.isFinite then
    let mark := if upper then 'E' else 'e'
    let body := match d.conversion.toLower with
      | 'f' => x.fixed places
      | 'e' => x.scientific mark places
      | _ => x.general mark places (d.has '#')
    d.pad true (d.sign x.negative) body
  else
    let word := (if x.isNaN then "nan" else "inf").toList
    d.pad false (d.sign x.negative) (if upper then word.map Char.toUpper else word)

end Directive

structure Leading (α : Type) where
  value : α
  rest : Octets

/-- The whole number that an argument begins with; after a quote it is that of a character. -/
def leadingInteger (arg : Octets) : Leading Int :=
  match arg with
  | '"' :: c :: _ | '\'' :: c :: _ => ⟨c.toNat, []⟩
  | _ =>
    let unsigned := arg.dropWhile Arithmetic.isGap
    let (negative, ds) := match unsigned with
      | '-' :: ds => (true, ds)
      | '+' :: ds => (false, ds)
      | ds => (false, ds)
    match ds with
    | d :: _ =>
      if d.isDigit then
        let (n, rest) := Arithmetic.literal ds
        ⟨if negative then -n else n, rest⟩
      else ⟨0, arg⟩
    | [] => ⟨0, arg⟩

def leadingFloat (arg : Octets) : Leading Double :=
  match arg with
  | '"' :: c :: _ | '\'' :: c :: _ => ⟨.ofInt c.toNat, []⟩
  | _ =>
    let unsigned := arg.dropWhile Arithmetic.isGap
    let (negative, ds) := match unsigned with
      | '-' :: ds => (true, ds)
      | '+' :: ds => (false, ds)
      | ds => (false, ds)
    let lengths := (List.range (ds.length + 1)).reverse
    match lengths.findSome? fun n =>
        (Double.ofUnsigned? negative (ds.take n)).map fun x => (n, x) with
    | some (n, x) => ⟨x, ds.drop n⟩
    | none =>
      match Double.ofText? (String.ofList arg) with
      | some x => ⟨x, []⟩
      | none => ⟨.zero, arg⟩

/-- The arguments that are left, whether one was taken, and whether one had the wrong form. -/
structure Printing where
  args : List Octets
  taken : Bool := false
  flawed : Bool := false
  /-- Whether the format could not be read. -/
  refused : Bool := false
  ended : Bool := false

def Printing.next (p : Printing) : Octets × Printing :=
  (p.args.headD [], { p with args := p.args.drop 1, taken := p.taken || !p.args.isEmpty })

/-- A number of digits, or the argument that a star stands for. -/
def countAt (p : Printing) (cs : Octets) : Option Int × Printing × Octets :=
  match cs with
  | '*' :: rest =>
    let (arg, p) := p.next
    (some (leadingInteger arg).value, p, rest)
  | _ =>
    let ds := cs.takeWhile Char.isDigit
    (if ds.isEmpty then none else (Octets.nat? ds).map Int.ofNat, p, cs.drop ds.length)

def directiveAt (p : Printing) (cs : Octets) : Option (Directive × Printing × Octets) :=
  let isFlag (c : Char) : Bool := c == '#' || c == '-' || c == '+' || c == ' ' || c == '0'
  let flags := cs.takeWhile isFlag
  let (width, p, cs) := countAt p (cs.drop flags.length)
  let flags := if (width.getD 0) < 0 then '-' :: flags else flags
  let (precision, p, cs) : Option Nat × Printing × Octets := match cs with
    | '.' :: cs =>
      let (n, p, cs) := countAt p cs
      (if (n.getD 0) < 0 then none else some (n.getD 0).toNat, p, cs)
    | cs => (none, p, cs)
  match cs with
  | c :: cs => some ({ flags, width := (width.getD 0).natAbs, precision, conversion := c }, p, cs)
  | [] => none

/-- Reports an argument of the wrong form; `head` begins the message. -/
def checkLeading {α : Type} (head arg : Octets) (l : Leading α) (p : Printing) : Act Printing := do
  if l.rest.isEmpty then return p
  let what := if l.rest == arg then ": expected numeric value" else ": not completely converted"
  Act.complain (head ++ arg ++ what.toList)
  return { p with flawed := true }

/-- Prints one directive with the next argument; `written` is how the format has it. -/
def printDirective (head written : Octets) (d : Directive) (p : Printing) : Act Printing := do
  let (arg, after) := p.next
  match d.conversion with
  | 's' =>
    Act.print (d.text arg)
    return after
  | 'c' =>
    Act.print (d.text (match arg with
      | c :: _ => [c]
      | [] => ['\x00']))
    return after
  | 'b' =>
    let (text, stop) := unescape false (arg.length + 1) arg
    Act.print (d.text text)
    return { after with ended := stop }
  | 'd' | 'i' | 'o' | 'u' | 'x' | 'X' =>
    let n := leadingInteger arg
    let after ← checkLeading head arg n after
    Act.print (d.integer n.value)
    return after
  | 'e' | 'E' | 'f' | 'F' | 'g' | 'G' =>
    let x := leadingFloat arg
    let after ← checkLeading head arg x after
    Act.print (d.float x.value)
    return after
  | _ =>
    Act.complain (head ++ written ++ ": invalid directive".toList)
    return { p with refused := true, ended := true }

def printFormat (head : Octets) : (count : Nat) → Octets → Printing → Act Printing
  | 0, _, p => pure p
  | _, [], p => pure p
  | count + 1, c :: cs, p => do
    if p.ended then return p
    match c, cs with
    | '%', '%' :: cs =>
      Act.print ['%']
      printFormat head count cs p
    | '%', cs =>
      match directiveAt p cs with
      | some (d, p, rest) =>
        let written := '%' :: cs.take (cs.length - rest.length)
        printFormat head count rest (← printDirective head written d p)
      | none =>
        Act.complain (head ++ "missing format character".toList)
        return { p with refused := true, ended := true }
    | '\\', d :: ds =>
      if isOctal d then
        let (x, rest) := octalChar 3 (d :: ds)
        Act.print [x]
        printFormat head count rest p
      else
        match escape? d with
        | some x =>
          Act.print [x]
          printFormat head count ds p
        | none =>
          if d == 'c' then return { p with ended := true }
          Act.print ['\\', d]
          printFormat head count ds p
    | c, cs =>
      Act.print [c]
      printFormat head count cs p

def printAll (head format : Octets) : (count : Nat) → Printing → Act Printing
  | 0, p => pure p
  | count + 1, p => do
    let p ← printFormat head (format.length + 1) format { p with taken := false }
    if p.ended || !p.taken || p.args.isEmpty then return p
    printAll head format count p

def printf (head : Octets) : Program := fun args => do
  let args := match args with
    | ['-', '-'] :: args => args
    | args => args
  match args with
  | [] =>
    Act.complain (head ++ "usage: printf format [arg ...]".toList)
    return .exited 2
  | format :: args =>
    let p ← printAll head format (args.length + 1) { args }
    return .exited (if p.refused then 2 else if p.flawed then 1 else 0)

end Stencil.Shell.Program
