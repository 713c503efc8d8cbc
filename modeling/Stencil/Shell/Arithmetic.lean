import Stencil.Shell.Octets

/-!
# Shell arithmetic

Expressions over whole numbers of 64 bits, which wrap around. A name stands for the number that the
variable holds.
-/

namespace Stencil.Shell

inductive ArithmeticFault where
  | expecting (what : String)
  | divisionByZero
  | illegalNumber (text : Octets)
  deriving DecidableEq, Repr

namespace ArithmeticFault

def message (expression : Octets) : ArithmeticFault → Octets
  | expecting what =>
    ("arithmetic expression: expecting " ++ what ++ ": \"").toList ++ expression ++ ['"']
  | divisionByZero => "arithmetic expression: division by zero: \"".toList ++ expression ++ ['"']
  | illegalNumber text => "Illegal number: ".toList ++ text

end ArithmeticFault

inductive ArithmeticOp where
  | or | and | bitOr | bitXor | bitAnd | eq | ne | lt | le | gt | ge | shiftLeft | shiftRight
  | add | sub | mul | div | rem
  deriving DecidableEq, Repr

inductive Arithmetic where
  | number (n : Int)
  | held (name : Octets)
  | minus (e : Arithmetic)
  | complement (e : Arithmetic)
  | not (e : Arithmetic)
  | binary (op : ArithmeticOp) (l r : Arithmetic)
  | choice (condition l r : Arithmetic)
  /-- Gives a variable a value, made with what it holds if there is an operator. -/
  | assign (name : Octets) (op : Option ArithmeticOp) (e : Arithmetic)
  deriving Inhabited

namespace ArithmeticOp

def strength : ArithmeticOp → Nat
  | or => 1
  | and => 2
  | bitOr => 3
  | bitXor => 4
  | bitAnd => 5
  | eq | ne => 6
  | lt | le | gt | ge => 7
  | shiftLeft | shiftRight => 8
  | add | sub => 9
  | mul | div | rem => 10

def signs : List (String × ArithmeticOp) :=
  [("||", or), ("&&", and), ("==", eq), ("!=", ne), ("<<", shiftLeft), (">>", shiftRight), ("<=", le),
    (">=", ge), ("|", bitOr), ("^", bitXor), ("&", bitAnd), ("<", lt), (">", gt), ("+", add), ("-", sub),
    ("*", mul), ("/", div), ("%", rem)]

def assigning : List ArithmeticOp :=
  [bitOr, bitXor, bitAnd, shiftLeft, shiftRight, add, sub, mul, div, rem]

def ofText? (cs : Octets) : Option (ArithmeticOp × Octets) :=
  signs.findSome? fun (sign, op) =>
    if cs.take sign.length == sign.toList then some (op, cs.drop sign.length) else none

end ArithmeticOp

namespace Arithmetic

def wrap (n : Int) : Int :=
  Int.bmod n (Nat.pow 2 64)

def clamp (n : Int) : Int :=
  max (-(Nat.pow 2 63 : Nat) : Int) (min ((Nat.pow 2 63 : Nat) - 1 : Int) n)

def digitValue (c : Char) : Nat :=
  if c.isDigit then c.toNat - '0'.toNat
  else if 'a' ≤ c ∧ c ≤ 'f' then c.toNat - 'a'.toNat + 10
  else if 'A' ≤ c ∧ c ≤ 'F' then c.toNat - 'A'.toNat + 10
  else 16

/-- The digits of a base at the beginning of a text, as a number, and what follows them. -/
def digits (base : Nat) (cs : Octets) : Nat × Octets :=
  let taken := cs.takeWhile fun c => digitValue c < base
  (taken.foldl (fun n c => n * base + digitValue c) 0, cs.drop taken.length)

/-- A number in base 10, after `0x` in base 16, and after `0` in base 8. -/
def literal (cs : Octets) : Int × Octets :=
  let (n, rest) : Nat × Octets :=
    match cs with
    | '0' :: 'x' :: c :: ds | '0' :: 'X' :: c :: ds =>
      if digitValue c < 16 then digits 16 (c :: ds) else (0, cs.drop 1)
    | '0' :: _ => digits 8 cs
    | _ => digits 10 cs
  (clamp n, rest)

def isGap (c : Char) : Bool :=
  c == ' ' || c == '\t' || c == '\n' || c == '\r'

def value? (s : Octets) : Option Int :=
  let s := s.dropWhile isGap
  let (negative, ds) := match s with
    | '-' :: ds => (true, ds)
    | '+' :: ds => (false, ds)
    | ds => (false, ds)
  match ds with
  | [] => if s.isEmpty then some 0 else none
  | c :: _ =>
    if c.isDigit then
      let (n, rest) := literal ds
      if rest.all isGap then some (if negative then -n else n) else none
    else none

abbrev Parser := StateT Octets (Except ArithmeticFault)

def gap : Parser Unit :=
  modify (·.dropWhile isGap)

def isNameStart (c : Char) : Bool :=
  c.isAlpha || c == '_'

def isNameChar (c : Char) : Bool :=
  c.isAlphanum || c == '_'

def assignment? (cs : Octets) : Option (Option ArithmeticOp × Octets) :=
  match cs with
  | '=' :: '=' :: _ => none
  | '=' :: rest => some (none, rest)
  | _ =>
    match ArithmeticOp.ofText? cs with
    | some (op, '=' :: rest) => if ArithmeticOp.assigning.contains op then some (some op, rest) else none
    | _ => none

mutual

def primary : (steps : Nat) → Parser Arithmetic
  | 0 => throw (.expecting "primary")
  | steps + 1 => do
    gap
    match ← get with
    | '(' :: cs =>
      set cs
      let e ← expression steps
      gap
      match ← get with
      | ')' :: rest =>
        set rest
        return e
      | _ => throw (.expecting "')'")
    | '-' :: cs =>
      set cs
      return .minus (← primary steps)
    | '+' :: cs =>
      set cs
      primary steps
    | '~' :: cs =>
      set cs
      return .complement (← primary steps)
    | '!' :: cs =>
      set cs
      return .not (← primary steps)
    | c :: cs =>
      if c.isDigit then
        let (n, rest) := literal (c :: cs)
        set rest
        return .number n
      else if isNameStart c then
        let name := c :: cs.takeWhile isNameChar
        let rest := (cs.dropWhile isNameChar).dropWhile isGap
        match assignment? rest with
        | some (op, rest) =>
          set rest
          return .assign name op (← expression steps)
        | none =>
          set rest
          return .held name
      else throw (.expecting "primary")
    | [] => throw (.expecting "primary")

/-- What follows an operand with operators that bind at least as strongly as told. -/
def operators (least : Nat) : (steps : Nat) → Arithmetic → Parser Arithmetic
  | 0, l => pure l
  | steps + 1, l => do
    gap
    match ArithmeticOp.ofText? (← get) with
    | some (op, rest) =>
      if op.strength < least then return l
      set rest
      let r ← primary steps
      let r ← operators (op.strength + 1) steps r
      operators least steps (.binary op l r)
    | none => return l

def expression : (steps : Nat) → Parser Arithmetic
  | 0 => throw (.expecting "primary")
  | steps + 1 => do
    let l ← primary steps
    let e ← operators 0 steps l
    gap
    match ← get with
    | '?' :: cs =>
      set cs
      let l ← expression steps
      gap
      match ← get with
      | ':' :: rest =>
        set rest
        return .choice e l (← expression steps)
      | _ => throw (.expecting "':'")
    | _ => return e

end

def parse (cs : Octets) : Except ArithmeticFault Arithmetic := do
  let (e, rest) ← (expression (2 * cs.length + 4)).run cs
  if (rest.dropWhile isGap).isEmpty then pure e else throw (.expecting "EOF")

abbrev Assigned := List (Octets × Int)

abbrev Evaluation := StateT Assigned (Except ArithmeticFault)

def ofBool (b : Bool) : Int :=
  if b then 1 else 0

def apply (op : ArithmeticOp) (l r : Int) : Except ArithmeticFault Int :=
  let unsigned (n : Int) : Nat := (n % (Nat.pow 2 64 : Nat)).toNat
  let shift (r : Int) : Nat := (r % 64).toNat
  match op with
  | .or => .ok (ofBool (l != 0 || r != 0))
  | .and => .ok (ofBool (l != 0 && r != 0))
  | .bitOr => .ok (wrap (Nat.lor (unsigned l) (unsigned r)))
  | .bitXor => .ok (wrap (Nat.xor (unsigned l) (unsigned r)))
  | .bitAnd => .ok (wrap (Nat.land (unsigned l) (unsigned r)))
  | .eq => .ok (ofBool (l == r))
  | .ne => .ok (ofBool (l != r))
  | .lt => .ok (ofBool (l < r))
  | .le => .ok (ofBool (l ≤ r))
  | .gt => .ok (ofBool (r < l))
  | .ge => .ok (ofBool (r ≤ l))
  | .shiftLeft => .ok (wrap (l * (Nat.pow 2 (shift r) : Nat)))
  | .shiftRight => .ok (Int.fdiv l (Nat.pow 2 (shift r) : Nat))
  | .add => .ok (wrap (l + r))
  | .sub => .ok (wrap (l - r))
  | .mul => .ok (wrap (l * r))
  | .div => if r = 0 then .error .divisionByZero else .ok (wrap (l.tdiv r))
  | .rem => if r = 0 then .error .divisionByZero else .ok (l.tmod r)

/-- The number that a variable holds, where `values` gives the values from before. -/
def lookup (values : Octets → Octets) (name : Octets) : Evaluation Int := do
  match (← get).lookup name with
  | some n => return n
  | none =>
    match value? (values name) with
    | some n => return n
    | none => throw (.illegalNumber (values name))

/-- The number that an expression stands for. What does not count for it is not looked at. -/
def evaluate (values : Octets → Octets) : Arithmetic → Evaluation Int
  | .number n => pure n
  | .held name => lookup values name
  | .minus e => do return wrap (-(← evaluate values e))
  | .complement e => do return -(← evaluate values e) - 1
  | .not e => do return ofBool ((← evaluate values e) == 0)
  | .binary .and l r => do
    if (← evaluate values l) == 0 then return 0 else return ofBool ((← evaluate values r) != 0)
  | .binary .or l r => do
    if (← evaluate values l) != 0 then return 1 else return ofBool ((← evaluate values r) != 0)
  | .binary op l r => do
    let x ← evaluate values l
    let y ← evaluate values r
    apply op x y
  | .choice c l r => do
    if (← evaluate values c) != 0 then evaluate values l else evaluate values r
  | .assign name op e => do
    let n ← match op with
      | some op => do
        let x ← lookup values name
        let y ← evaluate values e
        apply op x y
      | none => evaluate values e
    modify ((name, n) :: ·)
    return n

/-- The number that a text stands for, with the variables that it gives values. -/
def run (values : Octets → Octets) (text : Octets) : Except ArithmeticFault (Int × Assigned) := do
  let e ← parse text
  (evaluate values e).run []

end Arithmetic

end Stencil.Shell
