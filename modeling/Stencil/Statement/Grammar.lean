import Stencil.Fields
import Stencil.Statement.Syntax
import Stencil.Text.Parser

/-!
# The grammar of expressions

Expressions are read by ordered choice: of several alternatives the first one that fits counts, and
a later failure does not lead back into it. `steps` bounds the depth of the descent.
-/

namespace Stencil.Statement

namespace Grammar

open Stencil.Parser

def isNameStart (c : Char) : Bool :=
  c.isAlpha || c == '_'

def isNameChar (c : Char) : Bool :=
  c.isAlphanum || c == '_'

def name : Parser String := do
  match ← get with
  | c :: _ => if isNameStart c then return String.ofList (← span1 isNameChar) else failure
  | [] => failure

def wholeDigits : Parser (List Char) := do
  match ← get with
  | '0' :: cs =>
    set cs
    return ['0']
  | _ => span1 Char.isDigit

def digitsValue (cs : List Char) : Nat :=
  cs.foldl (fun n c => n * 10 + (c.toNat - '0'.toNat)) 0

def intText : Parser Int := do
  let negative ← fits (word "-")
  let n : Int := digitsValue (← wholeDigits)
  return if negative then -n else n

def int : Parser Term := do
  let n ← intText
  if -9223372036854775808 ≤ n ∧ n ≤ 9223372036854775807 then return .int n else failure

def float : Parser Term := do
  let negative ← fits (word "-")
  let whole ← wholeDigits
  word "."
  let fraction ← span1 Char.isDigit
  return .float (.ofDecimal negative (digitsValue (whole ++ fraction)) (-fraction.length))

def quoted : Parser String := do
  match ← get with
  | q :: cs =>
    if q == '"' || q == '\'' || q == '\x60' then
      match cs.dropWhile (· != q) with
      | _ :: rest =>
        set rest
        return String.ofList (cs.takeWhile (· != q))
      | [] => failure
    else failure
  | [] => failure

def dotted : Parser Unit := do
  word "."
  let _ ← span1 isNameChar

/-- Runs over a path. What stands in brackets after it is an index, a key in quotes or another
path. -/
def skipPath : (steps : Nat) → Parser Unit
  | 0 => failure
  | steps + 1 => do
    let _ ← name
    let _ ← many (dotted <|> do
      word "["
      (do let _ ← intText) <|> (do let _ ← quoted) <|> skipPath steps
      word "]")

def path (steps : Nat) : Parser Path :=
  taken (skipPath steps)

def bool : Parser Term :=
  (do word "true"; return .bool true) <|> (do word "false"; return .bool false) <|>
    (do word "True"; return .bool true) <|> (do word "False"; return .bool false)

def timesOp : Parser MathOp :=
  (do token "*"; return .mul) <|> (do token "/"; return .div) <|> (do token "%"; return .mod)

def plusOp : Parser MathOp :=
  (do token "+"; return .add) <|> (do token "-"; return .sub)

def mathOp : Parser MathOp :=
  plusOp <|> timesOp

def compareOp : Parser CompareOp :=
  (do token "<="; return .le) <|> (do token ">="; return .ge) <|> (do token "<"; return .lt) <|>
    (do token ">"; return .gt) <|> (do token "=="; return .eq) <|> (do token "!="; return .ne)

def isTimes : MathOp → Bool
  | .mul | .div | .mod => true
  | _ => false

/-- Operands joined from the left; `done` is the sum so far, if there is one, with the sign of what
follows, and `last` the product that is being formed. -/
def joinMath (done : Option (Expr × MathOp)) (last : Expr) : List (MathOp × Expr) → Expr
  | [] =>
    match done with
    | none => last
    | some (sum, op) => .ofTerm (.math op sum last)
  | (op, e) :: rest =>
    if isTimes op then joinMath done (.ofTerm (.math op last e)) rest
    else
      let sum := match done with
        | none => last
        | some (sum, op) => .ofTerm (.math op sum last)
      joinMath (some (sum, op)) e rest

/-- Conditions joined from the left, where `and` binds tighter than `or`; the Boolean is true for
`or`. -/
def joinLogic (done : Option Expr) (last : Expr) : List (Bool × Expr) → Expr
  | [] =>
    match done with
    | none => last
    | some e => .ofTerm (.or e last)
  | (isOr, e) :: rest =>
    if isOr then
      let all := match done with
        | none => last
        | some d => .ofTerm (.or d last)
      joinLogic (some all) e rest
    else joinLogic done (.ofTerm (.and last e)) rest

def termOf : Expr → Term
  | .mk t _ _ => t

/-- The word `not` before a condition; a blank follows it. -/
def notWord : Parser Bool :=
  fits do
    word "not"
    gap1

mutual

/-- `name(key=value, …)`; of two values for one key the later one counts. -/
def call : (steps : Nat) → Parser Call
  | 0 => failure
  | steps + 1 => do
    let n ← name
    token "("
    let args ← optional (arguments steps)
    token ")"
    return .mk n (sortFields (args.getD []))

def arguments : (steps : Nat) → Parser (List (String × Expr))
  | 0 => failure
  | steps + 1 => do
    let first ← argument steps
    let others ← many do
      token ","
      argument steps
    let _ ← optional (token ",")
    return first :: others

def argument : (steps : Nat) → Parser (String × Expr)
  | 0 => failure
  | steps + 1 => do
    gap
    let n ← name
    token "="
    gap
    return (n, ← logicOrArray steps)

def filter : (steps : Nat) → Parser Call
  | 0 => failure
  | steps + 1 => do
    token "|"
    gap
    call steps <|> (do return .mk (← name) [])

def filters : (steps : Nat) → Parser (List Call)
  | 0 => failure
  | steps + 1 => many (filter steps)

def concatPart : (steps : Nat) → Parser Term
  | 0 => failure
  | steps + 1 =>
    (do return .call (← call steps)) <|> float <|> int <|> (do return .text (← quoted)) <|>
      (do return .path (← path steps))

def concat : (steps : Nat) → Parser Term
  | 0 => failure
  | steps + 1 => do
    let first ← concatPart steps
    let others ← many do
      token "~"
      gap
      concatPart steps
    if others.isEmpty then failure
    return .concat (first :: others)

def textExpr : (steps : Nat) → Parser Expr
  | 0 => failure
  | steps + 1 => do
    let t ← concat steps <|> (do return .text (← quoted))
    return .mk t false (← filters steps)

def testArguments : (steps : Nat) → Parser (List Expr)
  | 0 => failure
  | steps + 1 => do
    token "("
    gap
    let first ← logicOrArray steps
    let others ← many do
      token ","
      gap
      logicOrArray steps
    token ")"
    return first :: others

def test : (steps : Nat) → Parser Term
  | 0 => failure
  | steps + 1 => do
    let p ← path steps
    token "is"
    gap
    let negated ← fits do
      word "not"
      gap
    let n ← name
    let args ← optional (testArguments steps)
    return .test negated p n (args.getD [])

/-- A test whose name begins with `not` where the word is no negation. -/
def plainTest : (steps : Nat) → Parser Term
  | 0 => failure
  | steps + 1 => do
    let p ← path steps
    token "is"
    gap
    let n ← name
    let args ← optional (testArguments steps)
    return .test false p n (args.getD [])

def macroCall : (steps : Nat) → Parser Term
  | 0 => failure
  | steps + 1 => do
    let space ← name
    token "::"
    gap
    let n ← name
    token "("
    let _ ← optional (arguments steps)
    token ")"
    return .macroCall (space ++ "::" ++ n)

def basicValue : (steps : Nat) → Parser Term
  | 0 => failure
  | steps + 1 =>
    bool <|> test steps <|> plainTest steps <|> macroCall steps <|>
      (do return .call (← call steps)) <|> (do return .path (← path steps)) <|> float <|> int

def operand : (steps : Nat) → Parser Expr
  | 0 => failure
  | steps + 1 =>
    (do
      word "("
      gap
      let t ← sum steps
      token ")"
      return .ofTerm t)
    <|> (do return .ofTerm (← basicValue steps))

def sum : (steps : Nat) → Parser Term
  | 0 => failure
  | steps + 1 => do
    let first ← operand steps
    let others ← many do
      let op ← mathOp
      gap
      return (op, ← operand steps)
    return termOf (joinMath none first others)

def filteredSum : (steps : Nat) → Parser Expr
  | 0 => failure
  | steps + 1 => do
    let t ← sum steps
    return .mk t false (← filters steps)

def comparand : (steps : Nat) → Parser Expr
  | 0 => failure
  | steps + 1 => do
    let first ← filteredSum steps
    let others ← many do
      let op ← mathOp
      gap
      return (op, ← filteredSum steps)
    return joinMath none first others

def comparison : (steps : Nat) → Parser Expr
  | 0 => failure
  | steps + 1 => do
    let left ← textExpr steps <|> comparand steps
    let right ← optional do
      let op ← compareOp
      gap
      return (op, ← textExpr steps <|> comparand steps)
    match right with
    | some (op, right) => return .ofTerm (.compare op left right)
    | none => return left

def containment : (steps : Nat) → Parser Expr
  | 0 => failure
  | steps + 1 => do
    let item ← textExpr steps <|> filteredSum steps
    gap
    let negated ← notWord
    word "in"
    gap
    let container ←
      textExpr steps <|> arrayExpr steps <|> (do return .ofTerm (.path (← path steps)))
    return .ofTerm (.contains negated item container)

/-- A condition without `and` and `or`. A condition in parentheses loses its negation. -/
def logicValue : (steps : Nat) → Parser Expr
  | 0 => failure
  | steps + 1 => do
    let negate (negated : Bool) : Expr → Expr
      | .mk t _ fs => .mk t negated fs
    (do
      let negated ← notWord
      return negate negated (← containment steps <|> comparison steps))
    <|> (do
      word "("
      gap
      let e ← logic steps
      token ")"
      return negate false e)

def logic : (steps : Nat) → Parser Expr
  | 0 => failure
  | steps + 1 => do
    let first ← logicValue steps
    let others ← many do
      let isOr ← (do token "or"; return true) <|> (do token "and"; return false)
      gap1
      return (isOr, ← logicValue steps)
    return joinLogic none first others

def arrayExpr : (steps : Nat) → Parser Expr
  | 0 => failure
  | steps + 1 => do
    word "["
    gap
    let items ← optional do
      let first ← logicValue steps
      let others ← many do
        token ","
        gap
        logicValue steps
      return first :: others
    let _ ← optional (token ",")
    token "]"
    return .mk (.array (items.getD [])) false (← filters steps)

def logicOrArray : (steps : Nat) → Parser Expr
  | 0 => failure
  | steps + 1 => logic steps <|> arrayExpr steps

end

end Grammar

end Stencil.Statement
