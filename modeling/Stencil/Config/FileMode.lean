import Stencil.Text.CharClass
import Stencil.Text.Search

/-!
# File modes

Permissions given as a text: octal digits, with blanks around them, any number of `0o` and one plus
sign before them allowed.
-/

namespace Stencil

inductive FileModeFlaw where
  | empty
  | invalidDigit
  | tooLarge
  deriving DecidableEq, Repr

def FileModeFlaw.message : FileModeFlaw → String
  | empty => "cannot parse integer from empty string"
  | invalidDigit => "invalid digit found in string"
  | tooLarge => "number too large to fit in target type"

namespace FileMode

def octalDigit? (c : Char) : Option Nat :=
  if '0' ≤ c ∧ c ≤ '7' then some (c.toNat - '0'.toNat) else none

/-- The number that the digits continue `n` to; it has to stay below `2 ^ 32`. -/
def readDigits (n : Nat) : List Char → Except FileModeFlaw Nat
  | [] => .ok n
  | c :: cs =>
    match octalDigit? c with
    | none => .error .invalidDigit
    | some d => if n * 8 + d < Nat.pow 2 32 then readDigits (n * 8 + d) cs else .error .tooLarge

def readNumber : List Char → Except FileModeFlaw Nat
  | [] => .error .empty
  | ['+'] => .error .invalidDigit
  | '+' :: cs => readDigits 0 cs
  | cs => readDigits 0 cs

def parse (text : List Char) : Except FileModeFlaw UInt32 :=
  (readNumber (dropCopies ['0', 'o'] (trimBy isBlank text))).map .ofNat

end FileMode

end Stencil
