import Stencil.Double

/-!
# Reading decimal numbers

The double nearest to a number that is written in decimal notation.
-/

namespace Stencil.Double

def digits? (cs : List Char) : Option Nat :=
  if cs.isEmpty || !cs.all Char.isDigit then none
  else some (cs.foldl (fun n c => n * 10 + (c.toNat - '0'.toNat)) 0)

/-- A decimal number with an optional fraction and exponent, without its sign. -/
def ofUnsigned? (negative : Bool) (cs : List Char) : Option Double := do
  let whole := cs.takeWhile Char.isDigit
  let rest := cs.dropWhile Char.isDigit
  let (fraction, rest) := match rest with
    | '.' :: rest => (rest.takeWhile Char.isDigit, rest.dropWhile Char.isDigit)
    | rest => ([], rest)
  if whole.isEmpty && fraction.isEmpty then failure
  let power : Int ← match rest with
    | [] => pure 0
    | e :: rest =>
      if e == 'e' || e == 'E' then
        match rest with
        | '-' :: ds => do pure (-((← digits? ds) : Int))
        | '+' :: ds => do pure ((← digits? ds) : Int)
        | ds => do pure ((← digits? ds) : Int)
      else failure
  let digits := (digits? (whole ++ fraction)).getD 0
  pure (.ofDecimal negative digits (power - fraction.length))

/-- A decimal number with an optional sign, an infinity or a NaN. -/
def ofText? (s : String) : Option Double :=
  let (negative, unsigned) := match s.toList with
    | '-' :: cs => (true, cs)
    | '+' :: cs => (false, cs)
    | cs => (false, cs)
  let word := String.ofList (unsigned.map Char.toLower)
  if word = "inf" ∨ word = "infinity" then
    some (.ofFloat (if negative then -1.0 / 0.0 else 1.0 / 0.0))
  else if word = "nan" then some (.ofFloat (0.0 / 0.0))
  else ofUnsigned? negative unsigned

end Stencil.Double
