import Stencil.Double

/-!
# Fixed numbers of digits

Finite numbers with a given number of decimal places or of significant digits. What lies between two
such numbers goes to the nearer one, and a half goes to the even one.
-/

namespace Stencil.Double

/-- A quotient rounded to the nearest number, a half to the even one. -/
def roundedQuotient (numerator denominator : Nat) : Nat :=
  let q := numerator / denominator
  let r := numerator % denominator
  if 2 * r > denominator || (2 * r == denominator && q % 2 == 1) then q + 1 else q

def quotient (x : Double) : Nat × Nat :=
  if x.exponent ≥ 0 then (x.significand * Nat.pow 2 x.exponent.toNat, 1)
  else (x.significand, Nat.pow 2 (-x.exponent).toNat)

def scaledBy (x : Double) (power : Int) : Nat :=
  let (n, d) := x.quotient
  if power ≥ 0 then roundedQuotient (n * Nat.pow 10 power.toNat) d
  else roundedQuotient n (d * Nat.pow 10 (-power).toNat)

/-- The decimal exponent of the first digit that is not zero. -/
def decimalExponent (x : Double) : Int :=
  let (n, d) := x.quotient
  if n == 0 then 0
  else if n ≥ d then (Nat.toDigits 10 (n / d)).length - 1
  else
    let zeros := (Nat.toDigits 10 ((d - 1) / n)).length
    -- the quotient `d / n` has as many digits as there are places up to the first digit
    if n * Nat.pow 10 zeros ≥ d then -(zeros : Int) else -(zeros : Int) - 1

def paddedDigits (length n : Nat) : List Char :=
  let ds := Nat.toDigits 10 n
  List.replicate (length - ds.length) '0' ++ ds

def fixed (x : Double) (places : Nat) : List Char :=
  let ds := paddedDigits (places + 1) (x.scaledBy places)
  let whole := ds.take (ds.length - places)
  if places == 0 then whole else whole ++ '.' :: ds.drop whole.length

/-- The digits of the magnitude as many as told, and the exponent of the first one. -/
def leadingDigits (x : Double) (count : Nat) : List Char × Int :=
  let e := x.decimalExponent
  let n := x.scaledBy (count - 1 - e)
  if n ≥ Nat.pow 10 count then (Nat.toDigits 10 (n / 10), e + 1) else (paddedDigits count n, e)

def exponentText (mark : Char) (e : Int) : List Char :=
  mark :: (if e < 0 then '-' else '+') :: paddedDigits 2 e.natAbs

/-- The magnitude with one digit before the point and a number of places after it. -/
def scientific (x : Double) (mark : Char) (places : Nat) : List Char :=
  let (ds, e) := x.leadingDigits (places + 1)
  ds.take 1 ++ (if places == 0 then [] else '.' :: ds.drop 1) ++ exponentText mark e

/-- The magnitude with a number of significant digits, in the shorter of the two notations. Zeros at
its end are dropped unless they are to be kept. -/
def general (x : Double) (mark : Char) (digits : Nat) (keepZeros : Bool) : List Char :=
  let digits := max digits 1
  let (ds, e) := x.leadingDigits digits
  let strip (cs : List Char) : List Char :=
    if keepZeros || !cs.contains '.' then cs
    else ((cs.reverse.dropWhile (· == '0')).dropWhile (· == '.')).reverse
  if e < -4 || e ≥ digits then
    strip (ds.take 1 ++ (if digits == 1 then [] else '.' :: ds.drop 1)) ++ exponentText mark e
  else strip (x.fixed (digits - 1 - e).toNat)

end Stencil.Double
