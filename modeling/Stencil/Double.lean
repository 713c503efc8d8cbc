/-!
# Double precision numbers

A number of double precision is its IEEE 754 bit pattern, so that two of them can be told apart and
their exact values are at hand; arithmetic goes through the hardware's numbers.
-/

namespace Stencil

structure Double where
  bits : UInt64
  deriving DecidableEq, Repr, Inhabited

namespace Double

def toFloat (x : Double) : Float :=
  Float.ofBits x.bits

def ofFloat (x : Float) : Double :=
  ⟨x.toBits⟩

def negative (x : Double) : Bool :=
  x.bits.toNat ≥ Nat.pow 2 63

def exponentField (x : Double) : Nat :=
  x.bits.toNat / Nat.pow 2 52 % Nat.pow 2 11

def fractionField (x : Double) : Nat :=
  x.bits.toNat % Nat.pow 2 52

def isNaN (x : Double) : Bool :=
  x.exponentField == 2047 && x.fractionField != 0

def isFinite (x : Double) : Bool :=
  x.exponentField != 2047

def isZero (x : Double) : Bool :=
  x.exponentField == 0 && x.fractionField == 0

/-- The magnitude of a finite number is `significand * 2 ^ exponent`. -/
def significand (x : Double) : Nat :=
  if x.exponentField == 0 then x.fractionField else Nat.pow 2 52 + x.fractionField

def exponent (x : Double) : Int :=
  (if x.exponentField == 0 then 1 else x.exponentField : Int) - 1075

/-- Equality of values: the zeros are equal and a NaN differs from everything. -/
def equals (x y : Double) : Bool :=
  !x.isNaN && !y.isNaN && (x.bits == y.bits || (x.isZero && y.isZero))

def less (x y : Double) : Bool :=
  x.toFloat < y.toFloat

/-- The order of an integer and a number by their exact values. -/
def orderFrom? (n : Int) (x : Double) : Option Ordering :=
  let m : Int := if x.negative then -x.significand else x.significand
  if x.isNaN then none
  else if !x.isFinite then some (if x.negative then .gt else .lt)
  else if x.exponent ≥ 0 then some (compare n (m * Nat.pow 2 x.exponent.toNat))
  else some (compare (n * Nat.pow 2 (-x.exponent).toNat) m)

/-- Whether a number may stand before another one when numbers are sorted; minus zero stands before
zero. -/
def sortsBefore (x y : Double) : Bool :=
  !y.less x && (!(x.isZero && y.isZero) || x.negative || !y.negative)

def zero : Double := ⟨0⟩

def ofInt (n : Int) : Double :=
  ofFloat (Float.ofInt n)

def ofDecimal (isNegative : Bool) (digits : Nat) (power : Int) : Double :=
  let x :=
    if power ≥ 0 then
      -- beyond this power every positive number is too large
      if digits = 0 then 0.0 else Float.ofScientific digits false (min power.toNat 400)
    else
      -- below this power every number with these digits is too small
      let bound := 400 + (Nat.toDigits 10 digits).length
      Float.ofScientific digits true (min (-power).toNat bound)
  if isNegative then ofFloat (-x) else ofFloat x

/-- The integer next to a number, toward zero. An infinity counts as a number just beyond the finite
ones. -/
def truncated (x : Double) : Int :=
  let n :=
    if x.exponent ≥ 0 then x.significand * Nat.pow 2 x.exponent.toNat
    else x.significand / Nat.pow 2 (-x.exponent).toNat
  if x.negative then -n else n

def toInt? (x : Double) : Option Int :=
  if !x.isFinite then none
  else
    let sign (n : Nat) : Int := if x.negative then -n else n
    if x.exponent ≥ 0 then some (sign (x.significand * Nat.pow 2 x.exponent.toNat))
    else
      let unit := Nat.pow 2 (-x.exponent).toNat
      if x.significand % unit == 0 then some (sign (x.significand / unit)) else none

/-- The remainder of a division that is rounded toward zero; it has the sign of the dividend. -/
def rem (x y : Double) : Double :=
  if !x.isFinite || y.isNaN || y.isZero then ofFloat (0.0 / 0.0)
  else if !y.isFinite || x.isZero then x
  else
    let low := min x.exponent y.exponent
    let a := x.significand * Nat.pow 2 (x.exponent - low).toNat
    let b := y.significand * Nat.pow 2 (y.exponent - low).toNat
    -- the remainder has no bits beyond those of the two numbers, so scaling is exact
    let r := Float.scaleB (Float.ofNat (a % b)) low
    if x.negative then ofFloat (-r) else ofFloat r

end Double

end Stencil
