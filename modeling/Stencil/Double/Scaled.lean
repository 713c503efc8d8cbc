import Stencil.Double

/-!
# Reading numbers in bounded precision

The JSON notation is read with as many leading digits as fit into 64 bits. They are rounded to a
double, and scaling that by a power of ten rounds again, so the result may differ from the double
nearest to the number that is written.
-/

namespace Stencil.Double

/-- The number that follows `n` when digits are written after it, as long as it stays below `2 ^
64`, and the digits that are left out. -/
def appendDigits (n : Nat) : List Char → Nat × List Char
  | [] => (n, [])
  | c :: cs =>
    let m := n * 10 + (c.toNat - '0'.toNat)
    if m < Nat.pow 2 64 then appendDigits m cs else (n, c :: cs)

def powerOfTen (n : Nat) : Float :=
  Float.ofScientific 1 false n

/-- Divides by a power of ten, in steps that are powers of ten themselves. -/
def scaleDown (x : Float) (power : Nat) : Float :=
  if power ≤ 308 then x / powerOfTen power
  else if x == 0 then x
  else scaleDown (x / powerOfTen 308) (power - 308)
termination_by power

/-- A number times a power of ten, unless that is too large. -/
def scaled? (x : Float) (power : Int) : Option Float :=
  if power < 0 then some (scaleDown x (-power).toNat)
  else if x == 0 then some x
  else if power ≤ 308 then
    let y := x * powerOfTen power.toNat
    if y.isInf then none else some y
  else none

/-- The number that is written with the given digits before and after the point, times a power of
ten. -/
def ofDigits? (isNegative : Bool) (whole fraction : List Char) (power : Int) : Option Double := do
  let (n, dropped) := appendDigits 0 whole
  let (n, left) := appendDigits n fraction
  let x ← scaled? (Float.ofNat n) (power + dropped.length - (fraction.length - left.length : Nat))
  some (.ofFloat (if isNegative then -x else x))

end Stencil.Double
