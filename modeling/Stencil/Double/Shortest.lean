import Stencil.Double

/-!
# Shortest decimals

The decimal with the fewest digits that reads back as a given number, the nearest one to the number
if there are two, and two ways of writing it down.
-/

namespace Stencil

/-- The decimal `digits * 10 ^ power`. -/
structure Decimal where
  digits : Nat
  power : Int
  deriving DecidableEq, Repr

structure Ratio where
  num : Nat
  den : Nat

namespace Ratio

def ofBinary (n : Nat) (e : Int) : Ratio :=
  if e ≥ 0 then ⟨n * Nat.pow 2 e.toNat, 1⟩ else ⟨n, Nat.pow 2 (-e).toNat⟩

def ofDecimal (n : Nat) (e : Int) : Ratio :=
  if e ≥ 0 then ⟨n * Nat.pow 10 e.toNat, 1⟩ else ⟨n, Nat.pow 10 (-e).toNat⟩

def less (x y : Ratio) : Bool :=
  x.num * y.den < y.num * x.den

/-- How often `10 ^ e` goes into the fraction. -/
def floorAt (x : Ratio) (e : Int) : Nat :=
  if e ≥ 0 then x.num / (x.den * Nat.pow 10 e.toNat) else x.num * Nat.pow 10 (-e).toNat / x.den

/-- The power of ten above the fraction, for fractions above `10 ^ -400`. -/
def decimalOrder (x : Ratio) : Int :=
  (Nat.toDigits 10 (x.num * Nat.pow 10 400 / x.den)).length - 400

def distance (x y : Ratio) : Ratio :=
  let a := x.num * y.den
  let b := y.num * x.den
  ⟨if a ≤ b then b - a else a - b, x.den * y.den⟩

end Ratio

namespace Double

/-- The interval of reals that round to a finite positive number, and whether its ends belong to
it. -/
structure Interval where
  low : Ratio
  high : Ratio
  closed : Bool

def Interval.has (i : Interval) (x : Ratio) : Bool :=
  if i.closed then !x.less i.low && !i.high.less x else i.low.less x && x.less i.high

def magnitude (x : Double) : Ratio :=
  Ratio.ofBinary x.significand x.exponent

def interval (x : Double) : Interval :=
  let m := 4 * x.significand
  -- below a power of two the numbers lie twice as close
  let gap := if x.significand == Nat.pow 2 52 && x.exponentField > 1 then 1 else 2
  { low := Ratio.ofBinary (m - gap) (x.exponent - 2)
    high := Ratio.ofBinary (m + 2) (x.exponent - 2)
    closed := x.significand % 2 == 0 }

/-- The decimal of the grid `10 ^ e` that is nearest to `v` among those in the interval. -/
def gridHit? (v : Ratio) (i : Interval) (e : Int) : Option Decimal :=
  let below := v.floorAt e
  let lo := Ratio.ofDecimal below e
  let hi := Ratio.ofDecimal (below + 1) e
  if i.has lo && below > 0 then
    if i.has hi && (v.distance hi).less (v.distance lo) then some ⟨below + 1, e⟩
    else some ⟨below, e⟩
  else if i.has hi then some ⟨below + 1, e⟩
  else none

/-- The first hit among `steps` grids, from that of `10 ^ e` to finer ones. -/
def firstHit (v : Ratio) (i : Interval) (e : Int) : (steps : Nat) → Decimal
  | 0 => ⟨v.floorAt e, e⟩
  | steps + 1 =>
    match gridHit? v i e with
    | some d => d
    | none => firstHit v i (e - 1) steps

def shortest (x : Double) : Decimal :=
  if x.isZero then ⟨0, 0⟩
  else firstHit x.magnitude x.interval x.magnitude.decimalOrder 20

private def signText (x : Double) : List Char :=
  if x.negative then ['-'] else []

/-- All digits before and after the point, without an exponent; a whole number has no point. -/
def positional (x : Double) : List Char :=
  if x.isNaN then "NaN".toList
  else if !x.isFinite then x.signText ++ "inf".toList
  else
    let d := x.shortest
    let digits := Nat.toDigits 10 d.digits
    let body :=
      if d.power ≥ 0 then digits ++ (if x.isZero then [] else List.replicate d.power.toNat '0')
      else
        let places := (-d.power).toNat
        if digits.length > places then
          digits.take (digits.length - places) ++ '.' :: digits.drop (digits.length - places)
        else "0.".toList ++ List.replicate (places - digits.length) '0' ++ digits
    x.signText ++ body

/-- The form in which data notations write a number: it has a point or an exponent, and an exponent
with its sign where the first digit stands for `10 ^ 16` or more or for less than `10 ^ -5`. -/
def notated (x : Double) : List Char :=
  if x.isZero then x.signText ++ "0.0".toList
  else
    let d := x.shortest
    let digits := Nat.toDigits 10 d.digits
    let order : Int := digits.length + d.power
    let body :=
      if d.power ≥ 0 && order ≤ 16 then
        digits ++ List.replicate d.power.toNat '0' ++ ".0".toList
      else if 0 < order && order ≤ 16 then
        digits.take order.toNat ++ '.' :: digits.drop order.toNat
      else if -5 < order && order ≤ 0 then
        "0.".toList ++ List.replicate (-order).toNat '0' ++ digits
      else
        let power := 'e' :: (if order > 0 then ['+'] else []) ++ (toString (order - 1)).toList
        match digits with
        | [] => power
        | [one] => one :: power
        | first :: others => first :: '.' :: others ++ power
    x.signText ++ body

end Double

end Stencil
