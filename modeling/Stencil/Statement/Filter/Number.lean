import Stencil.Double.Decimal
import Stencil.Double.Fixed
import Stencil.Statement.Arguments
import Stencil.Text.CharClass

/-!
# Filters on numbers
-/

namespace Stencil.Statement.Filter

def ofDouble (x : Double) : Json :=
  if x.isFinite then .float x else .null

def digitIn? (base : Nat) (c : Char) : Option Nat := do
  let d ←
    if c.isDigit then some (c.toNat - '0'.toNat)
    else if c.isAlpha then some (c.toLower.toNat - 'a'.toNat + 10)
    else none
  if d < base then some d else none

/-- The integer of 64 bits that a text with an optional sign stands for. -/
def intIn? (base : Nat) (cs : List Char) : Option Int := do
  let (minus, digits) := match cs with
    | '-' :: ds => (true, ds)
    | '+' :: ds => (false, ds)
    | ds => (false, ds)
  if digits.isEmpty then none
  let n ← digits.foldlM (fun n c => do some (n * base + (← digitIn? base c))) 0
  (Json.int (if minus then -(n : Int) else n)).int64?

def baseMark : Nat → List Char
  | 2 => ['0', 'b']
  | 8 => ['0', 'o']
  | 16 => ['0', 'x']
  | _ => []

def clamped (x : Double) : Int :=
  if x.isNaN then 0 else max Json.minInt (min Json.maxInt x.truncated)

/-- The integer that a value stands for, if it is a text or a number at all. -/
def integer? (base : Nat) (default : Int) : Json → Option Int
  | .str s =>
    let cs := dropCopies (baseMark base) (trimBy isBlank s.toList)
    match intIn? base cs with
    | some n => some n
    | none =>
      if cs.contains '.' then some ((Double.ofText? (String.ofList cs)).elim default clamped)
      else some default
  | .int n => some (((Json.int n).int64?).getD (clamped (.ofInt n)))
  | .float x => some (clamped x)
  | _ => none

def rounding? : String → Option (Float → Float)
  | "common" => some Float.round
  | "ceil" => some Float.ceil
  | "floor" => some Float.floor
  | _ => none

def roundTo (f : Float → Float) (places : Int) (x : Float) : Float :=
  let unit := if places ≥ 0 then Float.ofScientific 1 false (min places.toNat 400)
    else 1.0 / Float.ofScientific 1 false (min (-places).toNat 400)
  f (unit * x) / unit

/-- How many times 1024 goes into a size, and what is left; `steps` bounds the units. -/
def inUnits : (steps : Nat) → Float → Nat × Float
  | 0, size => (0, size)
  | steps + 1, size =>
    if size.abs < 1024.0 then (0, size)
    else
      let (unit, size) := inUnits steps (size / 1024.0)
      (unit + 1, size)

/-- A size in units of 1024 bytes, with two places if it is not whole. -/
def sizeText (binary : Bool) (bytes : Int) : List Char :=
  let (unit, size) := inUnits 8 (Double.ofInt bytes).toFloat
  let names := if binary then ["B", "KiB", "MiB", "GiB", "TiB", "PiB", "EiB", "ZiB", "YiB"]
    else ["B", "kB", "MB", "GB", "TB", "PB", "EB", "ZB", "YB"]
  let sign : List Char := if size < 0.0 then ['-'] else []
  let places := if size == size.round then 0 else 2
  sign ++ (Double.ofFloat size).fixed places ++ ' ' :: (names[unit]?.getD "").toList

def number? : String → Option Filter
  | "abs" => some fun v _ =>
    match v with
    | .int n => some (.int n.natAbs)
    | .float x => some (.float (.ofFloat x.toFloat.abs))
    | _ => none
  | "round" => some fun v args => do
    let x ← v.double?
    let method ← args.textOr? "method" "common"
    let places ← args.int64Or? "precision" 0
    let f ← rounding? method
    some (ofDouble (.ofFloat (roundTo f places x.toFloat)))
  | "pluralize" => some fun v args => do
    let x ← v.double?
    let plural ← args.textOr? "plural" "s"
    let singular ← args.textOr? "singular" ""
    let distance := (x.toFloat.abs - 1.0).abs
    some (.str (if distance > Float.ofScientific 2220446049250313 true 31 then plural else singular))
  | "filesizeformat" => some fun v args => do
    let binary ← args.boolOr? "binary" false
    some (.str (String.ofList (sizeText binary (← v.int64?))))
  | "int" => some fun v args => do
    let default ← args.int64Or? "default" 0
    let base ← args.natOr? "base" 10
    some (.int (← integer? base default v))
  | "float" => some fun v args => do
    let default ← args.getOr? Json.double? "default" .zero
    match v with
    | .str s =>
      some (ofDouble ((Double.ofText? (String.ofList (trimBy isBlank s.toList))).getD default))
    | v => v.double?.map ofDouble
  | _ => none

end Stencil.Statement.Filter
