import Stencil.Double.Scaled
import Stencil.Json
import Stencil.Text.Parser

/-!
# JSON notation

Reads the texts of JSON values.
-/

namespace Stencil.Json.Notation

open Stencil.Parser

def hexDigit? (c : Char) : Option Nat :=
  if c.isDigit then some (c.toNat - '0'.toNat)
  else if 'a' ≤ c ∧ c ≤ 'f' then some (c.toNat - 'a'.toNat + 10)
  else if 'A' ≤ c ∧ c ≤ 'F' then some (c.toNat - 'A'.toNat + 10)
  else none

def unit? (a b c d : Char) : Option Nat := do
  some ((((← hexDigit? a) * 16 + (← hexDigit? b)) * 16 + (← hexDigit? c)) * 16 + (← hexDigit? d))

def char? (n : Nat) : Option Char :=
  if h : n.isValidChar then some (Char.ofNatAux n h) else none

def pair? (high low : Nat) : Option Char :=
  if 0xD800 ≤ high ∧ high < 0xDC00 ∧ 0xDC00 ≤ low ∧ low < 0xE000 then
    char? (0x10000 + (high - 0xD800) * 1024 + (low - 0xDC00))
  else none

def escape? (c : Char) : Option Char :=
  match c with
  | '"' | '\\' | '/' => some c
  | 'b' => some '\x08'
  | 'f' => some '\x0c'
  | 'n' => some '\n'
  | 'r' => some '\r'
  | 't' => some '\t'
  | _ => none

def text? : List Char → Option (List Char × List Char)
  | [] => none
  | '"' :: cs => some ([], cs)
  | '\\' :: 'u' :: a :: b :: c :: d :: '\\' :: 'u' :: a' :: b' :: c' :: d' :: cs => do
    let first ← unit? a b c d
    match char? first with
    | some ch =>
      let (s, rest) ← text? ('\\' :: 'u' :: a' :: b' :: c' :: d' :: cs)
      some (ch :: s, rest)
    | none =>
      let ch ← pair? first (← unit? a' b' c' d')
      let (s, rest) ← text? cs
      some (ch :: s, rest)
  | '\\' :: 'u' :: a :: b :: c :: d :: cs => do
    let ch ← char? (← unit? a b c d)
    let (s, rest) ← text? cs
    some (ch :: s, rest)
  | '\\' :: c :: cs => do
    let ch ← escape? c
    let (s, rest) ← text? cs
    some (ch :: s, rest)
  | c :: cs => do
    if c.toNat < 32 then none
    let (s, rest) ← text? cs
    some (c :: s, rest)

def string : Parser String := do
  word "\""
  match text? (← get) with
  | some (s, rest) =>
    set rest
    return String.ofList s
  | none => failure

def wholeDigits : Parser (List Char) := do
  match ← get with
  | '0' :: cs =>
    set cs
    return ['0']
  | _ => span1 Char.isDigit

def digitsValue (cs : List Char) : Nat :=
  cs.foldl (fun n c => n * 10 + (c.toNat - '0'.toNat)) 0

def exponent : Parser Int := do
  word "e" <|> word "E"
  let minus ← fits (word "-")
  if !minus then let _ ← fits (word "+")
  let n : Int := digitsValue (← span1 Char.isDigit)
  return if minus then -n else n

/-- A number is whole if it is written without fraction and exponent and has 64 bits, with or
without a sign; minus zero is not whole. A number that is too large for a double is refused. -/
def number : Parser Json := do
  let minus ← fits (word "-")
  let whole ← wholeDigits
  let fraction ← optional do
    word "."
    span1 Char.isDigit
  let power ← optional exponent
  let digits := digitsValue whole
  let n : Int := if minus then -digits else digits
  if fraction.isNone && power.isNone && minInt ≤ n && n < Nat.pow 2 64 && !(minus && digits == 0) then
    return .int n
  else
    match Double.ofDigits? minus whole (fraction.getD []) (power.getD 0) with
    | some x => return .float x
    | none => failure

mutual

def value : (steps : Nat) → Parser Json
  | 0 => failure
  | steps + 1 => do
    gap
    (do word "null"; return .null) <|> (do word "true"; return .bool true) <|>
      (do word "false"; return .bool false) <|> (do return .str (← string)) <|> number <|>
      (do
        word "["
        let first ← optional (value steps)
        match first with
        | some v =>
          let others ← many do
            token ","
            value steps
          token "]"
          return .arr (v :: others)
        | none =>
          token "]"
          return .arr []) <|>
      (do
        word r"{"
        let first ← optional (field steps)
        match first with
        | some f =>
          let others ← many do
            token ","
            field steps
          token r"}"
          return .object (f :: others)
        | none =>
          token r"}"
          return .obj [])

def field : (steps : Nat) → Parser (String × Json)
  | 0 => failure
  | steps + 1 => do
    gap
    let key ← string
    token ":"
    return (key, ← value steps)

end

end Notation

def numberOfNotation? (s : List Char) : Option Json := do
  let (v, rest) ← Notation.number.run s
  if rest.isEmpty then some v else none

def read : Parser Json := do
  Notation.value ((← get).length + 1)

def ofNotation? (s : List Char) : Option Json := do
  let (v, rest) ← read.run s
  if rest.all Parser.isGap then some v else none

end Stencil.Json
