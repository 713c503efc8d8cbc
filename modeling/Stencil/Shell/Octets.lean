import Stencil.Text.Utf8

/-!
# Octets

The shell and its programs work on bytes. A text of bytes is a list of characters below 256, each
standing for the byte with its number, so that the signs of ASCII can be written as they are.
-/

namespace Stencil.Shell

/-- A text of bytes, each as the character with its number. -/
abbrev Octets := List Char

namespace Octets

def ofByte (b : UInt8) : Char :=
  Char.ofNat b.toNat

def ofBytes (bs : List UInt8) : Octets :=
  bs.map ofByte

def toBytes (s : Octets) : List UInt8 :=
  s.map fun c => UInt8.ofNat c.toNat

def ofText (s : String) : Octets :=
  ofBytes s.toUTF8.toList

def text (s : Octets) : String :=
  String.ofList (decodeUtf8 (toBytes s))

def ofByteArray (content : ByteArray) : Octets :=
  ofBytes content.toList

def toByteArray (s : Octets) : ByteArray :=
  ⟨(toBytes s).toArray⟩

def ofNat (n : Nat) : Octets :=
  (toString n).toList

def ofInt (n : Int) : Octets :=
  (toString n).toList

def lines (s : Octets) : List Octets :=
  let rec go (line : Octets) : Octets → List Octets
    | [] => if line.isEmpty then [] else [line.reverse]
    | c :: cs => if c == '\n' then line.reverse :: go [] cs else go (c :: line) cs
  go [] s

def le (s t : Octets) : Bool :=
  match s, t with
  | [], _ => true
  | _ :: _, [] => false
  | a :: s, b :: t => a.toNat < b.toNat || (a == b && le s t)

/-- A decimal number, which may have a sign before its digits, and what follows it. -/
def leadingInt? (s : Octets) : Option (Int × Octets) :=
  let (negative, digits) := match s with
    | '-' :: ds => (true, ds)
    | '+' :: ds => (false, ds)
    | ds => (false, ds)
  let taken := digits.takeWhile Char.isDigit
  if taken.isEmpty then none
  else
    let n : Nat := taken.foldl (fun n d => n * 10 + (d.toNat - '0'.toNat)) 0
    some (if negative then -(n : Int) else n, digits.dropWhile Char.isDigit)

def int? (s : Octets) : Option Int :=
  match leadingInt? s with
  | some (n, []) => some n
  | _ => none

def nat? (s : Octets) : Option Nat :=
  if s.isEmpty || !s.all Char.isDigit then none
  else some (s.foldl (fun n d => n * 10 + (d.toNat - '0'.toNat)) 0)

end Octets

inductive Status where
  | exited (code : Nat)
  | killed (signal : Nat)
  deriving DecidableEq, Repr, Inhabited

namespace Status

def success : Status := .exited 0

def code : Status → Nat
  | exited n => n
  | killed signal => 128 + signal

end Status

end Stencil.Shell
