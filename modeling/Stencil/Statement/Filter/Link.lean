import Stencil.Statement.Filter.Text

/-!
# Filters for links

Texts as parts of addresses: with their signs encoded, or as names of ASCII letters.
-/

namespace Stencil.Statement.Filter

/-! ## Encoded signs -/

def encodedByte (b : UInt8) : List Char :=
  let digits := (Nat.toDigits 16 b.toNat).map Char.toUpper
  '%' :: List.replicate (2 - digits.length) '0' ++ digits

def encodeOutside (keeps : Char → Bool) (cs : List Char) : List Char :=
  cs.flatMap fun c =>
    if keeps c then [c] else (String.ofList [c]).toUTF8.toList.flatMap encodedByte

/-- The signs that stand in an address as they are, beside letters and digits of ASCII. -/
def addressSigns : List Char :=
  ['-', '_', '.', '~', '/', '%']

/-! ## Names -/

/-- Letters beside ASCII, in the order of their code points from U+00C0 on, with the letters of
ASCII that stand for them. -/
def plainLetters : List String :=
  ["A", "A", "A", "A", "A", "A", "AE", "C", "E", "E", "E", "E", "I", "I", "I", "I",
    "D", "N", "O", "O", "O", "O", "O", "x", "O", "U", "U", "U", "U", "Y", "Th", "ss",
    "a", "a", "a", "a", "a", "a", "ae", "c", "e", "e", "e", "e", "i", "i", "i", "i",
    "d", "n", "o", "o", "o", "o", "o", "/", "o", "u", "u", "u", "u", "y", "th", "y",
    "A", "a", "A", "a", "A", "a", "C", "c", "C", "c", "C", "c", "C", "c", "D", "d",
    "D", "d", "E", "e", "E", "e", "E", "e", "E", "e", "E", "e", "G", "g", "G", "g",
    "G", "g", "G", "g", "H", "h", "H", "h", "I", "i", "I", "i", "I", "i", "I", "i",
    "I", "i", "IJ", "ij", "J", "j", "K", "k", "k", "L", "l", "L", "l", "L", "l", "L",
    "l", "L", "l", "N", "n", "N", "n", "N", "n", "'n", "NG", "ng", "O", "o", "O", "o",
    "O", "o", "OE", "oe", "R", "r", "R", "r", "R", "r", "S", "s", "S", "s", "S", "s",
    "S", "s", "T", "t", "T", "t", "T", "t", "U", "u", "U", "u", "U", "u", "U", "u",
    "U", "u", "U", "u", "W", "w", "Y", "y", "Y", "Z", "z", "Z", "z", "Z", "z", "s"]

/-- A character in ASCII; a dash if none stands for it. -/
def plain (c : Char) : List Char :=
  if c.toNat < 128 then [c]
  else if c.toNat < 0xC0 then ['-']
  else (plainLetters[c.toNat - 0xC0]?.getD "-").toList

/-- A text as a name: letters and digits in lower case, and dashes between them. -/
def slug (cs : List Char) : List Char :=
  let words := ((cs.flatMap plain).map Char.toLower).splitBy fun a b => a.isAlphanum && b.isAlphanum
  List.intercalate ['-'] (words.filter fun w => (w.head?.map Char.isAlphanum).getD false)

def link? : String → Option Filter
  | "urlencode" => some fun v _ =>
    onText (encodeOutside fun c => (c.toNat < 128 && c.isAlphanum) || addressSigns.contains c) v
  | "urlencode_strict" => some fun v _ =>
    onText (encodeOutside fun c => c.toNat < 128 && c.isAlphanum) v
  | "slugify" => some fun v _ => onText slug v
  | _ => none

end Stencil.Statement.Filter
