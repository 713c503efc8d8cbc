/-!
# Text from bytes

Decodes UTF-8 and puts a replacement character in the place of what is not UTF-8.
-/

namespace Stencil

def replacementChar : Char := '\ufffd'

def isContinuation (b : UInt8) : Bool :=
  0x80 ≤ b && b ≤ 0xbf

/-- The bytes that may come second after a first byte of a longer sequence. -/
def maySecond (first second : UInt8) : Bool :=
  if first == 0xe0 then 0xa0 ≤ second && second ≤ 0xbf
  else if first == 0xed then 0x80 ≤ second && second ≤ 0x9f
  else if first == 0xf0 then 0x90 ≤ second && second ≤ 0xbf
  else if first == 0xf4 then 0x80 ≤ second && second ≤ 0x8f
  else isContinuation second

def low6 (b : UInt8) : Nat :=
  b.toNat % 64

/-- The character that begins with a byte, and how many of the bytes after it belong to it. Of a
sequence that breaks off, all that could have begun a character belongs to one replacement
character. -/
def charFrom (a : UInt8) (rest : List UInt8) : Char × Nat :=
  if a < 0x80 then (Char.ofNat a.toNat, 0)
  else if a < 0xc2 || a > 0xf4 then (replacementChar, 0)
  else
    match rest with
    | [] => (replacementChar, 0)
    | b :: rest =>
      if !maySecond a b then (replacementChar, 0)
      else if a < 0xe0 then (Char.ofNat ((a.toNat % 32) * 64 + low6 b), 1)
      else
        match rest with
        | [] => (replacementChar, 1)
        | c :: rest =>
          if !isContinuation c then (replacementChar, 1)
          else if a < 0xf0 then
            (Char.ofNat (((a.toNat % 16) * 64 + low6 b) * 64 + low6 c), 2)
          else
            match rest with
            | [] => (replacementChar, 2)
            | d :: _ =>
              if !isContinuation d then (replacementChar, 2)
              else
                (Char.ofNat ((((a.toNat % 8) * 64 + low6 b) * 64 + low6 c) * 64 + low6 d), 3)

def decodeUtf8 : List UInt8 → List Char
  | [] => []
  | a :: rest => (charFrom a rest).1 :: decodeUtf8 (rest.drop (charFrom a rest).2)
termination_by bytes => bytes.length
decreasing_by
  simp only [List.length_drop, List.length_cons]
  omega

end Stencil
