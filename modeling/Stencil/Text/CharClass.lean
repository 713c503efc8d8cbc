import Stencil.Text.Alphabetic
import Stencil.Text.Cased
import Stencil.Text.Mark
import Stencil.Text.Numeric

/-!
# Character classes

The classes of characters that the grammars of the library name. Below code point 128 they are given
directly, above it by the Unicode tables.
-/

namespace Stencil

def isBlank (c : Char) : Bool :=
  let n := c.toNat
  (9 ≤ n && n ≤ 13) || n == 32 || n == 0x85 || n == 0xA0 || n == 0x1680 ||
    (0x2000 ≤ n && n ≤ 0x200A) || n == 0x2028 || n == 0x2029 || n == 0x202F || n == 0x205F ||
    n == 0x3000

def isAlphabetic (c : Char) : Bool :=
  if c.toNat < 128 then c.isAlpha else CharSet.alphabetic.contains c

def isNumeric (c : Char) : Bool :=
  if c.toNat < 128 then c.isDigit else CharSet.numeric.contains c

def isAlphanumeric (c : Char) : Bool :=
  isAlphabetic c || isNumeric c

def isWord (c : Char) : Bool :=
  isAlphanumeric c || c == '_'

/-- Characters of a word in the sense of Unicode's regular expressions, which has marks, joiners and
connecting punctuation beside letters and decimal digits. Hook names consist of these. -/
def isUnicodeWord (c : Char) : Bool :=
  if c.toNat < 128 then c.isAlphanum || c == '_'
  else
    let n := c.toNat
    CharSet.alphabetic.contains c || CharSet.mark.contains c || CharSet.decimalDigit.contains c ||
      n == 0x200C || n == 0x200D || n == 0x203F || n == 0x2040 || n == 0x2054 || n == 0xFE33 ||
      n == 0xFE34 || (0xFE4D ≤ n && n ≤ 0xFE4F) || n == 0xFF3F

def isUppercase (c : Char) : Bool :=
  if c.toNat < 128 then c.isUpper else CharSet.uppercase.contains c

def isLowercase (c : Char) : Bool :=
  if c.toNat < 128 then c.isLower else CharSet.lowercase.contains c

def isCased (c : Char) : Bool :=
  isUppercase c || isLowercase c || CharSet.titlecase.contains c

def isCaseIgnorable (c : Char) : Bool :=
  CharSet.caseIgnorable.contains c

def isIdentChar (c : Char) : Bool :=
  c.isAlphanum || c == '_'

def isIdentStart (c : Char) : Bool :=
  c.isAlpha || c == '_'

end Stencil
