import Stencil.Text.GraphemeBreak

/-!
# Graphemes

A text is cut into extended grapheme clusters, which are what a reader takes for characters: a
letter with its marks, a syllable, an emoji with its modifiers. Nothing is lost by the cut.
-/

namespace Stencil

inductive GraphemeClass where
  | carriageReturn
  | lineFeed
  | control
  | extender
  | joiner
  | spacing
  | prepended
  | regional
  /-- A leading consonant, a vowel and a trailing consonant of Korean. -/
  | leading
  | vowel
  | trailing
  /-- A syllable of Korean without and with a trailing consonant. -/
  | openSyllable
  | closedSyllable
  | pictograph
  | other
  deriving DecidableEq, Repr, Inhabited

namespace GraphemeClass

def of (c : Char) : GraphemeClass :=
  let n := c.toNat
  if n == 13 then carriageReturn
  else if n == 10 then lineFeed
  else if n < 32 then control
  else if n < 127 then other
  else if 0xAC00 ≤ n && n ≤ 0xD7A3 then
    if (n - 0xAC00) % 28 == 0 then openSyllable else closedSyllable
  else if n == 0x200D then joiner
  else if 0x1F1E6 ≤ n && n ≤ 0x1F1FF then regional
  else if (0x1100 ≤ n && n ≤ 0x115F) || (0xA960 ≤ n && n ≤ 0xA97C) then leading
  else if (0x1160 ≤ n && n ≤ 0x11A7) || (0xD7B0 ≤ n && n ≤ 0xD7C6) || n == 0x16D63 ||
      (0x16D67 ≤ n && n ≤ 0x16D6A) then vowel
  else if (0x11A8 ≤ n && n ≤ 0x11FF) || (0xD7CB ≤ n && n ≤ 0xD7FB) then trailing
  else if CharSet.graphemeControl.contains c then control
  else if CharSet.graphemeExtend.contains c then extender
  else if CharSet.spacingMark.contains c then spacing
  else if CharSet.prepended.contains c then prepended
  else if CharSet.pictograph.contains c then pictograph
  else other

def isControl : GraphemeClass → Bool
  | carriageReturn | lineFeed | control => true
  | _ => false

def joins : GraphemeClass → GraphemeClass → Bool
  | carriageReturn, lineFeed => true
  | _, extender | _, joiner | _, spacing => true
  | prepended, _ => true
  | leading, leading | leading, vowel | leading, openSyllable | leading, closedSyllable => true
  | openSyllable, vowel | openSyllable, trailing | vowel, vowel | vowel, trailing => true
  | closedSyllable, trailing | trailing, trailing => true
  | _, _ => false

end GraphemeClass

namespace Grapheme

def isLinker (c : Char) : Bool :=
  let n := c.toNat
  n == 0x94D || n == 0x9CD || n == 0xACD || n == 0xB4D || n == 0xC4D || n == 0xD4D

/-- The progress of a sequence that joins its first character to one like it. -/
inductive Link where
  | none
  | begun
  | linked
  deriving DecidableEq, Repr, Inhabited

/-- What the end of a grapheme tells about the next character: the class of its last one, whether an
odd number of regional indicators ends it, and how far a sequence of pictographs or of consonants
has come. -/
structure Edge where
  last : GraphemeClass
  oddRegionals : Bool
  pictographs : Link
  consonants : Link
  deriving Repr, Inhabited

def Edge.first (c : Char) : Edge :=
  let last := GraphemeClass.of c
  { last
    oddRegionals := last = .regional
    pictographs := if last = .pictograph then .begun else .none
    consonants := if CharSet.conjunctConsonant.contains c then .begun else .none }

def Edge.takes (e : Edge) (c : Char) : Bool :=
  let next := GraphemeClass.of c
  if e.last.isControl || next.isControl then e.last == .carriageReturn && next == .lineFeed
  else
    e.last.joins next || (next == .regional && e.last == .regional && e.oddRegionals) ||
      (next == .pictograph && e.pictographs == .linked) ||
      (e.consonants == .linked && CharSet.conjunctConsonant.contains c)

def Edge.after (e : Edge) (c : Char) : Edge :=
  let new := Edge.first c
  { last := new.last
    oddRegionals := new.oddRegionals && !(e.last == .regional && e.oddRegionals)
    pictographs :=
      match new.last, e.pictographs with
      | .extender, .begun => .begun
      | .joiner, .begun => .linked
      | _, _ => new.pictographs
    consonants :=
      if isLinker c && e.consonants != .none then .linked
      else if new.last = .joiner ∨ (new.last = .extender ∧ c.toNat ≠ 0x200C) then e.consonants
      else new.consonants }

/-- The graphemes of a text that goes on after `seen`, the characters of a grapheme so far, the last
one first. -/
def cutAfter (e : Edge) (seen : List Char) : List Char → List (List Char)
  | [] => [seen.reverse]
  | c :: cs =>
    if e.takes c then cutAfter (e.after c) (c :: seen) cs
    else seen.reverse :: cutAfter (.first c) [c] cs

def cut : List Char → List (List Char)
  | [] => []
  | c :: cs => cutAfter (.first c) [c] cs

end Grapheme

end Stencil
