/-!
# Sets of characters

A set of characters is written down as runs of code points, so that the Unicode properties which the
library needs fit into small tables.
-/

namespace Stencil

/-- A set of characters given by runs `(first, last, step)` of code points. -/
structure CharSet where
  runs : List (Nat × Nat × Nat)

namespace CharSet

def hasCodePoint (s : CharSet) (n : Nat) : Bool :=
  s.runs.any fun (first, last, step) => first ≤ n && n ≤ last && (n - first) % step == 0

def contains (s : CharSet) (c : Char) : Bool :=
  s.hasCodePoint c.toNat

end CharSet

end Stencil
