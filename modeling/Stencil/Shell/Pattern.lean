import Stencil.Shell.Octets

/-!
# File name patterns

Patterns as they stand in case distinctions, in the trimming of parameters and for names of files. A
character that was quoted stands for itself.
-/

namespace Stencil.Shell

inductive BracketItem where
  | range (low high : Char)
  | cls (name : String)
  deriving DecidableEq, Repr

inductive PatternItem where
  | char (c : Char)
  | any
  | many
  | bracket (negated : Bool) (items : List BracketItem)
  deriving DecidableEq, Repr

abbrev Pattern := List PatternItem

def inClass (name : String) (c : Char) : Bool :=
  let n := c.toNat
  match name with
  | "alpha" => c.isAlpha
  | "digit" => c.isDigit
  | "alnum" => c.isAlphanum
  | "upper" => c.isUpper
  | "lower" => c.isLower
  | "space" => n == 32 || (9 ≤ n && n ≤ 13)
  | "blank" => n == 32 || n == 9
  | "punct" => 33 ≤ n && n ≤ 126 && !c.isAlphanum
  | "print" => 32 ≤ n && n ≤ 126
  | "graph" => 33 ≤ n && n ≤ 126
  | "cntrl" => n < 32 || n == 127
  | "xdigit" => c.isDigit || ('a' ≤ c && c ≤ 'f') || ('A' ≤ c && c ≤ 'F')
  | _ => false

def classNames : List String :=
  ["alpha", "digit", "alnum", "upper", "lower", "space", "blank", "punct", "print", "graph", "cntrl",
    "xdigit"]

namespace BracketItem

def holds (i : BracketItem) (c : Char) : Bool :=
  match i with
  | range low high => low ≤ c && c ≤ high
  | cls name => inClass name c

end BracketItem

namespace Pattern

abbrev Cell := Char × Bool

def className? (cs : List Cell) : Option (String × List Cell) :=
  classNames.findSome? fun name =>
    let sign := (":" ++ name ++ ":]").toList
    if (cs.map (·.1)).take sign.length == sign then some (name, cs.drop sign.length) else none

/-- The items of a set up to its closing bracket, which may stand first as an item; at most `count`
of them. -/
def bracketItems (first : Bool) : (count : Nat) → List Cell → Option (List BracketItem × List Cell)
  | 0, _ => none
  | _, [] => none
  | count + 1, (c, quoted) :: cs =>
    if c == ']' && !quoted && !first then some ([], cs)
    else
      match if c == '[' && !quoted then className? cs else none with
      | some (name, rest) => do
        let (items, rest) ← bracketItems false count rest
        some (.cls name :: items, rest)
      | none =>
        match cs with
        | ('-', false) :: (d, q) :: rest =>
          if d == ']' && !q then do
            let (items, rest) ← bracketItems false count cs
            some (.range c c :: items, rest)
          else do
            let (items, rest) ← bracketItems false count rest
            some (.range c d :: items, rest)
        | _ => do
          let (items, rest) ← bracketItems false count cs
          some (.range c c :: items, rest)

def bracket? (cs : List Cell) : Option (PatternItem × List Cell) := do
  let (negated, inner) := match cs with
    | ('!', false) :: rest | ('^', false) :: rest => (true, rest)
    | _ => (false, cs)
  let (items, rest) ← bracketItems true (inner.length + 1) inner
  some (.bracket negated items, rest)

def parse : (count : Nat) → List Cell → Pattern
  | 0, _ => []
  | _, [] => []
  | count + 1, (c, true) :: cs => .char c :: parse count cs
  | count + 1, (c, false) :: cs =>
    if c == '*' then .many :: parse count cs
    else if c == '?' then .any :: parse count cs
    else if c == '[' then
      match bracket? cs with
      | some (item, rest) => item :: parse count rest
      | none => .char c :: parse count cs
    else if c == '\\' then
      match cs with
      | (d, _) :: rest => .char d :: parse count rest
      | [] => [.char c]
    else .char c :: parse count cs

def ofCells (cs : List Cell) : Pattern :=
  parse cs.length cs

def hasSigns (cs : List Cell) : Bool :=
  cs.any fun (c, quoted) => !quoted && (c == '*' || c == '?' || c == '[')

def itemHolds (i : PatternItem) (c : Char) : Bool :=
  match i with
  | .char d => c == d
  | .any => true
  | .many => false
  | .bracket negated items => items.any (·.holds c) != negated

def fits : Pattern → Octets → Bool
  | [], s => s.isEmpty
  | .many :: p, [] => fits p []
  | .many :: p, c :: s => fits p (c :: s) || fits (.many :: p) s
  | i :: p, c :: s => itemHolds i c && fits p s
  | _ :: _, [] => false
termination_by p s => (p.length, s.length)

def trim (p : Pattern) (atStart longest : Bool) (s : Octets) : Octets :=
  let lengths := List.range (s.length + 1)
  let lengths := if longest then lengths.reverse else lengths
  if atStart then
    match lengths.find? fun n => fits p (s.take n) with
    | some n => s.drop n
    | none => s
  else
    match lengths.find? fun n => fits p (s.drop (s.length - n)) with
    | some n => s.take (s.length - n)
    | none => s

end Pattern

end Stencil.Shell
