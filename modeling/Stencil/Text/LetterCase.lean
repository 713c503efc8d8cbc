import Stencil.Text.CaseMapping
import Stencil.Text.CharClass

/-!
# Letter case

Upper and lower case of characters and of texts. One character may become several, and a capital
sigma at the end of a word becomes a final sigma.
-/

namespace Stencil

def shiftByRuns (runs : List (Nat × Nat × Nat × Int)) (n : Nat) : Nat :=
  match runs.find? fun (first, last, step, _) => first ≤ n && n ≤ last && (n - first) % step == 0 with
  | some (_, _, _, shift) => (n + shift).toNat
  | none => n

def upperChar (c : Char) : List Char :=
  if c.toNat < 128 then [c.toUpper]
  else
    match upperSpecials.lookup c.toNat with
    | some ns => ns.map Char.ofNat
    | none => [Char.ofNat (shiftByRuns upperRuns c.toNat)]

def lowerChar (c : Char) : List Char :=
  if c.toNat < 128 then [c.toLower]
  else
    match lowerSpecials.lookup c.toNat with
    | some ns => ns.map Char.ofNat
    | none => [Char.ofNat (shiftByRuns lowerRuns c.toNat)]

def upperText (cs : List Char) : List Char :=
  cs.flatMap upperChar

/-- Whether a capital sigma stands at the end of a word: the nearest character before it that counts
is cased, and the nearest one after it is not. -/
def isFinalSigma (before after : List Char) : Bool :=
  let cased (cs : List Char) : Bool :=
    match cs.find? (!isCaseIgnorable ·) with
    | some c => isCased c
    | none => false
  cased before && !cased after

/-- The lower case of a text whose characters before it are `before`, the nearest first. -/
def lowerTextAfter (before : List Char) : List Char → List Char
  | [] => []
  | c :: cs =>
    let low := if c == 'Σ' then [if isFinalSigma before cs then 'ς' else 'σ'] else lowerChar c
    low ++ lowerTextAfter (c :: before) cs

def lowerText (cs : List Char) : List Char :=
  lowerTextAfter [] cs

end Stencil
