/-!
# Searching in texts

Cutting, trimming and replacing in texts given as lists of characters.
-/

namespace Stencil

def dropPrefix? : (pre text : List Char) → Option (List Char)
  | [], text => some text
  | _ :: _, [] => none
  | p :: pre, c :: text => if p = c then dropPrefix? pre text else none

theorem dropPrefix?_eq_some_iff {pre text rest : List Char} :
    dropPrefix? pre text = some rest ↔ text = pre ++ rest := by
  induction pre generalizing text with
  | nil => simp [dropPrefix?, eq_comm]
  | cons p pre ih =>
    cases text with
    | nil => simp [dropPrefix?]
    | cons c text => by_cases h : p = c <;> simp [dropPrefix?, h, ih, eq_comm]

def dropSuffix? (suf text : List Char) : Option (List Char) :=
  (dropPrefix? suf.reverse text.reverse).map List.reverse

def startsWith (pre text : List Char) : Bool :=
  (dropPrefix? pre text).isSome

def endsWith (suf text : List Char) : Bool :=
  (dropSuffix? suf text).isSome

/-- The text before the first occurrence of `pat` and the text after it. -/
def cutAt? (pat : List Char) : List Char → Option (List Char × List Char)
  | [] => if pat.isEmpty then some ([], []) else none
  | c :: cs =>
    match dropPrefix? pat (c :: cs) with
    | some rest => some ([], rest)
    | none => (cutAt? pat cs).map fun (before, after) => (c :: before, after)

theorem eq_append_of_cutAt? {pat text before after : List Char}
    (h : cutAt? pat text = some (before, after)) : text = before ++ pat ++ after := by
  induction text generalizing before with
  | nil =>
    by_cases hp : pat = []
    · simp_all [cutAt?]
    · simp [cutAt?, hp] at h
  | cons c cs ih =>
    simp only [cutAt?] at h
    cases hd : dropPrefix? pat (c :: cs) with
    | some rest =>
      rw [hd] at h
      obtain ⟨rfl, rfl⟩ : [] = before ∧ rest = after := by simpa using h
      simpa using dropPrefix?_eq_some_iff.1 hd
    | none =>
      rw [hd] at h
      cases hc : cutAt? pat cs with
      | none => simp [hc] at h
      | some p =>
        obtain ⟨b, a⟩ := p
        simp only [hc, Option.map_some, Option.some.injEq, Prod.mk.injEq] at h
        obtain ⟨rfl, rfl⟩ := h
        simp [ih hc]

theorem length_after_lt_of_cutAt? {pat text before after : List Char} (hp : pat ≠ [])
    (h : cutAt? pat text = some (before, after)) : after.length < text.length := by
  have := eq_append_of_cutAt? h
  have : 0 < pat.length := List.length_pos_iff.2 hp
  grind

def splitOnChar (sep : Char) : List Char → List (List Char)
  | [] => [[]]
  | c :: cs =>
    match splitOnChar sep cs with
    | [] => [[c]]
    | piece :: pieces => if c = sep then [] :: piece :: pieces else (c :: piece) :: pieces

def trimStart (p : Char → Bool) (cs : List Char) : List Char :=
  cs.dropWhile p

def trimEnd (p : Char → Bool) (cs : List Char) : List Char :=
  (cs.reverse.dropWhile p).reverse

def trimBy (p : Char → Bool) (cs : List Char) : List Char :=
  trimEnd p (trimStart p cs)

def hasInfix (pat text : List Char) : Bool :=
  (cutAt? pat text).isSome

/-- Every occurrence of `pat`, found from the left and without overlap, becomes `new`; an empty
pattern occurs before every character and at the end. -/
def replaceAll (pat new : List Char) (text : List Char) : List Char :=
  if _hp : pat = [] then new ++ text.flatMap (· :: new)
  else
    match _h : cutAt? pat text with
    | none => text
    | some (before, after) => before ++ new ++ replaceAll pat new after
termination_by text.length
decreasing_by exact length_after_lt_of_cutAt? _hp _h

/-- All copies of `pre` at the beginning are dropped. -/
def dropCopies (pre text : List Char) : List Char :=
  if _hp : pre = [] then text
  else
    match _h : dropPrefix? pre text with
    | none => text
    | some rest => dropCopies pre rest
termination_by text.length
decreasing_by
  have := dropPrefix?_eq_some_iff.1 _h
  have : 0 < pre.length := List.length_pos_iff.2 _hp
  grind

def joinWith (sep : List Char) : List (List Char) → List Char
  | [] => []
  | [t] => t
  | t :: ts => t ++ sep ++ joinWith sep ts

end Stencil
