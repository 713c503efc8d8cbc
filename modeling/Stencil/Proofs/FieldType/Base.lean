import Stencil.FieldType
import Stencil.Proofs.Text.Search

/-! # Types without their brackets

Every type is a base in some number of brackets, and whether it refers to something depends on the
base alone.
-/

namespace Stencil

namespace FieldType

/-- The type is the base in `n` pairs of brackets, and the base itself is not in brackets. -/
inductive HasBase : (type : List Char) → (n : Nat) → (base : List Char) → Prop where
  | bare {base : List Char} : (∀ inner, base ≠ '[' :: inner ++ [']']) → HasBase base 0 base
  | array {inner base : List Char} {n : Nat} :
      HasBase inner n base → HasBase ('[' :: inner ++ [']']) (n + 1) base

variable {type inner base : List Char} {n : Nat}

theorem element?_eq_some_iff : element? type = some inner ↔ type = '[' :: inner ++ [']'] := by
  simp only [element?, dropSuffix?, Option.bind_eq_some_iff, Option.map_eq_some_iff,
    dropPrefix?_eq_some_iff]
  constructor
  · rintro ⟨rest, rfl, back, hback, rfl⟩
    rw [← List.reverse_reverse rest, hback]
    simp
  · rintro rfl
    exact ⟨inner ++ [']'], rfl, inner.reverse, by simp, List.reverse_reverse inner⟩

theorem element?_eq_none_iff : element? type = none ↔ ∀ inner, type ≠ '[' :: inner ++ [']'] := by
  simp only [Option.eq_none_iff_forall_ne_some, ne_eq, element?_eq_some_iff]

theorem exists_hasBase (type : List Char) : ∃ n base, HasBase type n base := by
  cases h : element? type with
  | none => exact ⟨0, type, .bare (element?_eq_none_iff.mp h)⟩
  | some inner =>
    have hlt := length_lt_of_element? h
    obtain ⟨n, base, hb⟩ := exists_hasBase inner
    rw [element?_eq_some_iff.mp h]
    exact ⟨n + 1, base, .array hb⟩
termination_by type.length

theorem resolves_eq (declared : List Char → Bool) (h : HasBase type n base) :
    resolves declared type = ((Primitive.ofKeyword? base).isSome || declared base) := by
  induction h with
  | bare hb =>
    unfold resolves
    split
    next inner he => exact absurd (element?_eq_some_iff.mp he) (hb inner)
    next => rfl
  | @array inner base n _ ih =>
    unfold resolves
    split
    next inner' he =>
      obtain rfl : inner = inner' := by simpa using element?_eq_some_iff.mp he
      exact ih
    next he => exact absurd rfl (element?_eq_none_iff.mp he inner)

end FieldType

theorem Primitive.isSome_ofKeyword?_iff {text : List Char} :
    (ofKeyword? text).isSome = true ↔ ∃ p : Primitive, p.keyword = text := by
  rw [ofKeyword?, List.find?_isSome]
  constructor
  · rintro ⟨p, -, hp⟩
    exact ⟨p, of_decide_eq_true hp⟩
  · rintro ⟨p, rfl⟩
    exact ⟨p, by cases p <;> simp [all], decide_eq_true rfl⟩

end Stencil
