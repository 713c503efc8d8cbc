import Stencil.Text.Search

/-! # First occurrences

Cutting a text at a pattern finds the leftmost occurrence and fails only if there is none. A run of
characters of a class is the longest one if what follows it is not of the class.
-/

namespace Stencil

variable {pat text before after : List Char}

/-- The text is cut at an occurrence of the pattern, and no occurrence begins earlier. -/
structure FirstAt (pat text before after : List Char) : Prop where
  eq : text = before ++ pat ++ after
  le_of_eq : ∀ b a, text = b ++ pat ++ a → before.length ≤ b.length

theorem dropPrefix?_eq_none_iff : dropPrefix? pat text = none ↔ ¬ pat <+: text := by
  rw [Option.eq_none_iff_forall_ne_some]
  constructor
  · rintro h ⟨rest, rfl⟩
    exact h rest (dropPrefix?_eq_some_iff.mpr rfl)
  · rintro h rest hr
    exact h ⟨rest, (dropPrefix?_eq_some_iff.mp hr).symm⟩

theorem FirstAt.at_beginning (h : text = pat ++ after) : FirstAt pat text [] after :=
  ⟨h, fun _ _ _ => Nat.zero_le _⟩

theorem FirstAt.cons {c : Char} (hn : ¬ pat <+: c :: text) (h : FirstAt pat text before after) :
    FirstAt pat (c :: text) (c :: before) after := by
  refine ⟨by simp [h.eq], ?_⟩
  intro b a he
  cases b with
  | nil => exact absurd ⟨a, he.symm⟩ hn
  | cons d b =>
    obtain ⟨-, he⟩ := List.cons.inj he
    exact Nat.succ_le_succ (h.le_of_eq b a he)

theorem cutAt?_eq_none_iff : cutAt? pat text = none ↔ ¬ pat <:+: text := by
  induction text with
  | nil => cases pat <;> simp [cutAt?]
  | cons c text ih =>
    rw [List.infix_cons_iff, not_or, ← ih, ← dropPrefix?_eq_none_iff, cutAt?]
    cases dropPrefix? pat (c :: text) <;> simp

theorem firstAt_of_cutAt? (h : cutAt? pat text = some (before, after)) :
    FirstAt pat text before after := by
  induction text generalizing before with
  | nil =>
    obtain ⟨rfl, rfl, rfl⟩ : pat = [] ∧ [] = before ∧ [] = after := by simpa [cutAt?] using h
    exact .at_beginning rfl
  | cons c text ih =>
    rw [cutAt?] at h
    cases hd : dropPrefix? pat (c :: text) with
    | some rest =>
      obtain ⟨rfl, rfl⟩ : [] = before ∧ rest = after := by simpa [hd] using h
      exact .at_beginning (dropPrefix?_eq_some_iff.mp hd)
    | none =>
      simp only [hd, Option.map_eq_some_iff] at h
      obtain ⟨⟨b, a⟩, hc, he⟩ := h
      obtain ⟨rfl, rfl⟩ := Prod.mk.inj he
      exact (ih hc).cons (dropPrefix?_eq_none_iff.mp hd)

theorem FirstAt.unique {b a : List Char} (h : FirstAt pat text before after)
    (h' : FirstAt pat text b a) : before = b ∧ after = a := by
  have hl : before.length = b.length :=
    Nat.le_antisymm (h.le_of_eq b a h'.eq) (h'.le_of_eq _ _ h.eq)
  have he : before ++ (pat ++ after) = b ++ (pat ++ a) := by
    simpa only [List.append_assoc] using h.eq.symm.trans h'.eq
  obtain ⟨rfl, he'⟩ := List.append_inj he hl
  exact ⟨rfl, List.append_cancel_left he'⟩

theorem cutAt?_eq_some_iff :
    cutAt? pat text = some (before, after) ↔ FirstAt pat text before after := by
  constructor
  · exact firstAt_of_cutAt?
  · intro h
    cases hc : cutAt? pat text with
    | none => exact absurd ⟨before, after, h.eq.symm⟩ (cutAt?_eq_none_iff.mp hc)
    | some p =>
      obtain ⟨rfl, rfl⟩ := (firstAt_of_cutAt? hc).unique h
      rfl

section Runs

variable {p : Char → Bool} {run rest : List Char}

theorem takeWhile_append_of_stop (hr : ∀ c ∈ run, p c = true) (hs : ∀ c ∈ rest.head?, p c = false) :
    (run ++ rest).takeWhile p = run := by
  rw [List.takeWhile_append_of_pos hr]
  cases rest with
  | nil => simp
  | cons c cs => simp [hs c rfl]

theorem dropWhile_append_of_stop (hr : ∀ c ∈ run, p c = true) (hs : ∀ c ∈ rest.head?, p c = false) :
    (run ++ rest).dropWhile p = rest := by
  rw [List.dropWhile_append_of_pos hr]
  cases rest with
  | nil => simp
  | cons c cs => simp [hs c rfl]

theorem stop_dropWhile (cs : List Char) : ∀ c ∈ (cs.dropWhile p).head?, p c = false := by
  intro c hc
  have := List.head?_dropWhile_not p cs
  simp_all

end Runs

end Stencil
