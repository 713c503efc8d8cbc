import Stencil.Text.CharClass
import Stencil.Proofs.Text.Search

/-! # Trimming

Trimming takes the blanks at both ends of a text away and no more; dropping copies of a text at the
beginning of another one takes all of them away.
-/

namespace Stencil

/-- The inner text has blanks around it, and none at its own ends. -/
structure Trimmed (text inner : List Char) : Prop where
  exists_blanks : ∃ l r, text = l ++ (inner ++ r) ∧ (∀ c ∈ l, isBlank c = true) ∧
    ∀ c ∈ r, isBlank c = true
  head : ∀ c ∈ inner.head?, isBlank c = false
  last : ∀ c ∈ inner.getLast?, isBlank c = false

variable {text inner pre rest : List Char}

section Blanks

theorem trimBy_eq_of_trimmed (h : Trimmed text inner) : trimBy isBlank text = inner := by
  obtain ⟨⟨l, r, rfl, hl, hr⟩, hhead, hlast⟩ := h
  have hstart : (l ++ (inner ++ r)).dropWhile isBlank = (inner ++ r).dropWhile isBlank :=
    List.dropWhile_append_of_pos hl
  have hend : (r.reverse ++ inner.reverse).dropWhile isBlank = inner.reverse :=
    dropWhile_append_of_stop (by simpa using hr) (by rwa [List.head?_reverse])
  unfold trimBy trimEnd trimStart
  rw [hstart]
  cases inner with
  | nil =>
    have hr' : (r ++ []).dropWhile isBlank = [] := dropWhile_append_of_stop hr (by simp)
    rw [List.nil_append, ← List.append_nil r, hr']
    rfl
  | cons c cs =>
    have hc : isBlank c = false := hhead c rfl
    rw [List.cons_append, List.dropWhile_cons_of_neg (by simp [hc]), ← List.cons_append,
      List.reverse_append, hend, List.reverse_reverse]

theorem trimmed_trimBy (text : List Char) : Trimmed text (trimBy isBlank text) := by
  have hl := List.all_eq_true.mp (List.all_takeWhile (p := isBlank) (l := text))
  have htext := List.takeWhile_append_dropWhile (p := isBlank) (l := text)
  have hhead := stop_dropWhile (p := isBlank) text
  unfold trimBy trimEnd trimStart
  generalize text.dropWhile isBlank = start at htext hhead
  have hr := List.all_eq_true.mp (List.all_takeWhile (p := isBlank) (l := start.reverse))
  have hstart := List.takeWhile_append_dropWhile (p := isBlank) (l := start.reverse)
  have hlast := stop_dropWhile (p := isBlank) start.reverse
  generalize start.reverse.dropWhile isBlank = rest at hstart hlast
  have he : start = rest.reverse ++ (start.reverse.takeWhile isBlank).reverse := by
    rw [← List.reverse_append, hstart, List.reverse_reverse]
  refine ⟨⟨_, _, ?_, hl, fun c hc => hr c (List.mem_reverse.mp hc)⟩, ?_, ?_⟩
  · rw [← he, htext]
  · intro c hc
    refine hhead c ?_
    rw [he, List.head?_append, Option.mem_def.mp hc]
    rfl
  · rwa [List.getLast?_reverse]

theorem trimBy_eq_iff : trimBy isBlank text = inner ↔ Trimmed text inner :=
  ⟨fun h => h ▸ trimmed_trimBy text, trimBy_eq_of_trimmed⟩

end Blanks

section Copies

theorem dropCopies_append (hpre : pre ≠ []) :
    dropCopies pre (pre ++ rest) = dropCopies pre rest := by
  have hdrop : dropPrefix? pre (pre ++ rest) = some rest := dropPrefix?_eq_some_iff.mpr rfl
  rw [dropCopies, dif_neg hpre]
  split
  · next hn => cases hdrop.symm.trans hn
  · next r hr =>
    obtain rfl := Option.some.inj (hdrop.symm.trans hr)
    rfl

theorem dropCopies_eq_self (h : ¬ pre <+: text) : dropCopies pre text = text := by
  have hdrop := dropPrefix?_eq_none_iff.mpr h
  rw [dropCopies]
  split
  · rfl
  · split
    · rfl
    · next r hr => cases hdrop.symm.trans hr

theorem exists_copies (hpre : pre ≠ []) (text : List Char) :
    (∃ n, text = (List.replicate n pre).flatten ++ dropCopies pre text) ∧
      ¬ pre <+: dropCopies pre text := by
  induction text using dropCopies.induct pre with
  | case1 _ h => exact absurd h hpre
  | case2 text _ hn =>
    have hstop := dropPrefix?_eq_none_iff.mp hn
    rw [dropCopies_eq_self hstop]
    exact ⟨⟨0, rfl⟩, hstop⟩
  | case3 text _ rest hr ih =>
    obtain rfl := dropPrefix?_eq_some_iff.mp hr
    obtain ⟨⟨n, hn⟩, hstop⟩ := ih
    rw [dropCopies_append hpre]
    refine ⟨⟨n + 1, ?_⟩, hstop⟩
    rw [List.replicate_succ, List.flatten_cons, List.append_assoc, ← hn]

theorem dropCopies_eq_iff (hpre : pre ≠ []) : dropCopies pre text = rest ↔
    (∃ n, text = (List.replicate n pre).flatten ++ rest) ∧ ¬ pre <+: rest := by
  constructor
  · rintro rfl
    exact exists_copies hpre text
  · rintro ⟨⟨n, rfl⟩, hstop⟩
    induction n with
    | zero => exact dropCopies_eq_self hstop
    | succ n ih =>
      rw [List.replicate_succ, List.flatten_cons, List.append_assoc, dropCopies_append hpre, ih]

end Copies

end Stencil
