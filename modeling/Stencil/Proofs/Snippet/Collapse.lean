import Stencil.Snippet
import Stencil.Proofs.Snippet.Marker

/-! # Collapsing markers

Markers are removed kind by kind, each kind in one pass. No marker of the text itself is left, but
the characters on both sides of a removed marker may join to a new one.
-/

namespace Stencil.Marker

/-- What removing the markers of a kind keeps of a text whose characters stand with their
positions. -/
def sift (m : Marker) : List (Char × Nat) → List (Char × Nat)
  | [] => []
  | x :: xs =>
    match m.length? ((x :: xs).map Prod.fst) with
    | some (n, _) => m.sift (xs.drop (n - 1))
    | none => x :: m.sift xs
termination_by xs => xs.length

/-- What collapsing keeps of a text, each character with its position in the text. -/
def kept (cs : List Char) : List (Char × Nat) :=
  imports.sift (implementations.sift (hook.sift cs.zipIdx))

/-- Characters that are kept spell a marker but did not stand together in the text. -/
def Joins (cs : List Char) : Prop :=
  ∃ m name mark, mark <:+: kept cs ∧ IsComment m name (mark.map Prod.fst) ∧ ¬ mark <:+: cs.zipIdx

variable {m : Marker} {name cs : List Char} {l mark before after : List (Char × Nat)}

theorem map_fst_sift (m : Marker) (l : List (Char × Nat)) :
    (m.sift l).map Prod.fst = m.replace (fun _ => []) (l.map Prod.fst) := by
  fun_induction sift m l with
  | case1 => rfl
  | case2 x xs n name hl ih =>
    have hf : m.find? ((x :: xs).map Prod.fst) =
        some ⟨((x :: xs).map Prod.fst).take n, String.ofList name,
          ((x :: xs).map Prod.fst).drop n⟩ := by
      rw [find?, hl]
      rfl
    obtain ⟨n, rfl⟩ := Nat.exists_eq_add_one.mpr (length?_pos hl)
    rw [replace_of_find?_eq_some hf, ih]
    simp
  | case3 x xs hl ih =>
    have hf : m.find? (x.1 :: xs.map Prod.fst) = none := by
      rw [find?, ← List.map_cons, hl]
      rfl
    rw [List.map_cons, List.map_cons, replace_of_find?_eq_none hf, ih]

theorem sift_sublist (m : Marker) (l : List (Char × Nat)) : (m.sift l).Sublist l := by
  fun_induction sift m l with
  | case1 => exact .slnil
  | case2 x xs n name hl ih => exact (ih.trans (List.drop_sublist _ _)).cons x
  | case3 x xs hl ih => exact ih.cons_cons x

theorem drop_cons_pos {α : Type} {n : Nat} (hn : 0 < n) (x : α) (xs : List α) :
    xs.drop (n - 1) = (x :: xs).drop n := by
  obtain ⟨n, rfl⟩ := Nat.exists_eq_add_one.mpr hn
  rfl

/-- A marker of the text does not keep all its characters: either the scan comes to its beginning,
or an earlier match takes that away. -/
theorem not_subset_sift (hl : l.Nodup) (he : l = before ++ (mark ++ after))
    (hm : m.IsComment name (mark.map Prod.fst)) : ¬ mark ⊆ m.sift l := by
  obtain ⟨y, ys, rfl⟩ : ∃ y ys, mark = y :: ys := by
    obtain ⟨body, hb, -⟩ := hm.exists_body
    cases mark with
    | nil => cases hb
    | cons y ys => exact ⟨y, ys, rfl⟩
  fun_induction sift m l generalizing before with
  | case1 => simp at he
  | case2 x xs n name' hl' ih =>
    rw [drop_cons_pos (length?_pos hl') x xs] at ih ⊢
    by_cases hn : n ≤ before.length
    · have hdrop : (x :: xs).drop n = before.drop n ++ (y :: ys ++ after) := by
        rw [he, List.drop_append_of_le_length hn]
      exact ih (hl.sublist (List.drop_sublist _ _)) hdrop
    · intro hs
      have hy := (sift_sublist m _).subset (hs List.mem_cons_self)
      obtain ⟨k, rfl⟩ : ∃ k, n = before.length + (k + 1) := ⟨n - before.length - 1, by omega⟩
      rw [he, ← List.drop_drop, List.drop_left, List.cons_append, List.drop_succ_cons] at hy
      rw [he, List.nodup_append, List.cons_append, List.nodup_cons] at hl
      exact hl.2.1.1 (List.mem_of_mem_drop hy)
  | case3 x xs hl' ih =>
    cases before with
    | nil =>
      obtain ⟨n, hfound⟩ := length?_of_isComment hm (after.map Prod.fst)
      rw [List.nil_append] at he
      rw [he, List.map_append, hfound] at hl'
      cases hl'
    | cons z before =>
      obtain ⟨rfl, he'⟩ := List.cons.inj he
      intro hs
      refine ih (List.nodup_cons.mp hl).2 he' fun c hc => ?_
      rcases List.mem_cons.mp (hs hc) with rfl | hc'
      · rw [he'] at hl
        exact absurd (List.mem_append_right before (List.mem_append_left after hc))
          (List.nodup_cons.mp hl).1
      · exact hc'

theorem infix_of_sublist {α : Type} {w k l : List α} (hl : l.Nodup) (hk : k.Sublist l)
    (hw : w <:+: l) (hs : w ⊆ k) : w <:+: k := by
  obtain ⟨a, b, rfl⟩ := hw
  obtain ⟨k', k₃, rfl, hk', hk₃⟩ := List.sublist_append_iff.mp hk
  obtain ⟨k₁, k₂, rfl, hk₁, hk₂⟩ := List.sublist_append_iff.mp hk'
  obtain ⟨haw, -, hb⟩ := List.nodup_append.mp hl
  obtain ⟨-, hw, ha⟩ := List.nodup_append.mp haw
  have hsub : w ⊆ k₂ := by
    intro c hc
    rcases List.mem_append.mp (hs hc) with hc' | hc'
    · rcases List.mem_append.mp hc' with hc' | hc'
      · exact absurd rfl (ha c (hk₁.subset hc') c hc)
      · exact hc'
    · exact absurd rfl (hb c (List.mem_append_right a hc) c (hk₃.subset hc'))
  obtain rfl := hk₂.eq_of_length_le (hw.length_le_of_subset hsub)
  exact ⟨k₁, k₃, rfl⟩

theorem nodup_zipIdx (cs : List Char) : cs.zipIdx.Nodup := by
  have hsnd : (cs.zipIdx.map Prod.snd).Nodup := by
    rw [List.zipIdx_map_snd]
    exact List.nodup_range' 1
  exact (List.pairwise_map.mp hsnd).imp fun h => mt (congrArg Prod.snd) h

/-- A marker that stands together in the text does not survive the pass for its kind. -/
theorem not_subset_kept (hw : mark <:+: cs.zipIdx) (hm : m.IsComment name (mark.map Prod.fst)) :
    ¬ mark ⊆ kept cs := by
  have hpass {l : List (Char × Nat)} (hl : l.Sublist cs.zipIdx) (hs : mark ⊆ l) :
      ¬ mark ⊆ m.sift l := by
    obtain ⟨before, after, he⟩ := infix_of_sublist (nodup_zipIdx cs) hl hw hs
    exact not_subset_sift ((nodup_zipIdx cs).sublist hl) (by rw [← he, List.append_assoc]) hm
  have h₁ := sift_sublist hook cs.zipIdx
  have h₂ := sift_sublist implementations (hook.sift cs.zipIdx)
  have h₃ := sift_sublist imports (implementations.sift (hook.sift cs.zipIdx))
  intro hs
  have hs₂ := List.Subset.trans hs h₃.subset
  have hs₁ := List.Subset.trans hs₂ h₂.subset
  cases m with
  | hook => exact hpass (List.Sublist.refl _) hw.subset hs₁
  | implementations => exact hpass h₁ hs₁ hs₂
  | imports => exact hpass (h₂.trans h₁) hs₂ hs

theorem map_fst_kept (cs : List Char) : (kept cs).map Prod.fst = collapse cs := by
  unfold kept collapse
  rw [map_fst_sift, map_fst_sift, map_fst_sift, List.zipIdx_map_fst]

theorem free_collapse_iff (cs : List Char) : Free (collapse cs) ↔ ¬ Joins cs := by
  rw [← map_fst_kept]
  constructor
  · rintro hfree ⟨m, name, mark, hw, hm, -⟩
    exact hfree m name _ hm (hw.map Prod.fst)
  · rintro hj m name mark hm ⟨before, after, he⟩
    obtain ⟨l, after', hk, hl, rfl⟩ := List.append_eq_map_iff.mp he
    obtain ⟨before', mark', rfl, rfl, rfl⟩ := List.append_eq_map_iff.mp hl.symm
    have hw : mark' <:+: kept cs := ⟨before', after', hk.symm⟩
    by_cases ht : mark' <:+: cs.zipIdx
    · exact not_subset_kept ht hm hw.subset
    · exact hj ⟨m, name, mark', hw, hm, ht⟩

end Stencil.Marker

namespace Stencil.Snippet

open Marker

/-- The markers left by collapsing a text are those that collapsing joins, and the same holds of
injection, which collapses the filled template. -/
theorem free_iff_not_joins (fs : FileSystem) (templates : Path) (label : String)
    (ms : Option Microservice) (template : List Char) :
    (Free (collapse template) ↔ ¬ Joins template) ∧
      ∀ text, (inject fs templates label ms template).1 = .ok text ↔
        ∃ filled, (applyAll fs templates (forTarget label ms) template).1 = .ok filled ∧
          text = collapse filled ∧ (Free text ↔ ¬ Joins filled) := by
  refine ⟨free_collapse_iff template, fun text => ?_⟩
  unfold inject
  rcases applyAll fs templates (forTarget label ms) template with ⟨e | filled, ws⟩
  · simp [Except.map]
  · constructor
    · intro h
      obtain rfl := Except.ok.inj h
      exact ⟨filled, rfl, rfl, free_collapse_iff filled⟩
    · rintro ⟨_, ⟨⟩, rfl, -⟩
      rfl

theorem not_free_of_nested_imports :
    ¬ Free (collapse "/* FUNCTION_IM/* FUNCTION_IMPORTS */PORTS */".toList) ∧
      (inject { entries := [], workingDir := [] } ⟨[]⟩ "" none
          "/* FUNCTION_IM/* FUNCTION_IMPORTS */PORTS */".toList).1 =
        .ok (collapse "/* FUNCTION_IM/* FUNCTION_IMPORTS */PORTS */".toList) := by
  refine ⟨fun h => ?_, rfl⟩
  have hleft : collapse "/* FUNCTION_IM/* FUNCTION_IMPORTS */PORTS */".toList =
      "/* FUNCTION_IMPORTS */".toList := by decide +kernel
  exact h .imports [] _ .imports ⟨[], [], by rw [hleft]; rfl⟩

end Stencil.Snippet
