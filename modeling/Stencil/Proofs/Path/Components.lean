import Stencil.Path

/-! # Components of paths

A path is above another one if its components are the first ones of the other. Joining a path that
is not absolute leads below, whatever the two texts are.
-/

namespace Stencil

section Pieces

variable {sep c : Char} {text : List Char} {texts more : List (List Char)}

theorem splitOnChar_ne_nil (sep : Char) (text : List Char) : splitOnChar sep text ≠ [] := by
  cases text with
  | nil => simp [splitOnChar]
  | cons c cs =>
    unfold splitOnChar
    rcases splitOnChar sep cs with _ | ⟨piece, pieces⟩
    · simp
    · dsimp only
      split <;> simp

theorem splitOnChar_of_notMem (h : sep ∉ text) : splitOnChar sep text = [text] := by
  induction text with
  | nil => rfl
  | cons c cs ih =>
    rw [List.mem_cons, not_or] at h
    simp [splitOnChar, ih h.2, Ne.symm h.1]

theorem splitOnChar_append_cons (before after : List Char) :
    splitOnChar sep (before ++ sep :: after) =
      splitOnChar sep before ++ splitOnChar sep after := by
  induction before with
  | nil =>
    rw [List.nil_append]
    simp only [splitOnChar]
    rcases hp : splitOnChar sep after with _ | ⟨piece, pieces⟩
    · exact absurd hp (splitOnChar_ne_nil sep after)
    · simp
  | cons c cs ih =>
    rw [List.cons_append]
    simp only [splitOnChar, ih]
    rcases hp : splitOnChar sep cs with _ | ⟨piece, pieces⟩
    · exact absurd hp (splitOnChar_ne_nil sep cs)
    · rw [List.cons_append]
      dsimp only
      split <;> rfl

theorem joinWith_cons (text : List Char) (h : texts ≠ []) :
    joinWith [sep] (text :: texts) = text ++ sep :: joinWith [sep] texts := by
  obtain ⟨next, texts, rfl⟩ := List.exists_cons_of_ne_nil h
  simp [joinWith]

theorem joinWith_append (ht : texts ≠ []) (hm : more ≠ []) :
    joinWith [sep] (texts ++ more) = joinWith [sep] texts ++ sep :: joinWith [sep] more := by
  induction texts with
  | nil => exact absurd rfl ht
  | cons text texts ih =>
    by_cases hne : texts = []
    · subst hne
      exact joinWith_cons text hm
    · rw [List.cons_append, joinWith_cons text (by simp [hne]), ih hne, joinWith_cons text hne,
        List.append_assoc, List.cons_append]

theorem joinWith_splitOnChar (sep : Char) (text : List Char) :
    joinWith [sep] (splitOnChar sep text) = text := by
  induction text with
  | nil => rfl
  | cons c cs ih =>
    unfold splitOnChar
    rcases hp : splitOnChar sep cs with _ | ⟨piece, pieces⟩
    · exact absurd hp (splitOnChar_ne_nil sep cs)
    · rw [hp] at ih
      dsimp only
      split
      · next hc => rw [joinWith_cons [] (List.cons_ne_nil _ _), ih, hc, List.nil_append]
      · rw [← ih]
        cases pieces <;> rfl

theorem notMem_of_mem_splitOnChar {piece : List Char} (h : piece ∈ splitOnChar sep text) :
    sep ∉ piece := by
  induction text generalizing piece with
  | nil =>
    obtain rfl := List.mem_singleton.mp h
    exact List.not_mem_nil
  | cons c cs ih =>
    unfold splitOnChar at h
    rcases hp : splitOnChar sep cs with _ | ⟨first, others⟩
    · exact absurd hp (splitOnChar_ne_nil sep cs)
    · rw [hp] at h ih
      dsimp only at h
      split at h
      · rcases List.mem_cons.mp h with rfl | h
        · exact List.not_mem_nil
        · exact ih h
      · next hc =>
        rcases List.mem_cons.mp h with rfl | h
        · rw [List.mem_cons, not_or]
          exact ⟨Ne.symm hc, ih List.mem_cons_self⟩
        · exact ih (List.mem_cons_of_mem first h)

/-- A text that is not all separators has a piece with something in it. -/
theorem exists_mem_splitOnChar (h : c ∈ text) (hc : c ≠ sep) :
    ∃ piece ∈ splitOnChar sep text, piece ≠ [] := by
  induction text with
  | nil => cases h
  | cons d cs ih =>
    unfold splitOnChar
    rcases hp : splitOnChar sep cs with _ | ⟨piece, pieces⟩
    · exact absurd hp (splitOnChar_ne_nil sep cs)
    · dsimp only
      split
      · next hd =>
        have hcs : c ∈ cs := (List.mem_cons.mp h).resolve_left (by rintro rfl; exact hc hd)
        obtain ⟨found, hmem, hne⟩ := ih hcs
        exact ⟨found, List.mem_cons_of_mem _ (hp ▸ hmem), hne⟩
      · exact ⟨d :: piece, List.mem_cons_self, List.cons_ne_nil _ _⟩

end Pieces

namespace Path

variable {d p q : Path}

/-- The root, if the path begins there, and the steps from it. -/
def components (p : Path) : List (List Char) :=
  if p.isAbsolute then ['/'] :: p.steps else p.steps

/-- The components of the first path are the first ones of the second. -/
def IsAbove (d p : Path) : Prop :=
  d.components <+: p.components

instance (d p : Path) : Decidable (d.IsAbove p) :=
  inferInstanceAs (Decidable (_ <+: _))

theorem IsAbove.trans (h : d.IsAbove p) (h' : p.IsAbove q) : d.IsAbove q :=
  List.IsPrefix.trans h h'

theorem isAbove_of_isEmpty (h : d.isEmpty = true) : d.IsAbove p := by
  obtain ⟨chars⟩ := d
  obtain rfl : chars = [] := by simpa [isEmpty] using h
  exact List.nil_prefix

theorem steps_slash (before after : List Char) : (Path.mk (before ++ '/' :: after)).steps =
    (Path.mk before).steps ++ (splitOnChar '/' after).filter (isStep · false) := by
  unfold steps pieces
  rw [splitOnChar_append_cons]
  rcases hp : splitOnChar '/' before with _ | ⟨first, others⟩
  · exact absurd hp (splitOnChar_ne_nil '/' before)
  · simp [List.filter_append]

theorem isAbsolute_slash {before : List Char} (h : before ≠ []) (after : List Char) :
    (Path.mk (before ++ '/' :: after)).isAbsolute = (Path.mk before).isAbsolute := by
  obtain ⟨c, cs, rfl⟩ := List.exists_cons_of_ne_nil h
  rfl

theorem isAbove_slash {before : List Char} (h : before ≠ []) (after : List Char) :
    (Path.mk before).IsAbove ⟨before ++ '/' :: after⟩ := by
  unfold IsAbove components
  rw [isAbsolute_slash h, steps_slash]
  split
  · exact List.prefix_append (['/'] :: (Path.mk before).steps) _
  · exact List.prefix_append _ _

theorem components_slash {before : List Char} (h : before ≠ []) :
    (Path.mk (before ++ ['/'])).components = (Path.mk before).components := by
  unfold components
  rw [isAbsolute_slash h, steps_slash]
  simp [splitOnChar, isStep]

theorem isAbove_root (after : List Char) : (Path.mk ['/']).IsAbove ⟨'/' :: after⟩ :=
  List.prefix_append [['/']] (Path.mk ('/' :: after)).steps

/-- The text that a path puts in front of what is joined to it. -/
def leading (d : Path) : List Char :=
  if d.isEmpty || d.chars.getLast? == some '/' then d.chars else d.chars ++ ['/']

theorem join_of_isAbsolute (h : q.isAbsolute = true) : d.join q = q := by
  rw [join, if_pos h]

theorem join_of_not_isAbsolute (h : q.isAbsolute = false) :
    d.join q = ⟨d.leading ++ q.chars⟩ := by
  unfold join leading
  rw [if_neg (by simp [h])]
  split <;> simp

/-- What is joined to a path is below it, unless it is absolute. -/
theorem isAbove_join (h : q.isAbsolute = false) : d.IsAbove (d.join q) := by
  obtain ⟨chars⟩ := d
  by_cases hd : chars = []
  · exact isAbove_of_isEmpty (by simp [isEmpty, hd])
  rw [join_of_not_isAbsolute h, leading]
  split
  · next hslash =>
    obtain ⟨before, rfl⟩ : ∃ before, chars = before ++ ['/'] := by
      have hlast : chars.getLast? = some '/' := by simpa [isEmpty, hd] using hslash
      exact List.getLast?_eq_some_iff.mp hlast
    rw [List.append_assoc]
    by_cases hb : before = []
    · subst hb
      exact isAbove_root q.chars
    · unfold IsAbove
      rw [components_slash hb]
      exact isAbove_slash hb q.chars
  · rw [List.append_assoc]
    exact isAbove_slash hd q.chars

/-- Text at the end of what is joined is text at the end of the whole path. -/
theorem join_append (h : q.isAbsolute = false) (hq : q.isEmpty = false) (text : List Char) :
    d.join ⟨q.chars ++ text⟩ = ⟨(d.join q).chars ++ text⟩ := by
  have habsolute : (Path.mk (q.chars ++ text)).isAbsolute = false := by
    obtain ⟨_ | ⟨c, cs⟩⟩ := q
    · exact absurd hq (by decide)
    · exact h
  rw [join_of_not_isAbsolute habsolute, join_of_not_isAbsolute h, List.append_assoc]

end Path

end Stencil
