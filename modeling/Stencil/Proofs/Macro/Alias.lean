import Stencil.Macro.Alias
import Stencil.Proofs.Macro.Reference
import Stencil.Proofs.Text.Edit

/-! # Aliases of the primary model

Expanding the aliases of a text replaces exactly those that no word character follows. The path that
stands in for an alias completes no alias that has begun before it, so none is left in the result.
-/

namespace Stencil.Macro

/-- After `before` stands an alias that no word character follows. -/
structure AliasAt (text before name after : List Char) : Prop where
  eq : text = before ++ (name ++ after)
  mem : name ∈ aliases
  stop : ∀ c ∈ after.head?, isWord c = false

variable {text cs before name after rest b n a m x w r : List Char} {c : Char}

section Occurrences

theorem mem_aliases_iff : name ∈ aliases ↔
    name = ['@', 'P', 'r', 'i', 'm', 'a', 'r', 'y', 'M', 'o', 'd', 'e', 'l'] ∨
      name = ['@', 'P', 'M'] := by
  simp [aliases]

theorem primaryModelPath_eq : ∃ more, primaryModelPath = 'M' :: 'i' :: more ∧ '@' ∉ more :=
  ⟨primaryModelPath.drop 2, rfl, by decide⟩

/-- An alias is a sign and a word, in which no path of the primary model begins. -/
theorem exists_word_of_mem_aliases (h : name ∈ aliases) :
    ∃ word, name = '@' :: word ∧ '@' ∉ word ∧ ¬ ['M', 'i'] <:+: word := by
  rcases mem_aliases_iff.mp h with rfl | rfl
  · exact ⟨_, rfl, by simp, by simp [List.infix_cons_iff]⟩
  · exact ⟨_, rfl, by simp, by simp [List.infix_cons_iff]⟩

theorem AliasAt.unique (h : AliasAt text [] n a) (h' : AliasAt text [] m x) : n = m ∧ a = x := by
  have he : n ++ a = m ++ x := h.eq.symm.trans h'.eq
  rcases mem_aliases_iff.mp h.mem with rfl | rfl <;> rcases mem_aliases_iff.mp h'.mem with rfl | rfl
  · exact ⟨rfl, List.append_cancel_left he⟩
  · simp at he
  · simp at he
  · exact ⟨rfl, List.append_cancel_left he⟩

theorem getD_isWord_eq_false_iff :
    (rest.head?.map isWord).getD false = false ↔ ∀ c ∈ rest.head?, isWord c = false := by
  cases rest <;> simp

theorem exists_aliasAt_of_afterAlias? (h : afterAlias? text = some rest) :
    ∃ name, AliasAt text [] name rest := by
  obtain ⟨name, hmem, hf⟩ := List.exists_of_findSome?_eq_some h
  split at hf
  · next r hr =>
    split at hf
    · cases hf
    · next hword =>
      obtain rfl := Option.some.inj hf
      have he : text = name ++ r := dropPrefix?_eq_some_iff.mp hr
      exact ⟨name, he, hmem, getD_isWord_eq_false_iff.mp (Bool.eq_false_iff.mpr hword)⟩
  · cases hf

theorem afterAlias?_eq_some_iff :
    afterAlias? text = some rest ↔ ∃ name, AliasAt text [] name rest := by
  refine ⟨exists_aliasAt_of_afterAlias?, ?_⟩
  rintro ⟨name, h⟩
  rcases hafter : afterAlias? text with _ | r
  · rw [afterAlias?, List.findSome?_eq_none_iff] at hafter
    have hdrop : dropPrefix? name text = some rest := dropPrefix?_eq_some_iff.mpr h.eq
    have hnone := hafter name h.mem
    simp [hdrop, getD_isWord_eq_false_iff.mpr h.stop] at hnone
  · obtain ⟨name', h'⟩ := exists_aliasAt_of_afterAlias? hafter
    rw [(h.unique h').2]

theorem afterAlias?_eq_none_iff :
    afterAlias? text = none ↔ ∀ name rest, ¬ AliasAt text [] name rest := by
  rw [Option.eq_none_iff_forall_ne_some]
  simp only [ne_eq, afterAlias?_eq_some_iff, not_exists]
  exact forall_comm

theorem not_aliasAt_nil : ¬ AliasAt [] b n a := by
  rintro ⟨he, hmem, -⟩
  obtain ⟨word, rfl, -⟩ := exists_word_of_mem_aliases hmem
  simp at he

theorem aliasAt_cons_iff : AliasAt (c :: cs) b n a ↔
    b = [] ∧ AliasAt (c :: cs) [] n a ∨ ∃ b', b = c :: b' ∧ AliasAt cs b' n a := by
  constructor
  · intro h
    rcases b with _ | ⟨d, b⟩
    · exact .inl ⟨rfl, h⟩
    · obtain ⟨rfl, he⟩ := List.cons.inj h.eq
      exact .inr ⟨b, rfl, he, h.mem, h.stop⟩
  · rintro (⟨rfl, h⟩ | ⟨b', rfl, he, hmem, hs⟩)
    · exact h
    · exact ⟨congrArg (c :: ·) he, hmem, hs⟩

theorem aliasAt_append_iff (hw : '@' ∉ w) :
    AliasAt (w ++ x) b n a ↔ ∃ b', b = w ++ b' ∧ AliasAt x b' n a := by
  constructor
  · rintro ⟨he, hmem, hs⟩
    obtain ⟨word, rfl, -⟩ := exists_word_of_mem_aliases hmem
    obtain ⟨b', rfl, hx⟩ := append_eq_append_cons hw he
    exact ⟨b', rfl, hx, hmem, hs⟩
  · rintro ⟨b', rfl, he, hmem, hs⟩
    exact ⟨by rw [he, List.append_assoc], hmem, hs⟩

theorem AliasAt.aliasAt_iff (h : AliasAt text [] name rest) : AliasAt text b n a ↔
    b = [] ∧ n = name ∧ a = rest ∨ ∃ b', b = name ++ b' ∧ AliasAt rest b' n a := by
  obtain ⟨word, hname, hw, -⟩ := exists_word_of_mem_aliases h.mem
  have htext : text = '@' :: (word ++ rest) := by rw [h.eq, hname]; rfl
  rw [htext, aliasAt_cons_iff, hname, ← htext]
  constructor
  · rintro (⟨rfl, h'⟩ | ⟨b', rfl, h'⟩)
    · obtain ⟨rfl, rfl⟩ := h.unique h'
      exact .inl ⟨rfl, hname, rfl⟩
    · obtain ⟨b'', rfl, h''⟩ := (aliasAt_append_iff hw).mp h'
      exact .inr ⟨b'', rfl, h''⟩
  · rintro (⟨rfl, rfl, rfl⟩ | ⟨b', rfl, h'⟩)
    · exact .inl ⟨rfl, hname ▸ h⟩
    · exact .inr ⟨word ++ b', rfl, (aliasAt_append_iff hw).mpr ⟨b', rfl, h'⟩⟩

end Occurrences

section Expansion

theorem expandAliases_nil : expandAliases [] = [] := by
  rw [expandAliases]
  rfl

theorem expandAliases_of_aliasAt (h : AliasAt text [] name rest) :
    expandAliases text = primaryModelPath ++ expandAliases rest := by
  have hafter := afterAlias?_eq_some_iff.mpr ⟨name, h⟩
  rw [expandAliases]
  split
  · next r hr =>
    obtain rfl := Option.some.inj (hafter.symm.trans hr)
    rfl
  · next hr => cases hafter.symm.trans hr

theorem expandAliases_cons (h : ∀ name rest, ¬ AliasAt (c :: cs) [] name rest) :
    expandAliases (c :: cs) = c :: expandAliases cs := by
  have hafter := afterAlias?_eq_none_iff.mpr h
  rw [expandAliases]
  split
  · next r hr => cases hafter.symm.trans hr
  · rfl

/-- A text begins with an alias, or it is empty or begins with a character that stays. -/
theorem alias_induction {P : List Char → Prop} (nil : P [])
    (replaced : ∀ text name rest, AliasAt text [] name rest → P rest → P text)
    (cons : ∀ c cs, (∀ name rest, ¬ AliasAt (c :: cs) [] name rest) → P cs → P (c :: cs))
    (text : List Char) : P text := by
  induction text using expandAliases.induct with
  | case1 text rest h ih =>
    obtain ⟨name, hname⟩ := afterAlias?_eq_some_iff.mp h
    exact replaced text name rest hname ih
  | case2 h => exact nil
  | case3 c cs h ih => exact cons c cs (afterAlias?_eq_none_iff.mp h) ih

theorem editedBy_expandAliases (text : List Char) :
    EditedBy text (expandAliases text) fun before span new =>
      new = primaryModelPath ∧ ∃ after, AliasAt text before span after := by
  induction text using alias_induction with
  | nil =>
    rw [expandAliases_nil]
    refine (EditedBy.keep []).congr fun b n _ => ?_
    simp [not_aliasAt_nil]
  | replaced text name rest h ih =>
    have htext : text = name ++ rest := h.eq
    rw [expandAliases_of_aliasAt h]
    refine htext ▸ ((EditedBy.replace name primaryModelPath).append ih).congr fun b n new => ?_
    rw [← htext]
    simp only [h.aliasAt_iff]
    constructor
    · rintro (⟨rfl, rfl, rfl⟩ | ⟨b', rfl, rfl, a, ha⟩)
      · exact ⟨rfl, rest, .inl ⟨rfl, rfl, rfl⟩⟩
      · exact ⟨rfl, a, .inr ⟨b', rfl, ha⟩⟩
    · rintro ⟨rfl, a, ⟨rfl, rfl, rfl⟩ | ⟨b', rfl, ha⟩⟩
      · exact .inl ⟨rfl, rfl, rfl⟩
      · exact .inr ⟨b', rfl, rfl, a, ha⟩
  | cons c cs h ih =>
    rw [expandAliases_cons h]
    refine ((EditedBy.keep [c]).append ih).congr fun b n new => ?_
    simp only [aliasAt_cons_iff, h, and_false, false_or]
    constructor
    · rintro ⟨b', rfl, rfl, a, ha⟩
      exact ⟨rfl, a, b', rfl, ha⟩
    · rintro ⟨rfl, a, b', rfl, ha⟩
      exact ⟨b', rfl, rfl, a, ha⟩

/-- A word of the result that no word character follows is a word of the text, unless what stands in
for an alias begins in it. -/
theorem exists_of_expandAliases_eq (hw : ¬ ['M', 'i'] <:+: w)
    (hs : ∀ c ∈ r.head?, isWord c = false) (h : expandAliases text = w ++ r) :
    ∃ rest, text = w ++ rest ∧ expandAliases rest = r := by
  induction w generalizing text with
  | nil => exact ⟨text, rfl, h⟩
  | cons d w ih =>
    cases text using alias_induction with
    | nil =>
      rw [expandAliases_nil] at h
      cases h
    | replaced text name rest ha _ =>
      obtain ⟨more, hpath, -⟩ := primaryModelPath_eq
      rw [expandAliases_of_aliasAt ha, hpath] at h
      obtain ⟨rfl, htail⟩ := List.cons.inj h
      rcases w with _ | ⟨e, w⟩
      · obtain rfl : _ = r := htail
        exact absurd (hs 'i' rfl) (by decide)
      · obtain ⟨rfl, -⟩ := List.cons.inj htail
        exact absurd ⟨[], w, rfl⟩ hw
    | cons c cs hc _ =>
      rw [expandAliases_cons hc] at h
      obtain ⟨rfl, htail⟩ := List.cons.inj h
      obtain ⟨rest, rfl, hr⟩ := ih (fun hi => hw (hi.trans (List.suffix_cons c w).isInfix)) htail
      exact ⟨rest, rfl, hr⟩

theorem stop_of_expandAliases (hs : ∀ c ∈ (expandAliases rest).head?, isWord c = false) :
    ∀ c ∈ rest.head?, isWord c = false := by
  cases rest using alias_induction with
  | nil => simp
  | replaced text name rest h _ =>
    obtain ⟨word, rfl, -⟩ := exists_word_of_mem_aliases h.mem
    rw [h.eq]
    rintro c hc
    obtain rfl : '@' = c := by simpa using hc
    exact not_isWord_at
  | cons c cs h _ =>
    rw [expandAliases_cons h] at hs
    exact hs

theorem not_aliasAt_expandAliases (text : List Char) : ¬ AliasAt (expandAliases text) b n a := by
  induction text using alias_induction generalizing b with
  | nil =>
    rw [expandAliases_nil]
    exact not_aliasAt_nil
  | replaced text name rest h ih =>
    obtain ⟨more, hpath, hmore⟩ := primaryModelPath_eq
    have hsign : '@' ∉ primaryModelPath := by simp [hpath, hmore]
    rw [expandAliases_of_aliasAt h, aliasAt_append_iff hsign]
    rintro ⟨b', -, h'⟩
    exact ih h'
  | cons c cs h ih =>
    rw [expandAliases_cons h, aliasAt_cons_iff]
    rintro (⟨-, h'⟩ | ⟨b', -, h'⟩)
    · -- an alias at a sign that stays would have been one in the text
      obtain ⟨word, rfl, -, hw⟩ := exists_word_of_mem_aliases h'.mem
      obtain ⟨rfl, he⟩ := List.cons.inj h'.eq
      obtain ⟨rest, rfl, rfl⟩ := exists_of_expandAliases_eq hw h'.stop he
      exact h _ rest ⟨rfl, h'.mem, stop_of_expandAliases h'.stop⟩
    · exact ih h'

end Expansion

/-- Expanding replaces exactly the aliases that no word character follows by the path of the primary
model. None of them is left or formed, so expanding once more changes nothing. -/
theorem expandAliases_replaces_exactly (text : List Char) :
    (EditedBy text (expandAliases text) fun before span new =>
      new = primaryModelPath ∧ ∃ after, AliasAt text before span after) ∧
    (∀ before name after, ¬ AliasAt (expandAliases text) before name after) ∧
    expandAliases (expandAliases text) = expandAliases text := by
  refine ⟨editedBy_expandAliases text, fun _ _ _ => not_aliasAt_expandAliases text, ?_⟩
  refine (editedBy_expandAliases (expandAliases text)).eq_of_no_span ?_
  rintro before span new ⟨-, after, h⟩
  exact not_aliasAt_expandAliases text h

end Stencil.Macro
