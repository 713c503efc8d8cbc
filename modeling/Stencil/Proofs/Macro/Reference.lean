import Stencil.Macro.TagReference
import Stencil.Proofs.Text.Search

/-! # Texts cut at their references

A reference to a tag stands wherever the mark is followed by a word character. A text is cut into
its references and the texts between them; the text between two references may contain a mark
without a name.
-/

namespace Stencil.Macro

/-- After `before` stands a mark with the longest run of word characters behind it, which is not
empty. -/
structure ReferenceAt (text before name after : List Char) : Prop where
  eq : text = before ++ (tagMark ++ (name ++ after))
  ne_nil : name ≠ []
  word : ∀ c ∈ name, isWord c = true
  stop : ∀ c ∈ after.head?, isWord c = false

def reference (name : List Char) : List Char :=
  tagMark ++ name

/-- References, each with the text before it, and the text after the last. -/
structure TagText where
  pieces : List (List Char × List Char)
  tail : List Char

namespace TagText

/-- The names of the references, from the left to the right. -/
def names (t : TagText) : List (List Char) :=
  t.pieces.map (·.2)

/-- The text in which `f` gives what stands for each reference. -/
def fill (t : TagText) (f : List Char → List Char) : List Char :=
  t.pieces.flatMap (fun p => p.1 ++ f p.2) ++ t.tail

def cons (gap name : List Char) (t : TagText) : TagText :=
  ⟨(gap, name) :: t.pieces, t.tail⟩

def prepend (x : List Char) (t : TagText) : TagText :=
  match t.pieces with
  | [] => ⟨[], x ++ t.tail⟩
  | (gap, name) :: pieces => ⟨(x ++ gap, name) :: pieces, t.tail⟩

/-- Among the references is one to `name` that stands after `before`. -/
def HasReference (t : TagText) (before name : List Char) : Prop :=
  ∃ l gap r, t.pieces = l ++ (gap, name) :: r ∧ before = fill ⟨l, gap⟩ reference

variable {t : TagText} {f : List Char → List Char} {x gap name before : List Char}

@[simp] theorem names_cons : (t.cons gap name).names = name :: t.names := rfl

@[simp] theorem fill_cons : (t.cons gap name).fill f = gap ++ (f name ++ t.fill f) := by
  simp [cons, fill]

@[simp] theorem names_prepend : (t.prepend x).names = t.names := by
  obtain ⟨_ | ⟨⟨gap, name⟩, pieces⟩, tail⟩ := t <;> rfl

@[simp] theorem fill_prepend : (t.prepend x).fill f = x ++ t.fill f := by
  obtain ⟨_ | ⟨⟨gap, name⟩, pieces⟩, tail⟩ := t <;> simp [prepend, fill]

theorem fill_of_names_eq_nil (h : t.names = []) : t.fill f = t.tail := by
  rw [fill, List.map_eq_nil_iff.mp h]
  rfl

theorem prepend_prepend (y : List Char) : (t.prepend y).prepend x = t.prepend (x ++ y) := by
  obtain ⟨_ | ⟨⟨gap, name⟩, pieces⟩, tail⟩ := t <;> simp [prepend]

theorem not_hasReference_nil : ¬ HasReference ⟨[], x⟩ before name := by
  rintro ⟨l, gap, r, he, -⟩
  simp at he

theorem hasReference_cons_iff {n : List Char} : (t.cons gap n).HasReference before name ↔
    before = gap ∧ name = n ∨
      ∃ b, before = gap ++ (reference n ++ b) ∧ t.HasReference b name := by
  constructor
  · rintro ⟨l, g, r, he, rfl⟩
    cases l with
    | nil =>
      obtain ⟨h, -⟩ := List.cons.inj he
      obtain ⟨rfl, rfl⟩ := Prod.mk.inj h
      exact .inl ⟨rfl, rfl⟩
    | cons p l =>
      obtain ⟨rfl, hr⟩ := List.cons.inj he
      exact .inr ⟨_, fill_cons (t := ⟨l, g⟩), l, g, r, hr, rfl⟩
  · rintro (⟨rfl, rfl⟩ | ⟨b, rfl, l, g, r, hr, rfl⟩)
    · exact ⟨[], before, t.pieces, rfl, rfl⟩
    · exact ⟨(gap, n) :: l, g, r, congrArg _ hr, (fill_cons (t := ⟨l, g⟩)).symm⟩

theorem hasReference_prepend_iff : (t.prepend x).HasReference before name ↔
    ∃ b, before = x ++ b ∧ t.HasReference b name := by
  obtain ⟨_ | ⟨⟨gap, n⟩, pieces⟩, tail⟩ := t
  · simp [prepend, not_hasReference_nil]
  · change (cons (x ++ gap) n ⟨pieces, tail⟩).HasReference before name ↔
      ∃ b, before = x ++ b ∧ (cons gap n ⟨pieces, tail⟩).HasReference b name
    simp only [hasReference_cons_iff]
    constructor
    · rintro (⟨rfl, rfl⟩ | ⟨b, rfl, hb⟩)
      · exact ⟨gap, rfl, .inl ⟨rfl, rfl⟩⟩
      · exact ⟨_, List.append_assoc .., .inr ⟨b, rfl, hb⟩⟩
    · rintro ⟨_, rfl, ⟨rfl, rfl⟩ | ⟨b, rfl, hb⟩⟩
      · exact .inl ⟨rfl, rfl⟩
      · exact .inr ⟨b, (List.append_assoc ..).symm, hb⟩

theorem exists_hasReference_iff : (∃ before, t.HasReference before name) ↔ name ∈ t.names := by
  constructor
  · rintro ⟨before, l, gap, r, he, -⟩
    simp [names, he]
  · intro h
    obtain ⟨⟨gap, n⟩, hp, rfl⟩ := List.mem_map.mp h
    obtain ⟨l, r, he⟩ := List.append_of_mem hp
    exact ⟨_, l, gap, r, he, rfl⟩

end TagText

section Occurrences

variable {text before rest name after b a x w q : List Char}

theorem append_eq_append_cons {c : Char} (hw : c ∉ w) (h : w ++ x = b ++ c :: a) :
    ∃ b', b = w ++ b' ∧ x = b' ++ c :: a := by
  rcases List.append_eq_append_iff.mp h with ⟨m, rfl, rfl⟩ | ⟨m, rfl, hm⟩
  · exact ⟨m, rfl, rfl⟩
  · cases m with
    | nil => exact ⟨[], by simp, by simpa using hm.symm⟩
    | cons d m =>
      obtain ⟨rfl, -⟩ := List.cons.inj hm
      simp at hw

theorem occurrence_of_notMem (hw : '@' ∉ w) (h : w ++ x = b ++ (tagMark ++ a)) :
    ∃ b', b = w ++ b' ∧ x = b' ++ (tagMark ++ a) :=
  append_eq_append_cons hw h

theorem occurrence_of_mark (h : tagMark ++ x = b ++ (tagMark ++ a)) :
    b = [] ∧ x = a ∨ ∃ b', b = tagMark ++ b' ∧ x = b' ++ (tagMark ++ a) := by
  cases b with
  | nil => exact .inl ⟨rfl, List.append_cancel_left h⟩
  | cons c b =>
    change '@' :: (['T', 'a', 'g', 's', '.'] ++ x) = c :: (b ++ (tagMark ++ a)) at h
    obtain ⟨rfl, htail⟩ := List.cons.inj h
    have hw : '@' ∉ ['T', 'a', 'g', 's', '.'] := by decide
    obtain ⟨b', rfl, rfl⟩ := occurrence_of_notMem hw htail
    exact .inr ⟨b', rfl, rfl⟩

theorem occurrence_of_firstAt (h : FirstAt tagMark text before rest)
    (he : text = b ++ (tagMark ++ a)) :
    b = before ∧ a = rest ∨ ∃ b', b = before ++ (tagMark ++ b') ∧ rest = b' ++ (tagMark ++ a) := by
  have hle := h.le_of_eq b a (by simpa using he)
  have hpre : before <+: b :=
    List.prefix_of_prefix_length_le ⟨tagMark ++ rest, by simpa using h.eq.symm⟩ ⟨_, he.symm⟩ hle
  obtain ⟨m, rfl⟩ := hpre
  have hm : tagMark ++ rest = m ++ (tagMark ++ a) := by
    simpa using h.eq.symm.trans he
  rcases occurrence_of_mark hm with ⟨rfl, rfl⟩ | ⟨b', rfl, rfl⟩
  · exact .inl ⟨by simp, rfl⟩
  · exact .inr ⟨b', rfl, rfl⟩

/-- What follows the first mark has no part in its being the first. -/
theorem firstAt_with_rest (h : FirstAt tagMark text before rest) (x : List Char) :
    FirstAt tagMark (before ++ (tagMark ++ x)) before x := by
  refine ⟨by simp, fun b a he => Nat.le_of_not_lt fun hlt => ?_⟩
  have hpre : b ++ tagMark <+: before ++ tagMark := by
    refine List.prefix_of_prefix_length_le ⟨a, he.symm⟩ ⟨x, List.append_assoc ..⟩ ?_
    simp only [List.length_append]
    omega
  obtain ⟨k, hk⟩ := hpre
  have := h.le_of_eq b (k ++ rest) (by rw [h.eq, ← hk]; simp)
  omega

theorem not_mark_infix_of_firstAt (h : FirstAt tagMark text before rest) :
    ¬ tagMark <:+: before := by
  rintro ⟨u, v, rfl⟩
  have hle := h.le_of_eq u (v ++ tagMark ++ rest) (by simpa using h.eq)
  have hpos : 0 < tagMark.length := by decide
  simp only [List.length_append] at hle
  omega

/-- Neither sign of a quoted name is one of the mark, so a mark stands before it or after it. -/
theorem occurrence_of_quoted (hb : ¬ tagMark <:+: before) (hq : '@' ∉ q)
    (h : before ++ (quoted q ++ x) = b ++ (tagMark ++ a)) :
    ∃ b', b = before ++ (quoted q ++ b') ∧ x = b' ++ (tagMark ++ a) := by
  rcases List.append_eq_append_iff.mp h with ⟨m, rfl, hm⟩ | ⟨m, rfl, hm⟩
  · have hquoted : '@' ∉ quoted q := by simp [quoted, hq]
    obtain ⟨b', rfl, rfl⟩ := occurrence_of_notMem hquoted hm
    exact ⟨b', rfl, rfl⟩
  · rcases List.append_eq_append_iff.mp hm with ⟨k, rfl, -⟩ | ⟨k, hk, hx⟩
    · exact absurd ⟨b, k, by simp⟩ hb
    · cases k with
      | nil => exact absurd ⟨b, [], by simp [hk]⟩ hb
      | cons c k =>
        obtain ⟨rfl, -⟩ := List.cons.inj hx
        exact absurd (show '"' ∈ tagMark by simp [hk]) (by decide)

end Occurrences

section References

variable {text before rest name after b n a x q : List Char}

theorem not_isWord_at : isWord '@' = false := by decide

theorem at_notMem_of_word (hw : ∀ c ∈ name, isWord c = true) : '@' ∉ name := by
  intro h
  have := hw '@' h
  simp [not_isWord_at] at this

theorem referenceAt_bare_iff (h : FirstAt tagMark text before rest)
    (hs : ∀ c ∈ rest.head?, isWord c = false) : ReferenceAt text b n a ↔
      ∃ b', b = before ++ (tagMark ++ b') ∧ ReferenceAt rest b' n a := by
  constructor
  · rintro ⟨he, hn, hw, hstop⟩
    rcases occurrence_of_firstAt h he with ⟨rfl, rfl⟩ | ⟨b', rfl, rfl⟩
    · obtain ⟨c, n, rfl⟩ := List.exists_cons_of_ne_nil hn
      have hc := hw c List.mem_cons_self
      simp [hs c rfl] at hc
    · exact ⟨b', rfl, rfl, hn, hw, hstop⟩
  · rintro ⟨b', rfl, rfl, hn, hw, hstop⟩
    exact ⟨by simp [h.eq], hn, hw, hstop⟩

theorem referenceAt_first_iff (h : FirstAt tagMark text before (name ++ after))
    (hn : name ≠ []) (hw : ∀ c ∈ name, isWord c = true)
    (hs : ∀ c ∈ after.head?, isWord c = false) : ReferenceAt text b n a ↔
      b = before ∧ n = name ∧ a = after ∨
        ∃ b', b = before ++ (reference name ++ b') ∧ ReferenceAt after b' n a := by
  constructor
  · rintro ⟨he, hn', hw', hs'⟩
    rcases occurrence_of_firstAt h he with ⟨rfl, hr⟩ | ⟨b', rfl, hr⟩
    · have hname := congrArg (List.takeWhile isWord) hr
      have hafter := congrArg (List.dropWhile isWord) hr
      rw [takeWhile_append_of_stop hw' hs', takeWhile_append_of_stop hw hs] at hname
      rw [dropWhile_append_of_stop hw' hs', dropWhile_append_of_stop hw hs] at hafter
      exact .inl ⟨rfl, hname, hafter⟩
    · obtain ⟨b'', rfl, rfl⟩ := occurrence_of_notMem (at_notMem_of_word hw) hr
      exact .inr ⟨b'', by simp [reference], rfl, hn', hw', hs'⟩
  · rintro (⟨rfl, rfl, rfl⟩ | ⟨b', rfl, rfl, hn', hw', hs'⟩)
    · exact ⟨by simp [h.eq], hn, hw, hs⟩
    · exact ⟨by simp [h.eq, reference], hn', hw', hs'⟩

/-- Cutting a text from the left at the first mark, the rest of the text being cut in the same
way. -/
inductive Cut : List Char → TagText → Prop where
  | unmarked {text : List Char} : ¬ tagMark <:+: text → Cut text ⟨[], text⟩
  | bare {text before rest : List Char} {t : TagText} :
      FirstAt tagMark text before rest → (∀ c ∈ rest.head?, isWord c = false) → Cut rest t →
      Cut text (t.prepend (before ++ tagMark))
  | first {text before name after : List Char} {t : TagText} :
      FirstAt tagMark text before (name ++ after) → name ≠ [] → (∀ c ∈ name, isWord c = true) →
      (∀ c ∈ after.head?, isWord c = false) → Cut after t → Cut text (t.cons before name)

variable {t : TagText} {f : List Char → List Char}

theorem exists_cut (text : List Char) : ∃ t, Cut text t := by
  induction hlen : text.length using Nat.strongRecOn generalizing text with
  | ind n ih =>
    subst hlen
    rcases hc : cutAt? tagMark text with _ | ⟨before, rest⟩
    · exact ⟨_, .unmarked (cutAt?_eq_none_iff.mp hc)⟩
    have hf := cutAt?_eq_some_iff.mp hc
    have hlt := length_after_lt_of_cutAt? (by simp [tagMark]) hc
    have hrest := List.takeWhile_append_dropWhile (p := isWord) (l := rest)
    by_cases hname : rest.takeWhile isWord = []
    · obtain ⟨t, ht⟩ := ih rest.length hlt rest rfl
      rw [hname, List.nil_append] at hrest
      refine ⟨_, .bare hf ?_ ht⟩
      rw [← hrest]
      exact stop_dropWhile rest
    · have hle := (List.dropWhile_suffix isWord (l := rest)).length_le
      obtain ⟨t, ht⟩ := ih _ (Nat.lt_of_le_of_lt hle hlt) (rest.dropWhile isWord) rfl
      rw [← hrest] at hf
      exact ⟨_, .first hf hname (List.all_eq_true.mp List.all_takeWhile) (stop_dropWhile rest) ht⟩

theorem Cut.fill_reference (h : Cut text t) : t.fill reference = text := by
  induction h with
  | unmarked => rfl
  | bare hf _ _ ih => rw [TagText.fill_prepend, ih, hf.eq]
  | first hf _ _ _ _ ih => rw [TagText.fill_cons, ih, hf.eq]; simp [reference]

theorem Cut.hasReference_iff (h : Cut text t) :
    t.HasReference b n ↔ ∃ a, ReferenceAt text b n a := by
  induction h generalizing b with
  | unmarked hn =>
    refine iff_of_false TagText.not_hasReference_nil ?_
    rintro ⟨a, h⟩
    exact hn ⟨b, n ++ a, by simp [h.eq]⟩
  | bare hf hs _ ih =>
    simp only [TagText.hasReference_prepend_iff, ih, referenceAt_bare_iff hf hs]
    constructor
    · rintro ⟨b', rfl, a, ha⟩
      exact ⟨a, b', by simp, ha⟩
    · rintro ⟨a, b', rfl, ha⟩
      exact ⟨b', by simp, a, ha⟩
  | first hf hn hw hs _ ih =>
    simp only [TagText.hasReference_cons_iff, ih, referenceAt_first_iff hf hn hw hs]
    constructor
    · rintro (⟨rfl, rfl⟩ | ⟨b', rfl, a, ha⟩)
      · exact ⟨_, .inl ⟨rfl, rfl, rfl⟩⟩
      · exact ⟨a, .inr ⟨b', rfl, ha⟩⟩
    · rintro ⟨a, ⟨rfl, rfl, rfl⟩ | ⟨b', rfl, ha⟩⟩
      · exact .inl ⟨rfl, rfl⟩
      · exact .inr ⟨b', rfl, a, ha⟩

theorem Cut.mem_names_iff (h : Cut text t) : n ∈ t.names ↔ ∃ b a, ReferenceAt text b n a := by
  rw [← TagText.exists_hasReference_iff]
  exact exists_congr fun b => h.hasReference_iff

section Filled

theorem quoted_ne_reference : quoted q ≠ reference n := by
  intro h
  exact absurd (List.cons.inj h).1 (by decide)

/-- What stands for a reference is the reference or something in quotes. -/
def Fills (f : List Char → List Char) (names : List (List Char)) : Prop :=
  ∀ n ∈ names, f n = reference n ∨ ∃ q, f n = quoted q ∧ '@' ∉ q

theorem firstAt_after_quoted (hf : FirstAt tagMark x before rest) (hb : ¬ tagMark <:+: b)
    (hq : '@' ∉ q) :
    FirstAt tagMark (b ++ (quoted q ++ x)) (b ++ quoted q ++ before) rest := by
  refine ⟨by simp [hf.eq], fun u v he => ?_⟩
  obtain ⟨u', rfl, hx⟩ := occurrence_of_quoted hb hq (he.trans (List.append_assoc ..))
  have hle := hf.le_of_eq u' v (hx.trans (List.append_assoc ..).symm)
  simp only [List.length_append]
  omega

theorem Cut.prepend_quoted (h : Cut x t) (hb : ¬ tagMark <:+: b) (hq : '@' ∉ q) :
    Cut (b ++ (quoted q ++ x)) (t.prepend (b ++ quoted q)) := by
  cases h with
  | unmarked hn =>
    have hcut : ¬ tagMark <:+: b ++ (quoted q ++ x) := by
      rintro ⟨u, v, he⟩
      obtain ⟨u', -, hx⟩ := occurrence_of_quoted (a := v) hb hq (by simpa using he.symm)
      exact hn ⟨u', v, by simp [hx]⟩
    simpa [TagText.prepend] using Cut.unmarked hcut
  | bare hf hs ht =>
    rw [TagText.prepend_prepend, ← List.append_assoc (b ++ quoted q)]
    exact .bare (firstAt_after_quoted hf hb hq) hs ht
  | first hf hn hw hs ht => exact .first (firstAt_after_quoted hf hb hq) hn hw hs ht

theorem stop_fill (hs : ∀ c ∈ (t.fill reference).head?, isWord c = false) (hf : Fills f t.names) :
    ∀ c ∈ (t.fill f).head?, isWord c = false := by
  obtain ⟨_ | ⟨⟨gap, name⟩, pieces⟩, tail⟩ := t
  · exact hs
  · cases gap with
    | nil =>
      rcases hf name List.mem_cons_self with h | ⟨q, h, -⟩
      · rintro c hc
        obtain rfl : '@' = c := by simpa [TagText.fill, h, reference, tagMark] using hc
        exact not_isWord_at
      · rintro c hc
        obtain rfl : '"' = c := by simpa [TagText.fill, h, quoted] using hc
        decide
    | cons d gap => simpa [TagText.fill] using hs

/-- A filled text has the references that stand for themselves, and no others. -/
theorem Cut.fill (h : Cut text t) (hf : Fills f t.names) :
    ∃ t', Cut (t.fill f) t' ∧ t'.names = t.names.filter fun n => f n = reference n := by
  induction h with
  | unmarked hn => exact ⟨_, .unmarked hn, rfl⟩
  | bare hfirst hs ht ih =>
    rw [TagText.names_prepend] at hf
    obtain ⟨t', ht', hnames⟩ := ih hf
    rw [← ht.fill_reference] at hs
    rw [TagText.fill_prepend, List.append_assoc]
    exact ⟨_, .bare (firstAt_with_rest hfirst _) (stop_fill hs hf) ht', by simpa using hnames⟩
  | @first text before name after t hfirst hn hw hs ht ih =>
    rw [TagText.names_cons, Fills, List.forall_mem_cons] at hf
    obtain ⟨t', ht', hnames⟩ := ih hf.2
    rw [← ht.fill_reference] at hs
    rw [TagText.fill_cons, TagText.names_cons]
    rcases hf.1 with hname | ⟨q, hname, hq⟩
    · have hcut : FirstAt tagMark (before ++ (f name ++ t.fill f)) before (name ++ t.fill f) := by
        rw [hname, reference, List.append_assoc]
        exact firstAt_with_rest hfirst _
      exact ⟨_, .first hcut hn hw (stop_fill hs hf.2) ht', by simp [hname, hnames]⟩
    · rw [hname]
      refine ⟨_, ht'.prepend_quoted (not_mark_infix_of_firstAt hfirst) hq, ?_⟩
      simp [hname, hnames, quoted_ne_reference]

end Filled

end References

end Stencil.Macro
