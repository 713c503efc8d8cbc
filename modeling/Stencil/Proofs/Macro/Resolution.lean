import Mathlib.Tactic.SplitIfs
import Stencil.Proofs.Macro.Reference

/-! # Resolution of tag references

References are resolved from the left to the right. What each becomes is decided by the names before
the first one that is not registered, and by that name.
-/

namespace Stencil.Macro

def registered (tags : TagRegistry) (name : List Char) : Bool :=
  tags.tags.any (·.name == String.ofList name)

def known (tags : TagRegistry) (names : List (List Char)) : List (List Char) :=
  names.takeWhile (registered tags)

def missing? (tags : TagRegistry) (names : List (List Char)) : Option (List Char) :=
  names.find? (!registered tags ·)

/-- What stands for a reference: names found so far are quoted, the missing one is replaced, and any
other reference is left as it is. -/
def resolved (known : List (List Char)) (missing : Option (List Char)) (name : List Char) :
    List Char :=
  if name ∈ known then quoted name
  else if missing = some name then tagNotFound
  else reference name

def laterReports (known : List (List Char)) (missing : List Char) (later : List (List Char)) :
    List Warning :=
  (later.filter fun name => name ∉ known ∧ name ≠ missing).map fun name =>
    .tagLeftUnresolved (String.ofList name) (String.ofList missing)

/-- A report for the missing name, and one for each later reference that is left as it is. -/
def reports (tags : TagRegistry) (known : List (List Char)) (names : List (List Char)) :
    List Warning :=
  match names.dropWhile (registered tags) with
  | [] => []
  | missing :: later => .tagNotFound (String.ofList missing) :: laterReports known missing later

def TagScan.pass (tags : TagRegistry) (tail : List Char) :
    TagScan → List (List Char × List Char) → List Char × List Warning
  | _, [] => (tail, [])
  | scan, (gap, name) :: pieces =>
    let (text, warnings, scan) := scan.step tags name
    let (rest, more) := scan.pass tags tail pieces
    (gap ++ (text ++ rest), warnings ++ more)

section Scan

variable {tags : TagRegistry} {found names : List (List Char)} {scan : TagScan} {t : TagText}
  {name missing text tail x : List Char} {pieces : List (List Char × List Char)}

theorem isSentinel_lookup (tags : TagRegistry) (hn : name ≠ []) :
    (tags.lookup (String.ofList name)).isSentinel = !registered tags name := by
  have hname : String.ofList name ≠ "" := fun h => hn (String.ofList_eq_empty_iff.mp h)
  rw [TagRegistry.lookup, TagRegistry.find?]
  rcases hf : tags.tags.find? (·.name == String.ofList name) with _ | tag
  · have hr : registered tags name = false := by
      simpa [registered] using hf
    rw [hr, hf]
    rfl
  · have htag : tag.name = String.ofList name := by simpa using List.find?_some hf
    have hr : registered tags name = true :=
      List.any_eq_true.mpr ⟨tag, List.mem_of_find?_eq_some hf, by simp [htag]⟩
    simp [hf, hr, Tag.isSentinel, htag, hname]

theorem pass_prepend : scan.pass tags (t.prepend x).tail (t.prepend x).pieces =
    (x ++ (scan.pass tags t.tail t.pieces).1, (scan.pass tags t.tail t.pieces).2) := by
  obtain ⟨_ | ⟨⟨gap, name⟩, pieces⟩, tail⟩ := t
  · rfl
  · simp [TagText.prepend, TagScan.pass]

/-- Resolving a text from the left resolves the references that it is cut at. -/
theorem Cut.resolveTagsFrom_eq (h : Cut text t) (scan : TagScan) :
    resolveTagsFrom tags scan text = scan.pass tags t.tail t.pieces := by
  induction h generalizing scan with
  | unmarked hn =>
    rw [resolveTagsFrom]
    split
    · rfl
    · rename_i hc
      exact absurd (cutAt?_eq_none_iff.mpr hn) (by simp [hc])
  | @bare text before rest t hf hs _ ih =>
    have hname : rest.takeWhile isWord = [] :=
      takeWhile_append_of_stop (List.forall_mem_nil _) hs
    rw [resolveTagsFrom]
    split
    · rename_i hc
      exact absurd (cutAt?_eq_some_iff.mpr hf) (by simp [hc])
    · rename_i hc
      obtain ⟨rfl, rfl⟩ := hf.unique (cutAt?_eq_some_iff.mp hc)
      simp [hname, ih, pass_prepend]
  | first hf hn hw hs _ ih =>
    rw [resolveTagsFrom]
    split
    · rename_i hc
      exact absurd (cutAt?_eq_some_iff.mpr hf) (by simp [hc])
    · rename_i hc
      obtain ⟨rfl, rfl⟩ := hf.unique (cutAt?_eq_some_iff.mp hc)
      simp [takeWhile_append_of_stop hw hs, dropWhile_append_of_stop hw hs, hn, ih, TagText.cons,
        TagScan.pass]

theorem pass_of_missing (hm : missing ∉ found) (pieces : List (List Char × List Char)) :
    TagScan.pass tags tail ⟨found, some missing⟩ pieces =
      (TagText.fill ⟨pieces, tail⟩ (resolved found (some missing)),
        laterReports found missing (pieces.map (·.2))) := by
  induction pieces with
  | nil => rfl
  | cons p pieces ih =>
    obtain ⟨gap, name⟩ := p
    change _ = ((TagText.cons gap name ⟨pieces, tail⟩).fill (resolved found (some missing)), _)
    rw [TagText.fill_cons, List.map_cons]
    by_cases hn : missing = name
    · subst hn
      simp [TagScan.pass, TagScan.step, ih, resolved, hm, laterReports]
    · by_cases hf : name ∈ found
      · simp [TagScan.pass, TagScan.step, ih, resolved, hn, hf, laterReports]
      · simp [TagScan.pass, TagScan.step, ih, resolved, hn, hf, laterReports, Ne.symm hn, reference]

theorem resolved_reverse (missing : Option (List Char)) :
    resolved found.reverse missing = resolved found missing := by
  funext name
  simp [resolved]

theorem laterReports_reverse (later : List (List Char)) :
    laterReports found.reverse missing later = laterReports found missing later := by
  simp [laterReports]

/-- Before a name is missing, the names that are found grow by each reference. -/
theorem pass_of_none (hf : ∀ name ∈ found, registered tags name = true)
    (hp : ∀ p ∈ pieces, p.2 ≠ []) (hn : names = pieces.map (·.2)) :
    TagScan.pass tags tail ⟨found, none⟩ pieces =
      (TagText.fill ⟨pieces, tail⟩
        (resolved (found.reverse ++ known tags names) (missing? tags names)),
        reports tags (found.reverse ++ known tags names) names) := by
  subst hn
  induction pieces generalizing found with
  | nil => rfl
  | cons p pieces ih =>
    obtain ⟨gap, name⟩ := p
    change _ = ((TagText.cons gap name ⟨pieces, tail⟩).fill _, _)
    rw [TagText.fill_cons, List.map_cons]
    have hname := isSentinel_lookup tags (hp (gap, name) List.mem_cons_self)
    rcases hr : registered tags name with _ | _
    · have hm : name ∉ found := fun h => by simp [hf name h] at hr
      rw [hr] at hname
      simp [TagScan.pass, TagScan.step, hname, pass_of_missing hm, known, missing?, reports, hr,
        resolved_reverse, laterReports_reverse, resolved, hm]
    · have hfound : ∀ n ∈ name :: found, registered tags n = true := by simpa [hr] using hf
      rw [hr] at hname
      simp [TagScan.pass, TagScan.step, hname, ih hfound fun p h => hp p (List.mem_cons_of_mem _ h),
        known, missing?, reports, hr, resolved]

theorem word_of_mem_names (h : Cut text t) : ∀ p ∈ t.pieces, p.2 ≠ [] ∧ '@' ∉ p.2 := by
  intro p hp
  obtain ⟨b, a, hr⟩ := h.mem_names_iff.mp (List.mem_map_of_mem hp)
  exact ⟨hr.ne_nil, at_notMem_of_word hr.word⟩

theorem Cut.resolveTags_eq (h : Cut text t) : resolveTags tags text =
    (t.fill (resolved (known tags t.names) (missing? tags t.names)),
      reports tags (known tags t.names) t.names) :=
  (h.resolveTagsFrom_eq {}).trans
    (pass_of_none (by simp) (fun p hp => (word_of_mem_names h p hp).1) rfl)

theorem resolved_eq_reference_iff {known : List (List Char)} {missing : Option (List Char)} :
    resolved known missing name = reference name ↔ ¬ (name ∈ known ∨ missing = some name) := by
  unfold resolved tagNotFound
  split_ifs <;> simp_all [quoted_ne_reference]

theorem fills_resolved (h : Cut text t) (known : List (List Char)) (missing : Option (List Char)) :
    Fills (resolved known missing) t.names := by
  intro name hname
  obtain ⟨p, hp, rfl⟩ := List.mem_map.mp hname
  unfold resolved
  split_ifs
  · exact .inr ⟨p.2, rfl, (word_of_mem_names h p hp).2⟩
  · exact .inr ⟨_, rfl, by decide⟩
  · exact .inl rfl

/-- A text without references is left as it is, and nothing is reported. -/
theorem Cut.resolveTags_of_names_eq_nil (h : Cut text t) (hn : t.names = []) :
    resolveTags tags text = (text, []) := by
  rw [h.resolveTags_eq, TagText.fill_of_names_eq_nil hn, hn]
  rw [← h.fill_reference, TagText.fill_of_names_eq_nil hn]
  rfl

/-- A text is cut into its references and the text between them, which is kept. A reference becomes
its name in quotes if the name occurs before the first one that is not registered, a reference to
that one is replaced, and any other is left as it is. The missing name is reported, and so is each
reference that is left. No reference is left exactly if the names after the missing one repeat it or
a name before it, and then the result is resolved as itself. -/
theorem resolveTags_by_first_missing (tags : TagRegistry) (text : List Char) :
    ∃ t : TagText, t.fill reference = text ∧
      (∀ before name, t.HasReference before name ↔ ∃ after, ReferenceAt text before name after) ∧
      resolveTags tags text =
        (t.fill (resolved (known tags t.names) (missing? tags t.names)),
          reports tags (known tags t.names) t.names) ∧
      ((∀ before name after, ¬ ReferenceAt (resolveTags tags text).1 before name after) ↔
        ∀ name ∈ t.names, name ∈ known tags t.names ∨ missing? tags t.names = some name) ∧
      ((∀ name ∈ t.names, name ∈ known tags t.names ∨ missing? tags t.names = some name) →
        resolveTags tags (resolveTags tags text).1 = ((resolveTags tags text).1, [])) := by
  obtain ⟨t, ht⟩ := exists_cut text
  obtain ⟨t', ht', hnames⟩ := ht.fill (fills_resolved ht (known tags t.names)
    (missing? tags t.names))
  have hout : (resolveTags tags text).1 =
      t.fill (resolved (known tags t.names) (missing? tags t.names)) := by rw [ht.resolveTags_eq]
  have hnone : t'.names = [] ↔
      ∀ name ∈ t.names, name ∈ known tags t.names ∨ missing? tags t.names = some name := by
    simp only [hnames, List.filter_eq_nil_iff, decide_eq_true_eq, resolved_eq_reference_iff,
      Decidable.not_not]
  refine ⟨t, ht.fill_reference, fun before name => ht.hasReference_iff, ht.resolveTags_eq, ?_, ?_⟩
  · rw [hout, ← hnone, List.eq_nil_iff_forall_not_mem]
    simp only [ht'.mem_names_iff, not_exists]
    exact forall_comm
  · intro h
    rw [hout]
    exact ht'.resolveTags_of_names_eq_nil (hnone.mpr h)

section Ghost

def parentTag : TagRegistry :=
  ⟨[{ name := "parent" }]⟩

def ghostBeforeParent : List Char :=
  "@Tags.ghost @Tags.parent".toList

theorem cut_ghostBeforeParent : Cut ghostBeforeParent
    ⟨[([], "ghost".toList), (" ".toList, "parent".toList)], []⟩ := by
  have hghost : FirstAt tagMark ghostBeforeParent [] ("ghost".toList ++ " @Tags.parent".toList) :=
    cutAt?_eq_some_iff.mp (by decide)
  have hparent : FirstAt tagMark " @Tags.parent".toList " ".toList ("parent".toList ++ []) :=
    cutAt?_eq_some_iff.mp (by decide)
  have hspace : ∀ c ∈ " @Tags.parent".toList.head?, isWord c = false := by
    rintro c hc
    obtain rfl : ' ' = c := Option.some.inj hc
    decide
  have hend : Cut [] ⟨[], []⟩ := .unmarked (cutAt?_eq_none_iff.mp (by decide))
  exact .first hghost (by decide) (List.all_eq_true.mp (by decide)) hspace
    (.first hparent (by decide) (List.all_eq_true.mp (by decide)) (by simp) hend)

/-- One missing name is enough for a reference to be left, for a registered name that was not seen
before it is not looked up after it. -/
theorem exists_reference_left : ¬ ∀ (tags : TagRegistry) (text : List Char),
    (∀ b n a b' n' a', ReferenceAt text b n a → registered tags n = false →
      ReferenceAt text b' n' a' → registered tags n' = false → n = n') →
    ∀ b n a, ¬ ReferenceAt (resolveTags tags text).1 b n a := by
  intro h
  have hone : ∀ n, (∃ b a, ReferenceAt ghostBeforeParent b n a) → registered parentTag n = false →
      n = "ghost".toList := by
    intro n hn hr
    rw [← cut_ghostBeforeParent.mem_names_iff] at hn
    obtain rfl | rfl : n = "ghost".toList ∨ n = "parent".toList := by simpa [TagText.names] using hn
    · rfl
    · exact absurd hr (by decide)
  refine h parentTag ghostBeforeParent ?_ (tagNotFound ++ " ".toList) "parent".toList [] ?_
  · intro b n a b' n' a' hn hr hn' hr'
    rw [hone n ⟨b, a, hn⟩ hr, hone n' ⟨b', a', hn'⟩ hr']
  · rw [cut_ghostBeforeParent.resolveTags_eq]
    exact ⟨by decide, by decide, List.all_eq_true.mp (by decide), by simp⟩

end Ghost

end Scan

end Stencil.Macro
