import Mathlib.Data.List.Infix
import Stencil.Snippet
import Stencil.Proofs.Snippet.Layout
import Stencil.Proofs.Text.Edit

/-! # The braces of a marker

A pass over a text replaces the spans at which it finds markers of one kind. The span of an
implementations or imports marker takes the braces around its comment if they stand on both sides,
and else none of them. The span of a hook takes the braces of each side for themselves, so that it
has the ones without the others where a bare hook stands next to braces of the generated code.
-/

namespace Stencil.Marker

/-- The spans that a pass over a text replaces: the text before a span, the span, and what stands in
for it. The scan goes on behind a marker that it has found. -/
inductive Spans (m : Marker) (f : Found → List Char) :
    (cs before span new : List Char) → Prop where
  | here {cs : List Char} {found : Found} :
      m.find? cs = some found → Spans m f cs [] found.text (f found)
  | skip {c : Char} {cs before span new : List Char} : m.find? (c :: cs) = none →
      Spans m f cs before span new → Spans m f (c :: cs) (c :: before) span new
  | next {cs before span new : List Char} {found : Found} : m.find? cs = some found →
      Spans m f found.rest before span new → Spans m f cs (found.text ++ before) span new

/-- The place of a marker in a text: its comment, the braces that belong to it, and the text before
and after these. -/
structure Site (m : Marker) where
  before : List Char
  opening : List Char
  name : List Char
  mark : List Char
  closing : List Char
  after : List Char
  isComment : m.IsComment name mark
  opening_eq_or : opening = [] ∨ IsOpening opening
  closing_eq_or : closing = [] ∨ IsClosing closing

namespace Site

variable {m : Marker}

def span (s : Site m) : List Char :=
  s.opening ++ (s.mark ++ s.closing)

def text (s : Site m) : List Char :=
  s.before ++ (s.span ++ s.after)

def left (s : Site m) : List Char :=
  s.before ++ s.opening

def right (s : Site m) : List Char :=
  s.closing ++ s.after

end Site

def EndsInOpening (cs : List Char) : Prop :=
  ∃ opening, IsOpening opening ∧ opening <:+ cs

/-- A span has opening braces. -/
def Opens (span : List Char) : Prop :=
  ['{', '{'] <:+: span

/-- A span has closing braces. -/
def Closes (span : List Char) : Prop :=
  ['}', '}'] <:+: span

variable {m : Marker} {f : Found → List Char} {found : Found} {s : Site m}
  {name mark cs before span new rest opening : List Char} {n : Nat}

/-- What a scan finds has the closing that follows the comment exactly if the kind takes it, and an
opening in front of a comment of no hook only together with a closing. -/
theorem exists_site_of_find? (h : m.find? cs = some found) (before : List Char) : ∃ s : Site m,
    s.before = before ∧ s.text = before ++ cs ∧ s.span = found.text ∧
    (s.closing ≠ [] ↔ BeginsClosing s.right ∧ (m = hook ∨ s.opening ≠ [])) ∧
    (s.opening ≠ [] → m = hook ∨ BeginsClosing s.right) := by
  simp only [find?, Option.map_eq_some_iff] at h
  obtain ⟨⟨n, name⟩, hl, rfl⟩ := h
  obtain ⟨opening, mark, closing, rest, rfl, rfl, hm, ho, hc, hcloses, hopens⟩ :=
    exists_braces_of_length? hl
  rw [← beginsClosing_iff] at hcloses hopens
  refine ⟨⟨before, opening, name, mark, closing, rest, hm, ho, hc⟩, rfl, ?_, ?_, hcloses, hopens⟩
  · simp [Site.text, Site.span]
  · have he : opening ++ (mark ++ (closing ++ rest)) = (opening ++ (mark ++ closing)) ++ rest := by
      simp only [List.append_assoc]
    rw [he, List.take_left]
    rfl

/-- Where a comment begins behind an opening, a hook is found, and with a closing any marker. -/
theorem find?_ne_none_of_opening (ho : IsOpening opening) (hm : m.IsComment name mark)
    (h : m = hook ∨ BeginsClosing rest) : m.find? (opening ++ (mark ++ rest)) ≠ none := by
  by_cases hc : BeginsClosing rest
  · obtain ⟨closing, after, rfl, hc⟩ := hc
    rw [find?_of_braced ho hm hc after]
    exact Option.some_ne_none _
  · obtain rfl := h.resolve_right hc
    obtain ⟨n, hn⟩ := length?_of_opened_hook ho hm rest
    rw [find?, hn]
    exact Option.some_ne_none _

theorem exists_last_of_find? (h : m.find? cs = some found) :
    ∃ init c, found.text = init ++ [c] ∧ (c = '/' ∨ c = '}') := by
  obtain ⟨s, -, -, hs, -, -⟩ := exists_site_of_find? h []
  rw [← hs, Site.span]
  rcases s.closing_eq_or with hc | hc
  · obtain ⟨body, hb, -⟩ := s.isComment.exists_body
    exact ⟨s.opening ++ '/' :: '*' :: (body ++ ['*']), '/', by simp [hb, hc], .inl rfl⟩
  · generalize s.closing = closing at hc
    obtain @⟨blanks, -⟩ := hc
    exact ⟨s.opening ++ (s.mark ++ (blanks ++ ['}'])), '}', by simp, .inr rfl⟩

namespace Spans

theorem exists_eq_append (h : Spans m f cs before span new) :
    ∃ rest, cs = before ++ (span ++ rest) := by
  induction h with
  | @here cs found hf => exact ⟨found.rest, (eq_append_of_find? hf).1⟩
  | skip _ _ ih =>
    obtain ⟨rest, rfl⟩ := ih
    exact ⟨rest, rfl⟩
  | next hf _ ih =>
    obtain ⟨rest, hr⟩ := ih
    exact ⟨rest, by rw [(eq_append_of_find? hf).1, hr, List.append_assoc]⟩

theorem exists_find? (h : Spans m f cs before span new) (hcs : cs = before ++ rest) :
    ∃ found, m.find? rest = some found ∧ found.text = span ∧ f found = new := by
  induction h with
  | @here cs found hf => exact ⟨found, by rwa [← show cs = rest from hcs], rfl, rfl⟩
  | skip _ _ ih => exact ih (List.cons.inj hcs).2
  | next hf _ ih =>
    rw [(eq_append_of_find? hf).1, List.append_assoc] at hcs
    exact ih (List.append_cancel_left hcs)

/-- Before a span the scan has tried every opening and found no marker there: no earlier marker
reaches into an opening, for none ends as an opening does. -/
theorem find?_eq_none (h : Spans m f cs before span new) (hcs : cs = before ++ rest)
    (hs : opening <:+ before) (ho : IsOpening opening) : m.find? (opening ++ rest) = none := by
  induction h with
  | here => exact absurd (List.suffix_nil.mp hs) ho.ne_nil
  | @skip c cs before span new hn _ ih =>
    rcases List.suffix_cons_iff.mp hs with rfl | hs
    · rwa [← hcs]
    · exact ih (List.cons.inj hcs).2 hs
  | @next cs before span new found hf _ ih =>
    rw [(eq_append_of_find? hf).1, List.append_assoc] at hcs
    have hrest := List.append_cancel_left hcs
    obtain ⟨init, last, hlast, hc⟩ := exists_last_of_find? hf
    obtain ⟨b, hb⟩ := hs
    rw [hlast, List.append_assoc] at hb
    have hnot : last ∉ opening := by
      rcases hc with rfl | rfl <;> exact ho.notMem (by decide) (by decide)
    obtain ⟨t, -, ht⟩ := append_of_notMem_right hb.symm hnot
    exact ih hrest ⟨t, ht.symm⟩

theorem not_nil : ¬ Spans m f [] before span new := by
  intro h
  obtain ⟨rest, hr⟩ := h.exists_eq_append
  obtain ⟨found, hf, -⟩ := h.exists_find? hr
  have hl := (eq_append_of_find? hf).2
  simp only [List.nil_eq, List.append_eq_nil_iff] at hr
  simp [hr] at hl

theorem iff_of_find?_eq_none {c : Char} (hf : m.find? (c :: cs) = none) :
    Spans m f (c :: cs) before span new ↔ ∃ b, before = c :: b ∧ Spans m f cs b span new := by
  constructor
  · intro h
    cases h with
    | here h => cases hf.symm.trans h
    | skip _ h => exact ⟨_, rfl, h⟩
    | next h _ => cases hf.symm.trans h
  · rintro ⟨b, rfl, h⟩
    exact .skip hf h

theorem iff_of_find?_eq_some (hf : m.find? cs = some found) : Spans m f cs before span new ↔
    (before = [] ∧ span = found.text ∧ new = f found) ∨
      ∃ b, before = found.text ++ b ∧ Spans m f found.rest b span new := by
  constructor
  · intro h
    cases h with
    | here h =>
      obtain rfl := Option.some.inj (hf.symm.trans h)
      exact .inl ⟨rfl, rfl, rfl⟩
    | skip h _ => cases h.symm.trans hf
    | next h h' =>
      obtain rfl := Option.some.inj (hf.symm.trans h)
      exact .inr ⟨_, rfl, h'⟩
  · rintro (⟨rfl, rfl, rfl⟩ | ⟨b, rfl, h⟩)
    · exact .here hf
    · exact .next hf h

/-- The first place at which a marker is found is a span. -/
theorem of_find? (hn : ∀ s, s ≠ [] → s <:+ before → m.find? (s ++ cs) = none)
    (hf : m.find? cs = some found) : Spans m f (before ++ cs) before found.text (f found) := by
  induction before with
  | nil => exact .here hf
  | cons c before ih =>
    refine .skip (hn _ (List.cons_ne_nil c before) List.suffix_rfl) (ih fun s hs hsuf => ?_)
    exact hn s hs (hsuf.trans (List.suffix_cons c before))

end Spans

theorem editedBy_replace (m : Marker) (f : Found → List Char) (cs : List Char) :
    EditedBy cs (m.replace f cs) (Spans m f cs) := by
  generalize hn : cs.length = n
  induction n using Nat.strongRecOn generalizing cs with
  | ind n ih =>
  subst hn
  rcases hf : m.find? cs with _ | found
  · cases cs with
    | nil =>
      exact (EditedBy.keep []).congr fun _ _ _ => (iff_false_intro Spans.not_nil).symm
    | cons c cs =>
      rw [replace_of_find?_eq_none hf]
      have hedit := (EditedBy.keep [c]).append (ih cs.length (Nat.lt_succ_self _) cs rfl)
      refine hedit.congr fun before span new => ?_
      rw [Spans.iff_of_find?_eq_none hf, false_or]
      rfl
  · obtain ⟨he, hl⟩ := eq_append_of_find? hf
    rw [replace_of_find?_eq_some hf]
    have hedit := (EditedBy.replace found.text (f found)).append (ih found.rest.length hl _ rfl)
    rw [← he] at hedit
    exact hedit.congr fun before span new => (Spans.iff_of_find?_eq_some hf).symm

theorem IsComment.closing_notMem (h : m.IsComment name mark) : '}' ∉ mark := by
  obtain ⟨body, rfl, ho⟩ := h.exists_body
  simpa using fun h => (ho _ h).2.2.2 rfl

namespace Site

theorem opens_span_iff (s : Site m) : Opens s.span ↔ s.opening ≠ [] := by
  constructor
  · intro h hn
    have hmem : '{' ∈ s.span := h.subset List.mem_cons_self
    have hclosing : '{' ∉ s.closing := by
      rcases s.closing_eq_or with hc | hc
      · simp [hc]
      · exact hc.notMem (by decide) (by decide)
    rw [span, hn, List.nil_append, List.mem_append] at hmem
    exact hmem.elim s.isComment.brace_notMem hclosing
  · intro hn
    have ho := s.opening_eq_or.resolve_left hn
    rw [Opens, span]
    generalize s.opening = opening at ho
    obtain @⟨blanks, -⟩ := ho
    exact ⟨[], blanks ++ (s.mark ++ s.closing), by simp⟩

theorem closes_span_iff (s : Site m) : Closes s.span ↔ s.closing ≠ [] := by
  constructor
  · intro h hn
    have hmem : '}' ∈ s.span := h.subset List.mem_cons_self
    have hopening : '}' ∉ s.opening := by
      rcases s.opening_eq_or with ho | ho
      · simp [ho]
      · exact ho.notMem (by decide) (by decide)
    rw [span, hn, List.append_nil, List.mem_append] at hmem
    exact hmem.elim hopening s.isComment.closing_notMem
  · intro hn
    have hc := s.closing_eq_or.resolve_left hn
    rw [Closes, span]
    generalize s.closing = closing at hc
    obtain @⟨blanks, -⟩ := hc
    exact ⟨s.opening ++ (s.mark ++ blanks), [], by simp⟩

end Site

/-- The span of a marker has the opening before its comment if the closing follows as well, and the
other way round. A hook has each of them by itself. -/
theorem exists_site_of_spans (h : Spans m f cs before span new) : ∃ s : Site m,
    s.text = cs ∧ s.before = before ∧ s.span = span ∧
    (Opens span ↔ EndsInOpening s.left ∧ (m = hook ∨ BeginsClosing s.right)) ∧
    (Closes span ↔ BeginsClosing s.right ∧ (m = hook ∨ EndsInOpening s.left)) := by
  obtain ⟨rest, hcs⟩ := h.exists_eq_append
  obtain ⟨found, hf, rfl, -⟩ := h.exists_find? hcs
  obtain ⟨s, rfl, htext, hspan, hcloses, hopens⟩ := exists_site_of_find? hf before
  have hopening : s.opening ≠ [] ↔ EndsInOpening s.left ∧ (m = hook ∨ BeginsClosing s.right) := by
    constructor
    · intro hn
      exact ⟨⟨s.opening, s.opening_eq_or.resolve_left hn, List.suffix_append _ _⟩, hopens hn⟩
    · rintro ⟨⟨opening, ho, hs⟩, hm⟩ hn
      -- Had the comment an opening before it, the marker would have been found there.
      rw [Site.left, hn, List.append_nil] at hs
      have hcut : cs = s.before ++ (s.mark ++ s.right) := by
        rw [hcs, ← htext]
        simp [Site.text, Site.span, Site.right, hn]
      exact find?_ne_none_of_opening ho s.isComment hm (h.find?_eq_none hcut hs ho)
  have hclosing : s.closing ≠ [] ↔ BeginsClosing s.right ∧ (m = hook ∨ EndsInOpening s.left) := by
    rw [hcloses, hopening]
    grind
  refine ⟨s, htext.trans hcs.symm, rfl, hspan, ?_, ?_⟩
  · rw [← hspan, s.opens_span_iff, hopening]
  · rw [← hspan, s.closes_span_iff, hclosing]

/-- A text is changed where a pass finds markers of a kind. Each span has braces on both sides or on
none, unless it is a hook with braces on one side only. -/
def Pass (m : Marker) (f : Found → List Char) (cs cs' : List Char) : Prop :=
  EditedBy cs cs' (Spans m f cs) ∧
    ∀ before span new, Spans m f cs before span new → ∃ s : Site m,
      s.text = cs ∧ s.before = before ∧ s.span = span ∧
      (Opens span ↔ EndsInOpening s.left ∧ (m = hook ∨ BeginsClosing s.right)) ∧
      (Closes span ↔ BeginsClosing s.right ∧ (m = hook ∨ EndsInOpening s.left)) ∧
      ((Opens span ↔ Closes span) ↔
        (m = hook → (EndsInOpening s.left ↔ BeginsClosing s.right)))

theorem pass_replace (m : Marker) (f : Found → List Char) (cs : List Char) :
    Pass m f cs (m.replace f cs) := by
  refine ⟨editedBy_replace m f cs, fun before span new h => ?_⟩
  obtain ⟨s, htext, hbefore, hspan, hopens, hcloses⟩ := exists_site_of_spans h
  refine ⟨s, htext, hbefore, hspan, hopens, hcloses, ?_⟩
  rw [hopens, hcloses]
  by_cases hm : m = hook <;> simp [hm, and_comm]

end Stencil.Marker

namespace Stencil.Snippet

open Marker

/-- Collapsing and the insertion of hooks, implementations and imports change a template where they
find markers. The span of a marker has an opening exactly if it has a closing, unless the marker is
a hook with braces on one side only. -/
theorem spans_paired_iff (template : List Char) :
    (∃ unhooked filled, Pass hook (fun _ => []) template unhooked ∧
      Pass implementations (fun _ => []) unhooked filled ∧
      Pass .imports (fun _ => []) filled (collapse template)) ∧
    (∀ fs dir, Pass hook (fun found => hookText fs dir found.name ++ found.text) template
      (insertHooks fs dir template)) ∧
    ∀ m text, Pass m (fun found => text ++ found.text) template (m.insertBefore text template) :=
  ⟨⟨_, _, pass_replace _ _ _, pass_replace _ _ _, pass_replace _ _ _⟩,
    fun _ _ => pass_replace _ _ _, fun _ _ => pass_replace _ _ _⟩

def blocks : List Char :=
  r"func f() { if ok { ".toList

/-- A bare hook, and the braces that close the blocks. -/
def hookInBlocks : List Char :=
  r#"/* FUNCTION_IMPLEMENTATIONS hook="x" */ }}"#.toList

theorem not_paired_of_hookInBlocks :
    Spans hook (fun _ => []) (blocks ++ hookInBlocks) blocks hookInBlocks [] ∧
      ¬ Opens hookInBlocks ∧ Closes hookInBlocks ∧ collapse (blocks ++ hookInBlocks) = blocks := by
  have hlength : hook.length? hookInBlocks = some (hookInBlocks.length, ['x']) := by decide +kernel
  have hfound : hook.find? hookInBlocks = some ⟨hookInBlocks, "x", []⟩ := by
    rw [find?, hlength]
    rfl
  have hnone : ∀ s ∈ blocks.tails, s ≠ [] → (hook.find? (s ++ hookInBlocks)).isNone = true := by
    decide +kernel
  refine ⟨?_, ?_, ?_, by decide +kernel⟩
  · refine Spans.of_find? (fun s hs hsuf => ?_) hfound
    exact Option.isNone_iff_eq_none.mp (hnone s ((List.mem_tails s blocks).mpr hsuf) hs)
  · exact fun h => absurd (h.subset List.mem_cons_self) (by decide)
  · exact ⟨hookInBlocks.take 40, [], by decide +kernel⟩

end Stencil.Snippet
