/-! # Edits of a text

An edited text is its source with disjoint stretches replaced; the rest stays in its order. The
edits are told apart by the places of the stretches that they replace.
-/

namespace Stencil

/-- A stretch of a text that is kept, or one that is replaced. -/
inductive Edit where
  | keep (text : List Char)
  | replace (span new : List Char)

namespace Edit

def source : Edit → List Char
  | keep text => text
  | replace span _ => span

def result : Edit → List Char
  | keep text => text
  | replace _ new => new

/-- Among the edits, `span` is replaced by `new` after the text `before`. -/
def Replaces (es : List Edit) (before span new : List Char) : Prop :=
  ∃ l r, es = l ++ replace span new :: r ∧ before = l.flatMap source

variable {es fs : List Edit} {before span new text : List Char}

theorem replaces_append_iff : Replaces (es ++ fs) before span new ↔
    Replaces es before span new ∨
      ∃ b, before = es.flatMap source ++ b ∧ Replaces fs b span new := by
  constructor
  · rintro ⟨l, r, he, rfl⟩
    rcases List.append_eq_append_iff.mp he with ⟨m, rfl, rfl⟩ | ⟨m, rfl, hm⟩
    · exact .inr ⟨m.flatMap source, by simp, m, r, rfl, rfl⟩
    · cases m with
      | nil => exact .inr ⟨[], by simp, [], r, by simpa using hm.symm, rfl⟩
      | cons e m =>
        obtain ⟨rfl, -⟩ := List.cons.inj hm
        exact .inl ⟨l, m, rfl, rfl⟩
  · rintro (⟨l, r, rfl, rfl⟩ | ⟨b, rfl, l, r, rfl, rfl⟩)
    · exact ⟨l, r ++ fs, by simp, rfl⟩
    · exact ⟨es ++ l, r, by simp, by simp⟩

theorem replaces_singleton_iff {e : Edit} :
    Replaces [e] before span new ↔ e = replace span new ∧ before = [] := by
  constructor
  · rintro ⟨l, r, he, rfl⟩
    cases l with
    | nil => exact ⟨(List.cons.inj he).1, rfl⟩
    | cons d l => simp at he
  · rintro ⟨rfl, rfl⟩
    exact ⟨[], [], rfl, rfl⟩

end Edit

open Edit

/-- Some edits turn the source into the result, and exactly the given spans are replaced: `spans`
relates the text before a span, the span and what stands in for it. -/
def EditedBy (source result : List Char) (spans : List Char → List Char → List Char → Prop) :
    Prop :=
  ∃ es : List Edit, es.flatMap Edit.source = source ∧ es.flatMap Edit.result = result ∧
    ∀ before span new, Replaces es before span new ↔ spans before span new

namespace EditedBy

variable {s s' r r' text new : List Char} {P Q : List Char → List Char → List Char → Prop}

theorem keep (text : List Char) : EditedBy text text fun _ _ _ => False := by
  refine ⟨[.keep text], by simp [Edit.source], by simp [Edit.result], ?_⟩
  simp [replaces_singleton_iff]

theorem replace (text new : List Char) :
    EditedBy text new fun before span n => before = [] ∧ span = text ∧ n = new := by
  refine ⟨[.replace text new], by simp [Edit.source], by simp [Edit.result], ?_⟩
  intro before span n
  rw [replaces_singleton_iff, Edit.replace.injEq]
  constructor
  · rintro ⟨⟨rfl, rfl⟩, rfl⟩; exact ⟨rfl, rfl, rfl⟩
  · rintro ⟨rfl, rfl, rfl⟩; exact ⟨⟨rfl, rfl⟩, rfl⟩

theorem append (h : EditedBy s r P) (h' : EditedBy s' r' Q) :
    EditedBy (s ++ s') (r ++ r') fun before span n =>
      P before span n ∨ ∃ b, before = s ++ b ∧ Q b span n := by
  obtain ⟨es, rfl, rfl, hp⟩ := h
  obtain ⟨fs, rfl, rfl, hq⟩ := h'
  refine ⟨es ++ fs, by simp, by simp, ?_⟩
  intro before span n
  simp only [replaces_append_iff, hp, hq]

theorem congr (h : EditedBy s r P) (hpq : ∀ before span n, P before span n ↔ Q before span n) :
    EditedBy s r Q := by
  obtain ⟨es, hs, hr, hp⟩ := h
  exact ⟨es, hs, hr, fun b t n => (hp b t n).trans (hpq b t n)⟩

theorem eq_of_no_span (h : EditedBy s r P) (hp : ∀ before span n, ¬ P before span n) : r = s := by
  obtain ⟨es, rfl, rfl, he⟩ := h
  have hn : ∀ before span n, ¬ Replaces es before span n :=
    fun b t n h => hp b t n ((he b t n).mp h)
  clear he
  induction es with
  | nil => rfl
  | cons e es ih =>
    have hes : ∀ before span new, ¬ Replaces es before span new := by
      rintro _ t n ⟨l, r, rfl, rfl⟩
      exact hn _ t n ⟨e :: l, r, rfl, rfl⟩
    cases e with
    | keep text => simp [Edit.source, Edit.result, ih hes]
    | replace span new => exact absurd ⟨[], es, rfl, rfl⟩ (hn [] span new)

end EditedBy

end Stencil
