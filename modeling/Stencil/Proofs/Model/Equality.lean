import Mathlib.Data.List.Forall2
import Stencil.Model

/-! # Equality of values

Floating point numbers are compared as numbers, so a directive, a field or a model that holds one
need not equal itself. Equality is symmetric and transitive still.
-/

namespace Stencil

theorem Double.equals_comm (x y : Double) : x.equals y = y.equals x := by
  simp only [equals, Bool.and_comm (!x.isNaN), Bool.and_comm x.isZero, Bool.beq_comm (a := x.bits)]

theorem Double.equals_trans {x y z : Double} (h : x.equals y = true) (h' : y.equals z = true) :
    x.equals z = true := by
  simp only [equals, Bool.and_eq_true, Bool.or_eq_true, beq_iff_eq] at h h' ⊢
  obtain ⟨⟨hx, -⟩, hxy⟩ := h
  obtain ⟨⟨-, hz⟩, hyz⟩ := h'
  refine ⟨⟨hx, hz⟩, ?_⟩
  rcases hxy with hxy | ⟨hx0, hy0⟩
  · rcases hyz with hyz | ⟨hy0, hz0⟩
    · exact .inl (hxy.trans hyz)
    · have hxy : x = y := congrArg Double.mk hxy
      exact .inr ⟨hxy ▸ hy0, hz0⟩
  · rcases hyz with hyz | ⟨-, hz0⟩
    · have hyz : y = z := congrArg Double.mk hyz
      exact .inr ⟨hx0, hyz ▸ hy0⟩
    · exact .inr ⟨hx0, hz0⟩

namespace Directive

mutual

theorem equals_comm (a b : Directive) : a.equals b = b.equals a := by
  cases a with
  | list as =>
    cases b with
    | list bs => simpa only [equals] using equalItems_comm as bs
    | _ => rfl
  | map as =>
    cases b with
    | map bs => simpa only [equals] using equalFields_comm as bs
    | _ => rfl
  | float x =>
    cases b with
    | float y => simpa only [equals] using x.equals_comm y
    | _ => rfl
  | _ => cases b <;> simp only [equals, Bool.beq_comm]

theorem equalItems_comm (as bs : List Directive) : equalItems as bs = equalItems bs as := by
  cases as with
  | nil => cases bs <;> rfl
  | cons a as =>
    cases bs with
    | nil => rfl
    | cons b bs => simp only [equalItems, equals_comm a b, equalItems_comm as bs]

theorem equalFields_comm (as bs : List (String × Directive)) :
    equalFields as bs = equalFields bs as := by
  match as, bs with
  | [], [] | [], _ :: _ | _ :: _, [] => rfl
  | (k, a) :: as, (l, b) :: bs =>
    simp only [equalFields, equals_comm a b, equalFields_comm as bs, Bool.beq_comm (a := k)]

end

mutual

theorem equals_trans {a b c : Directive} (h : a.equals b = true) (h' : b.equals c = true) :
    a.equals c = true := by
  cases a <;> cases b <;> simp only [equals, Bool.false_eq_true] at h <;>
    cases c <;> simp only [equals, Bool.false_eq_true] at h' ⊢
  case list.list.list => exact equalItems_trans h h'
  case map.map.map => exact equalFields_trans h h'
  case float.float.float => exact Double.equals_trans h h'
  all_goals exact beq_iff_eq.mpr ((beq_iff_eq.mp h).trans (beq_iff_eq.mp h'))

theorem equalItems_trans {as bs cs : List Directive} (h : equalItems as bs = true)
    (h' : equalItems bs cs = true) : equalItems as cs = true := by
  match as, bs, cs with
  | [], [], [] => rfl
  | a :: as, b :: bs, c :: cs =>
    simp only [equalItems, Bool.and_eq_true] at h h' ⊢
    exact ⟨equals_trans h.1 h'.1, equalItems_trans h.2 h'.2⟩

theorem equalFields_trans {as bs cs : List (String × Directive)} (h : equalFields as bs = true)
    (h' : equalFields bs cs = true) : equalFields as cs = true := by
  match as, bs, cs with
  | [], [], [] => rfl
  | (j, a) :: as, (k, b) :: bs, (l, c) :: cs =>
    simp only [equalFields, Bool.and_eq_true, beq_iff_eq] at h h' ⊢
    exact ⟨⟨h.1.1.trans h'.1.1, equals_trans h.1.2 h'.1.2⟩, equalFields_trans h.2 h'.2⟩

end

end Directive

namespace Field

theorem equals_comm (f g : Field) : f.equals g = g.equals f := by
  simp only [equals, Directive.equalFields_comm f.directives, Bool.beq_comm (a := f.name),
    Bool.beq_comm (a := f.type), Bool.beq_comm (a := f.description),
    Bool.beq_comm (a := f.optional), Bool.beq_comm (a := f.tags)]

theorem equals_trans {f g h : Field} (hfg : f.equals g = true) (hgh : g.equals h = true) :
    f.equals h = true := by
  simp only [equals, Bool.and_eq_true, beq_iff_eq] at hfg hgh ⊢
  obtain ⟨⟨⟨⟨⟨hn, ht⟩, hd⟩, ho⟩, hds⟩, hts⟩ := hfg
  obtain ⟨⟨⟨⟨⟨hn', ht'⟩, hd'⟩, ho'⟩, hds'⟩, hts'⟩ := hgh
  exact ⟨⟨⟨⟨⟨hn.trans hn', ht.trans ht'⟩, hd.trans hd'⟩, ho.trans ho'⟩,
    Directive.equalFields_trans hds hds'⟩, hts.trans hts'⟩

theorem equalLists_iff_forall₂ {fs gs : List Field} :
    equalLists fs gs = true ↔ List.Forall₂ (fun f g => f.equals g = true) fs gs := by
  induction fs generalizing gs with
  | nil => cases gs <;> simp [equalLists]
  | cons f fs ih => cases gs <;> simp [equalLists, ih]

theorem equalLists_comm (fs gs : List Field) : equalLists fs gs = equalLists gs fs := by
  induction fs generalizing gs with
  | nil => cases gs <;> rfl
  | cons f fs ih =>
    cases gs with
    | nil => rfl
    | cons g gs => simp only [equalLists, equals_comm f g, ih gs]

theorem equalLists_trans {fs gs hs : List Field} (hfg : equalLists fs gs = true)
    (hgh : equalLists gs hs = true) : equalLists fs hs = true := by
  match fs, gs, hs with
  | [], [], [] => rfl
  | f :: fs, g :: gs, h :: hs =>
    simp only [equalLists, Bool.and_eq_true] at hfg hgh ⊢
    exact ⟨equals_trans hfg.1 hgh.1, equalLists_trans hfg.2 hgh.2⟩

end Field

namespace Model

theorem equals_comm (m n : Model) : m.equals n = n.equals m := by
  simp only [equals, Field.equalLists_comm m.fields, Directive.equalFields_comm m.directives,
    Bool.beq_comm (a := m.name), Bool.beq_comm (a := m.enums), Bool.beq_comm (a := m.description)]

theorem equals_trans {l m n : Model} (hlm : l.equals m = true) (hmn : m.equals n = true) :
    l.equals n = true := by
  simp only [equals, Bool.and_eq_true, beq_iff_eq] at hlm hmn ⊢
  obtain ⟨⟨⟨⟨hn, hf⟩, he⟩, hd⟩, hds⟩ := hlm
  obtain ⟨⟨⟨⟨hn', hf'⟩, he'⟩, hd'⟩, hds'⟩ := hmn
  exact ⟨⟨⟨⟨hn.trans hn', Field.equalLists_trans hf hf'⟩, he.trans he'⟩, hd.trans hd'⟩,
    Directive.equalFields_trans hds hds'⟩

theorem name_eq_of_equals {m n : Model} (h : m.equals n = true) : m.name = n.name := by
  simp only [equals, Bool.and_eq_true, beq_iff_eq] at h
  exact h.1.1.1.1

end Model

end Stencil
