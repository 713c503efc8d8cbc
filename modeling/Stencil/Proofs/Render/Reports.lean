import Stencil.Helper
import Stencil.Proofs.Generation.Action
import Stencil.RenderFault

/-! # Reports of rendering

An action relates the states before and after it, and what holds of its steps in this way holds of
the whole if the relation composes. Rendering only adds to the reports, and all that it adds comes
from the helpers that a template calls.
-/

namespace Stencil

section Moves

variable {σ ε α β : Type} {R : σ → σ → Prop} {x : ExceptT ε (StateM σ) α}
  {f : α → ExceptT ε (StateM σ) β}

/-- Whatever comes of the action, the states before and after it are related. -/
def Moves (R : σ → σ → Prop) (x : ExceptT ε (StateM σ) α) : Prop :=
  ∀ s, R s (x.run s).2

section Refl

variable [Std.Refl R]

theorem moves_pure (a : α) : Moves R (pure a : ExceptT ε (StateM σ) α) :=
  fun s => Std.Refl.refl s

theorem moves_throw (e : ε) : Moves R (throw e : ExceptT ε (StateM σ) α) :=
  fun s => Std.Refl.refl s

theorem moves_liftM (r : Except ε α) : Moves R (liftM r : ExceptT ε (StateM σ) α) := by
  intro s
  cases r <;> exact Std.Refl.refl s

end Refl

section Trans

variable [Trans R R R]

theorem Moves.bind (hx : Moves R x) (hf : ∀ a, Moves R (f a)) : Moves R (x >>= f) := by
  intro s
  have h := hx s
  rcases hr : x.run s with ⟨e | a, s₁⟩ <;> rw [hr] at h
  · rwa [run_bind_error hr]
  · rw [run_bind_ok hr]
    exact Trans.trans h (hf a s₁)

theorem Moves.tryCatch {g : ε → ExceptT ε (StateM σ) α} (hx : Moves R x) (hg : ∀ e, Moves R (g e)) :
    Moves R (MonadExcept.tryCatch x g) := by
  intro s
  have h := hx s
  rw [run_tryCatch]
  rcases hr : x.run s with ⟨e | a, s₁⟩ <;> rw [hr] at h
  · exact Trans.trans h (hg e s₁)
  · exact h

end Trans

variable [Std.Refl R] [Trans R R R]

theorem Moves.map (hx : Moves R x) (g : α → β) : Moves R (g <$> x) := by
  rw [map_eq_pure_bind]
  exact hx.bind fun a => moves_pure (g a)

theorem Moves.foldlM {γ : Type} {g : γ → α → ExceptT ε (StateM σ) γ} (hg : ∀ c a, Moves R (g c a))
    (l : List α) (c : γ) : Moves R (l.foldlM g c) := by
  induction l generalizing c with
  | nil => exact moves_pure c
  | cons a l ih =>
    rw [List.foldlM_cons]
    exact (hg c a).bind ih

end Moves

/-- Warnings are added, and all that are added have the property. -/
def Adds (P : Warning → Prop) (ws ws' : List Warning) : Prop :=
  ∃ more, ws' = ws ++ more ∧ ∀ w ∈ more, P w

instance (P : Warning → Prop) : Std.Refl (Adds P) where
  refl ws := ⟨[], (List.append_nil ws).symm, List.forall_mem_nil P⟩

instance (P : Warning → Prop) : Trans (Adds P) (Adds P) (Adds P) where
  trans := by
    rintro ws _ _ ⟨more, rfl, h⟩ ⟨more', rfl, h'⟩
    exact ⟨more ++ more', List.append_assoc .., List.forall_mem_append.mpr ⟨h, h'⟩⟩

section Helpers

variable {α : Type} {h : Helper} {v : Json} {ws : List Warning}

def Modest (r : HelperResult) : Prop :=
  ∀ v ws, r = .ok (v, ws) → ∀ w ∈ ws, w.isOfHelper = true

theorem modest_ok (hws : ∀ w ∈ ws, w.isOfHelper = true) : Modest (.ok (v, ws)) := by
  rintro _ _ ⟨⟩
  exact hws

theorem modest_silent (v : Json) : Modest (.ok (v, [])) :=
  modest_ok (List.forall_mem_nil _)

theorem Modest.bind {f : α → HelperResult} (hf : ∀ a, Modest (f a)) (x : Except HelperError α) :
    Modest (x >>= f) := by
  cases x with
  | error e => rintro _ _ ⟨⟩
  | ok a => exact hf a

theorem isOfHelper_of_directiveText? (owner : Json) (name : String) :
    ∀ w ∈ (Helper.directiveText? owner name).2, w.isOfHelper = true := by
  unfold Helper.directiveText?
  split
  · simp
  · simp
  · simp
  · simp [Warning.isOfHelper]

namespace Helper

theorem modest_ofText (name param : String) (f : String → Json) (args : List Json) :
    Modest ((ofText name param f).call args) :=
  Modest.bind (fun _ => modest_silent _) _

theorem modest_goTypeWithPrefix (args : List Json) : Modest (goTypeWithPrefix.call args) :=
  Modest.bind (fun _ => modest_silent _) _

theorem modest_add (args : List Json) : Modest (add.call args) := by
  refine Modest.bind (fun a => Modest.bind (fun b => ?_) _) _
  dsimp only
  split
  · exact modest_silent _
  · rintro _ _ ⟨⟩

theorem modest_ofDirective (name owner : String) (args : List Json) :
    Modest ((ofDirective name owner).call args) :=
  Modest.bind (fun _ => Modest.bind (fun _ => modest_ok (isOfHelper_of_directiveText? _ _)) _) _

theorem modest_modelDirectiveList (args : List Json) : Modest (modelDirectiveList.call args) := by
  refine Modest.bind (fun model => Modest.bind (fun name => ?_) _) _
  split
  · exact modest_silent _
  · exact modest_silent _
  · exact modest_silent _
  · exact modest_ok (by simp [Warning.isOfHelper])

theorem modest_fieldHasTag (args : List Json) : Modest (fieldHasTag.call args) :=
  Modest.bind (fun _ => Modest.bind (fun _ => modest_silent _) _) _

theorem modest_modelTaggedFieldName (args : List Json) :
    Modest (modelTaggedFieldName.call args) :=
  Modest.bind (fun _ => Modest.bind (fun _ => modest_silent _) _) _

theorem modest_ofMaskedField (name mask key : String) (f : List Char → List Char)
    (args : List Json) : Modest ((ofMaskedField name mask key f).call args) := by
  refine Modest.bind (fun field => ?_) _
  have hws := isOfHelper_of_directiveText? field mask
  split
  next hd =>
    rw [hd] at hws
    exact modest_ok hws
  next hd =>
    rw [hd] at hws
    exact modest_ok hws

theorem modest_of_mem (hm : h ∈ catalog) (args : List Json) : Modest (h.call args) := by
  revert h
  simp only [catalog, List.forall_mem_cons, modest_ofText, modest_goTypeWithPrefix, modest_add,
    modest_ofDirective, modest_modelDirectiveList, modest_fieldHasTag,
    modest_modelTaggedFieldName, modest_ofMaskedField, List.not_mem_nil, false_implies,
    implies_true, and_self]

end Helper

end Helpers

section OfHelpers

variable {ε α β : Type} {x : Reporting ε α} {f : α → Reporting ε β}

theorem ofHelpers_iff : OfHelpers x ↔ Moves (Adds fun w => w.isOfHelper = true) x :=
  .rfl

namespace OfHelpers

theorem pure (a : α) : OfHelpers (pure a : Reporting ε α) :=
  ofHelpers_iff.mpr (moves_pure a)

theorem throw (e : ε) : OfHelpers (throw e : Reporting ε α) :=
  ofHelpers_iff.mpr (moves_throw e)

theorem lift (r : Except ε α) : OfHelpers (liftM r : Reporting ε α) :=
  ofHelpers_iff.mpr (moves_liftM r)

theorem adapt {ε' : Type} (hx : OfHelpers x) (g : ε → ε') : OfHelpers (x.adapt g) :=
  hx

theorem bind (hx : OfHelpers x) (hf : ∀ a, OfHelpers (f a)) : OfHelpers (x >>= f) :=
  ofHelpers_iff.mpr ((ofHelpers_iff.mp hx).bind hf)

theorem map (hx : OfHelpers x) (g : α → β) : OfHelpers (g <$> x) :=
  ofHelpers_iff.mpr ((ofHelpers_iff.mp hx).map g)

theorem tryCatch {g : ε → Reporting ε α} (hx : OfHelpers x) (hg : ∀ e, OfHelpers (g e)) :
    OfHelpers (MonadExcept.tryCatch x g) :=
  ofHelpers_iff.mpr ((ofHelpers_iff.mp hx).tryCatch hg)

theorem call {name : String} {h : Helper} (hf : Helper.find? name = some h) (args : List Json) :
    OfHelpers (Rendering.ofHelper (h.call args)) := by
  have hm := Helper.modest_of_mem (List.mem_of_find?_eq_some hf) args
  rcases hc : h.call args with e | ⟨v, ws⟩
  · exact .throw _
  · exact fun s => ⟨ws, rfl, hm v ws hc⟩

end OfHelpers

end OfHelpers

end Stencil
