import Stencil.Generation

/-! # Runs of actions

What the parts of a run do to the world, and how a list of steps succeeds or stops at the first step
that fails.
-/

namespace Stencil

section Results

variable {ε α σ : Type} {x : Except ε α} {a : α}

theorem eq_ok_getD (default : α) (h : x.isOk = true) :
    x = .ok (x.toOption.getD default) := by
  cases x with
  | error e => cases h
  | ok a => rfl

theorem toOption_eq_some_iff : x.toOption = some a ↔ x = .ok a := by
  cases x <;> simp [Except.toOption]

theorem eq_ok_of_toOption (h : x.toOption = some a) : x = .ok a :=
  toOption_eq_some_iff.mp h

theorem eq_mk_of_toOption {p : Except ε α × σ} (h : p.1.toOption = some a) :
    p = (.ok a, p.2) :=
  Prod.ext (eq_ok_of_toOption h) rfl

theorem exists_error_of_toOption {p : Except ε α × σ} (h : p.1.toOption = none) :
    ∃ e, p = (.error e, p.2) := by
  obtain ⟨e | a, s⟩ := p
  · exact ⟨e, rfl⟩
  · cases h

end Results

section Bind

variable {σ ε α β : Type} {x : ExceptT ε (StateM σ) α} {f : α → ExceptT ε (StateM σ) β}
  {s s' : σ} {a : α} {e : ε}

theorem run_bind_ok (h : x.run s = (.ok a, s')) : (x >>= f).run s = (f a).run s' := by
  change (x >>= f).run.run s = _
  rw [ExceptT.run_bind, StateT.run_bind]
  change x.run.run s = _ at h
  rw [h]
  rfl

theorem run_bind_error (h : x.run s = (.error e, s')) : (x >>= f).run s = (.error e, s') := by
  change (x >>= f).run.run s = _
  rw [ExceptT.run_bind, StateT.run_bind]
  change x.run.run s = _ at h
  rw [h]
  rfl

theorem exists_of_run_bind_ok {b : β} (h : (x >>= f).run s = (.ok b, s')) :
    ∃ a s₁, x.run s = (.ok a, s₁) ∧ (f a).run s₁ = (.ok b, s') := by
  rcases hx : x.run s with ⟨e | a, s₁⟩
  · rw [run_bind_error hx] at h
    cases h
  · rw [run_bind_ok hx] at h
    exact ⟨a, s₁, rfl, h⟩

theorem run_tryCatch (x : ExceptT ε (StateM σ) α) (g : ε → ExceptT ε (StateM σ) α) (s : σ) :
    (tryCatch x g).run s = match x.run s with
      | (.ok a, s₁) => (.ok a, s₁)
      | (.error e, s₁) => (g e).run s₁ := by
  change (tryCatch x g).run.run s = _
  rw [ExceptT.run_tryCatch, StateT.run_bind]
  change (do let p ← x.run s; _ : Id _) = _
  rcases x.run s with ⟨e | a, s₁⟩ <;> rfl

theorem eq_of_error_eq {e' : ε} (h : ((.error e, s) : Except ε α × σ) = (.error e', s')) : e = e' :=
  Except.error.inj (Prod.ext_iff.mp h).1

end Bind

def World.report (w : World) (ws : List Warning) : World :=
  { w with warnings := w.warnings ++ ws }

@[simp]
theorem World.files_report (w : World) (ws : List Warning) : (w.report ws).files = w.files := rfl

theorem World.report_report (w : World) (ws ws' : List Warning) :
    (w.report ws).report ws' = w.report (ws ++ ws') := by
  simp [report]

namespace Generating

variable {α β : Type} {w : World} {e : GenerationError}

theorem run_get : (get : Generating World).run w = (.ok w, w) := rfl

theorem run_warn (ws : List Warning) : (warn ws).run w = (.ok (), w.report ws) := rfl

theorem run_orThrow (x : Except GenerationError α) : (orThrow x).run w = (x, w) := by
  cases x <;> rfl

theorem run_orThrow_bind (x : Except GenerationError α) (f : α → Generating β) :
    (orThrow x >>= f).run w = match x with
      | .error e => (.error e, w)
      | .ok a => (f a).run w := by
  cases x <;> rfl

theorem run_reporting_bind (x : Reporting GenerationError α) (f : α → Generating β) :
    (reporting x >>= f).run w = match (x.run []).1 with
      | .error e => (.error e, w.report (x.run []).2)
      | .ok a => (f a).run (w.report (x.run []).2) := by
  have hrun : (reporting x).run w = ((x.run []).1, w.report (x.run []).2) := by
    unfold reporting
    rcases x.run [] with ⟨result, ws⟩
    exact (run_bind_ok (run_warn ws)).trans (run_orThrow result)
  rcases hr : (x.run []).1 with e | a <;> rw [hr] at hrun
  · exact run_bind_error hrun
  · exact run_bind_ok hrun

theorem run_onFiles (x : FileAction α) :
    (onFiles x).run w = ((x.run w.files).1, { w with files := (x.run w.files).2 }) := by
  unfold onFiles
  rw [run_bind_ok run_get]
  rcases x.run w.files with ⟨result, fs⟩
  cases result <;> rfl

theorem run_onFiles_bind_ok (w : World) {x : FileAction α} {f : α → Generating β} {fs : FileSystem}
    {a : α} (h : x.run w.files = (.ok a, fs)) :
    (onFiles x >>= f).run w = (f a).run { w with files := fs } :=
  run_bind_ok (by rw [run_onFiles, h])

theorem run_onFiles_bind_error (w : World) {x : FileAction α} {f : α → Generating β}
    {fs : FileSystem} (h : x.run w.files = (.error e, fs)) :
    (onFiles x >>= f).run w = (.error e, { w with files := fs }) :=
  run_bind_error (by rw [run_onFiles, h])

theorem run_within (target api : String) (x : Generating α) : (within target api x).run w =
    ((x.run w).1.mapError (.within target api), (x.run w).2) := by
  unfold within
  rw [run_tryCatch]
  rcases x.run w with ⟨e | a, w'⟩ <;> rfl

end Generating

open Generating

/-- The steps for the elements of a list succeed, one after the other. -/
inductive Completes {α β : Type} (step : α → Generating β) : List α → World → World → Prop where
  | nil (w : World) : Completes step [] w w
  | cons {a : α} {as : List α} {b : β} {w w₁ w₂ : World} :
      (step a).run w = (.ok b, w₁) → Completes step as w₁ w₂ → Completes step (a :: as) w w₂

/-- The steps stop at an element: those for the elements before it succeed, and its own step
fails. -/
def StopsAt {α β : Type} (step : α → Generating β) (l : List α) (w : World) (a : α) (w₁ : World) :
    Prop :=
  ∃ done later, l = done ++ a :: later ∧ Completes step done w w₁

/-- The steps of a fold do what the steps `f` do, but for the value and what `wrap` adds to an
error. -/
def Follows {α β γ : Type} (f : α → Generating β) (wrap : α → GenerationError → GenerationError)
    (g : γ → α → Generating γ) : Prop :=
  ∀ c a w, (∀ b w', (f a).run w = (.ok b, w') → ∃ c', (g c a).run w = (.ok c', w')) ∧
    ∀ e w', (f a).run w = (.error e, w') → (g c a).run w = (.error (wrap a e), w')

section Folds

variable {α β γ : Type} {f : α → Generating β} {wrap : α → GenerationError → GenerationError}
  {g : γ → α → Generating γ} {l done later : List α} {a : α} {c : γ} {w w' w₁ w₂ : World}
  {e : GenerationError}

theorem run_foldlM_cons_ok {c' : γ} (h : (g c a).run w = (.ok c', w₁)) :
    (List.foldlM g c (a :: l)).run w = (List.foldlM g c' l).run w₁ := by
  rw [List.foldlM_cons, run_bind_ok h]

theorem run_foldlM_cons_error (h : (g c a).run w = (.error e, w₁)) :
    (List.foldlM g c (a :: l)).run w = (.error e, w₁) := by
  rw [List.foldlM_cons, run_bind_error h]

/-- A fold ends in the error of the first step that fails. -/
theorem run_foldlM_error (hf : Follows f wrap g) (hd : Completes f done w w₁)
    (he : (f a).run w₁ = (.error e, w₂)) :
    (List.foldlM g c (done ++ a :: later)).run w = (.error (wrap a e), w₂) := by
  induction hd generalizing c with
  | nil w => exact run_foldlM_cons_error ((hf c a w).2 e w₂ he)
  | @cons b bs v w w₁ w₃ hb _ ih =>
    obtain ⟨c', hc⟩ := (hf c b w).1 v w₁ hb
    rw [List.cons_append, run_foldlM_cons_ok hc]
    exact ih he

theorem run_foldlM_cases (hf : Follows f wrap g) (l : List α) (c : γ) (w : World) :
    (∃ c' w', (List.foldlM g c l).run w = (.ok c', w') ∧ Completes f l w w') ∨
      ∃ a w₁ e w₂, StopsAt f l w a w₁ ∧ (f a).run w₁ = (.error e, w₂) ∧
        (List.foldlM g c l).run w = (.error (wrap a e), w₂) := by
  induction l generalizing c w with
  | nil => exact .inl ⟨c, w, rfl, .nil w⟩
  | cons a l ih =>
    rcases hr : (f a).run w with ⟨e | b, w₁⟩
    · refine .inr ⟨a, w, e, w₁, ⟨[], l, rfl, .nil w⟩, hr, ?_⟩
      exact run_foldlM_cons_error ((hf c a w).2 e w₁ hr)
    · obtain ⟨c', hc⟩ := (hf c a w).1 b w₁ hr
      rw [run_foldlM_cons_ok hc]
      rcases ih c' w₁ with ⟨c'', w', hrun, hl⟩ | ⟨a', w', e, w₂, ⟨done, later, rfl, hl⟩, he, hrun⟩
      · exact .inl ⟨c'', w', hrun, .cons hr hl⟩
      · exact .inr ⟨a', w', e, w₂, ⟨a :: done, later, rfl, .cons hr hl⟩, he, hrun⟩

end Folds

end Stencil
