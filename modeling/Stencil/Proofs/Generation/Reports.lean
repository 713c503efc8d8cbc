import Stencil.Proofs.Generation.Stages
import Stencil.Proofs.Render.Reports

/-! # Reports of a run

What is reported while files are generated comes from the snippets, the macros and the helpers of
their templates, and none of it is about a target. That targets are not defined is reported at last.
-/

namespace Stencil

/-- The warning is not that a target is not defined. -/
def NamesNoTarget (w : Warning) : Prop :=
  ∀ label, w ≠ .targetNotDefined label

variable {ws : List Warning}

theorem namesNoTarget_of_isOfHelper {w : Warning} (h : w.isOfHelper = true) : NamesNoTarget w := by
  rintro label rfl
  cases h

namespace Macro

variable {model : Option Model}

theorem namesNoTarget_unresolved (model : Option Model) (tag : List Char) :
    NamesNoTarget (unresolved model tag) := by
  rintro label ⟨⟩

theorem namesNoTarget_replaceShorthands (cursor : Nat) (rest : List Char) (positions : List Nat) :
    ∀ w ∈ (replaceShorthands model cursor rest positions).2, NamesNoTarget w := by
  induction positions generalizing cursor rest with
  | nil => exact List.forall_mem_nil _
  | cons pos positions ih =>
    unfold replaceShorthands
    dsimp only
    split
    · exact ih _ _
    · exact List.forall_mem_cons.mpr ⟨namesNoTarget_unresolved model _, ih _ _⟩

theorem namesNoTarget_rewriteExpression (body : List Char) :
    ∀ w ∈ (rewriteExpression model body).2, NamesNoTarget w := by
  unfold rewriteExpression
  split
  · exact List.forall_mem_nil _
  · dsimp only
    split
    · split
      · split
        · exact List.forall_mem_nil _
        · exact List.forall_mem_singleton.mpr (namesNoTarget_unresolved model _)
      · exact List.forall_mem_nil _
    · exact namesNoTarget_replaceShorthands _ _ _

theorem namesNoTarget_expandShorthands (template : List Char) :
    ∀ w ∈ (expandShorthands model template).2, NamesNoTarget w := by
  fun_induction expandShorthands model template with
  | case1 => exact List.forall_mem_nil _
  | case2 => exact List.forall_mem_nil _
  | case3 template before rest _ n _ new ws hnew tail more htail ih =>
    have h : ∀ w ∈ (rewriteExpression model (rest.take n)).2, NamesNoTarget w :=
      namesNoTarget_rewriteExpression (rest.take n)
    rw [hnew] at h
    rw [htail] at ih
    exact List.forall_mem_append.mpr ⟨h, ih⟩

theorem namesNoTarget_step (tags : TagRegistry) (scan : TagScan) (name : List Char) :
    ∀ w ∈ (scan.step tags name).2.1, NamesNoTarget w := by
  unfold TagScan.step
  split
  · split
    · exact List.forall_mem_singleton.mpr (by rintro label ⟨⟩)
    · exact List.forall_mem_nil _
  · split
    · exact List.forall_mem_nil _
    · split
      · exact List.forall_mem_nil _
      · exact List.forall_mem_singleton.mpr (by rintro label ⟨⟩)

theorem namesNoTarget_resolveTagsFrom (tags : TagRegistry) (scan : TagScan) (text : List Char) :
    ∀ w ∈ (resolveTagsFrom tags scan text).2, NamesNoTarget w := by
  fun_induction resolveTagsFrom tags scan text with
  | case1 => exact List.forall_mem_nil _
  | case2 scan text before rest _ name _ tail ws htail ih =>
    rwa [htail] at ih
  | case3 scan text before rest _ name _ ref ws scan' hstep tail more htail ih =>
    have h := namesNoTarget_step tags scan name
    rw [hstep] at h
    rw [htail] at ih
    exact List.forall_mem_append.mpr ⟨h, ih⟩

theorem namesNoTarget_expand (tags : TagRegistry) (template : List Char) :
    ∀ w ∈ (expand tags model template).2, NamesNoTarget w :=
  List.forall_mem_append.mpr
    ⟨namesNoTarget_expandShorthands _, namesNoTarget_resolveTagsFrom tags _ _⟩

end Macro

namespace Snippet

variable (fs : FileSystem) (templates : Path)

theorem namesNoTarget_imports (paths : SnippetPaths) :
    ∀ w ∈ (imports fs templates paths).2, NamesNoTarget w := by
  unfold imports
  split
  · exact List.forall_mem_nil _
  · dsimp only
    split
    · exact List.forall_mem_nil _
    · exact List.forall_mem_singleton.mpr (by rintro label ⟨⟩)
    · exact List.forall_mem_singleton.mpr (by rintro label ⟨⟩)

theorem namesNoTarget_apply (paths : SnippetPaths) (template : List Char) :
    ∀ w ∈ (apply fs templates paths template).2, NamesNoTarget w := by
  unfold apply
  dsimp only
  split
  · exact List.forall_mem_nil _
  · exact namesNoTarget_imports fs templates paths

theorem namesNoTarget_applyAll (implementations : List SnippetPaths) (template : List Char) :
    ∀ w ∈ (applyAll fs templates implementations template).2, NamesNoTarget w := by
  induction implementations generalizing template with
  | nil => exact List.forall_mem_nil _
  | cons paths rest ih =>
    have h := namesNoTarget_apply fs templates paths template
    unfold applyAll
    split
    next ha =>
      rwa [ha] at h
    next ha =>
      rw [ha] at h
      exact List.forall_mem_append.mpr ⟨h, ih _⟩

theorem namesNoTarget_inject (label : String) (ms : Option Microservice) (template : List Char) :
    ∀ w ∈ (inject fs templates label ms template).2, NamesNoTarget w :=
  namesNoTarget_applyAll fs templates _ template

end Snippet

theorem Engine.ofHelpers_render (es : Engines) (e : Engine) (template : List Char) (data : Json) :
    OfHelpers (e.render es template data) := by
  have htext (f : RenderFault → GenerationError) :
      OfHelpers ((es.render e template data).adapt f) :=
    (es.ofHelpers_render e template data).adapt f
  unfold render
  cases e with
  | statements =>
    dsimp only
    split
    · split
      · exact .map (htext _) _
      · exact .throw _
    · exact .throw _
  | blocks => exact htext _

theorem PathTemplate.ofHelpers_path (es : Engines) (env : Environment) (t : PathTemplate)
    (data : Json) : OfHelpers (t.path es env data) :=
  .bind ((es.ofHelpers_render .statements t.raw.toList data).adapt _) fun _ => .pure _

def World.ReportsNoTarget (w w' : World) : Prop :=
  Adds NamesNoTarget w.warnings w'.warnings

theorem World.reportsNoTarget_iff {w w' : World} :
    w.ReportsNoTarget w' ↔ Adds NamesNoTarget w.warnings w'.warnings := .rfl

instance : Std.Refl World.ReportsNoTarget where
  refl w := World.reportsNoTarget_iff.mpr (Std.Refl.refl w.warnings)

instance : Trans World.ReportsNoTarget World.ReportsNoTarget World.ReportsNoTarget where
  trans h h' := by
    rw [World.reportsNoTarget_iff] at h h' ⊢
    exact Trans.trans h h'

open World Generating

namespace Generating

variable {α : Type}

theorem moves_get : Moves ReportsNoTarget (get : Generating World) :=
  fun w => Std.Refl.refl w

theorem moves_warn (h : ∀ w ∈ ws, NamesNoTarget w) : Moves ReportsNoTarget (warn ws) :=
  fun _ => ⟨ws, rfl, h⟩

theorem moves_orThrow (x : Except GenerationError α) : Moves ReportsNoTarget (orThrow x) := by
  intro w
  rw [run_orThrow]
  exact Std.Refl.refl w

theorem moves_onFiles (x : FileAction α) : Moves ReportsNoTarget (onFiles x) := by
  intro w
  rw [run_onFiles]
  exact reportsNoTarget_iff.mpr (Std.Refl.refl w.warnings)

theorem moves_reporting {x : Reporting GenerationError α} (h : OfHelpers x) :
    Moves ReportsNoTarget (reporting x) := by
  obtain ⟨more, he, hmore⟩ := h []
  rw [List.nil_append] at he
  have hws : ∀ w ∈ (x.run []).2, NamesNoTarget w :=
    fun w hw => namesNoTarget_of_isOfHelper (hmore w (he ▸ hw))
  exact Moves.bind (moves_warn hws) fun _ => moves_orThrow _

theorem moves_within {x : Generating α} (target api : String) (h : Moves ReportsNoTarget x) :
    Moves ReportsNoTarget (within target api x) :=
  h.tryCatch fun _ => moves_throw _

end Generating

namespace TargetRun

variable (r : TargetRun) (t : LoadedTemplate)

theorem moves_renderText (item : Item) : Moves ReportsNoTarget (r.renderText t item) := by
  unfold renderText
  refine moves_get.bind fun w => ?_
  dsimp only
  refine (moves_warn (Snippet.namesNoTarget_inject _ _ _ _ _)).bind fun _ => ?_
  refine (moves_orThrow _).bind fun injected => ?_
  refine (moves_warn (Macro.namesNoTarget_expand _ _)).bind fun _ => ?_
  exact (moves_reporting (Engine.ofHelpers_render _ _ _ _)).bind fun _ => moves_pure _

theorem moves_generateFile (item : Item) : Moves ReportsNoTarget (r.generateFile t item) :=
  (r.moves_renderText t item).bind fun _ => (moves_onFiles _).bind fun _ =>
    (moves_onFiles _).bind fun _ => moves_onFiles _

theorem moves_generateFor (outPath : PathTemplate) (api : Api) (ms : Microservice) :
    Moves ReportsNoTarget (r.generateFor t outPath api ms) :=
  (moves_reporting (outPath.ofHelpers_path r.engines r.env _)).bind fun _ =>
    r.moves_generateFile t _

theorem moves_loadTemplate (a : TargetApi) : Moves ReportsNoTarget (r.loadTemplate a) := by
  intro w
  rw [run_loadTemplate]
  exact Std.Refl.refl w

theorem moves_generateApi (a : TargetApi) : Moves ReportsNoTarget (r.generateApi a) := by
  unfold generateApi
  split
  · exact moves_throw _
  next api _ =>
    refine (moves_orThrow _).bind fun outPath => (r.moves_loadTemplate a).bind fun t => ?_
    split
    · dsimp only
      rw [forM_eq_foldlM]
      refine Moves.bind ?_ fun _ => moves_pure _
      exact Moves.foldlM (fun _ ms => r.moves_generateFor t outPath api ms) _ _
    · refine (moves_reporting (outPath.ofHelpers_path r.engines r.env _)).bind fun path => ?_
      exact (r.moves_generateFile t _).bind fun _ => moves_pure _

theorem moves_generate : Moves ReportsNoTarget r.generate :=
  Moves.foldlM (fun _ a =>
    (moves_within _ _ (r.moves_generateApi a)).bind fun _ => moves_pure _) _ _

end TargetRun

/-- A run reports at last, and only then, which labels no target has. -/
theorem Generator.warnings_of_run {g : Generator} {env : Environment} {s : Selection}
    {w w' : World} {summary : Summary} (h : (g.run env s).run w = (.ok summary, w')) :
    ∃ earlier, w'.warnings = w.warnings ++ earlier ++ summary.undefined.map .targetNotDefined ∧
      ∀ x ∈ earlier, NamesNoTarget x := by
  unfold run at h
  obtain ⟨n, w₁, hrun, h⟩ := exists_of_run_bind_ok h
  obtain ⟨⟨⟩, w₂, hwarn, h⟩ := exists_of_run_bind_ok h
  cases hwarn
  cases h
  have hmoves := Moves.foldlM (R := ReportsNoTarget) (fun (count : Nat) t =>
    ((g.targetRun env t).moves_generate).bind fun k => moves_pure (count + k)) (g.selected s) 0 w
  rw [hrun] at hmoves
  obtain ⟨earlier, he, hearlier⟩ := hmoves
  exact ⟨earlier, congrArg (· ++ _) he, hearlier⟩

end Stencil
