import Stencil.Proofs.Generation.Action

/-! # Stages of a run

What a run does for an api: it is looked up, its output path is read and its template loaded; then,
for each microservice or for the api as a whole, the path and the text of a file are made, and at
last files are touched.
-/

namespace Stencil

open Generating

/-- What is known of an api before its files are generated. -/
structure Opened where
  api : Api
  outPath : PathTemplate
  template : LoadedTemplate

def Opened.data (o : Opened) : Option Microservice → Json
  | some ms => Context.forMicroservice o.api ms
  | none => Context.forApi o.api

/-- What is generated for a microservice or for the whole api, once its path is known. -/
def Opened.item (o : Opened) (ms : Option Microservice) (path : Path) : Item where
  path := path
  microservice := ms
  data := o.data ms

theorem PathTemplate.compile_eq_ok_iff {es : Engines} {raw : String} {t : PathTemplate} :
    compile es raw = .ok t ↔ es.reads raw.toList = true ∧ t = ⟨raw⟩ := by
  unfold compile
  split
  · next h => simpa [h] using eq_comm
  · next h => simp [h]

namespace TargetRun

def loaded (r : TargetRun) (fs : FileSystem) (a : TargetApi) :
    Except GenerationError LoadedTemplate :=
  ((Version.templatePath fs r.templates r.target a).mapError (·.error r.target a)).bind fun path =>
    ((fs.readText path).mapError (.io path)).map fun text => ⟨text, Engine.ofPath path⟩

/-- Finds the api, reads its output path and loads the template. -/
def opening (r : TargetRun) (fs : FileSystem) (a : TargetApi) : Except GenerationError Opened :=
  match r.apis.find? (·.label == a.label) with
  | none => .error (.apiNotFound a.label)
  | some api =>
    (PathTemplate.compile r.engines a.outPath).bind fun outPath =>
      (r.loaded fs a).map fun template => ⟨api, outPath, template⟩

/-- What files are generated for: the chosen microservices, or the whole api. -/
def subjects (r : TargetRun) (api : Api) (a : TargetApi) : List (Option Microservice) :=
  if r.target.each then (chosen api a).map some else [none]

def outputPath (r : TargetRun) (o : Opened) : Option Microservice → Reporting GenerationError Path
  | some ms => o.outPath.forMicroservice r.engines r.env o.api ms
  | none => o.outPath.forApi r.engines r.env o.api

def generateSubject (r : TargetRun) (o : Opened) (ms : Option Microservice) : Generating Unit := do
  let path ← reporting (r.outputPath o ms)
  r.generateFile o.template (o.item ms path)

/-- The file for a microservice or for the whole api, if its path can be rendered. -/
def item (r : TargetRun) (o : Opened) (ms : Option Microservice) : Except GenerationError Item :=
  ((r.outputPath o ms).run []).1.map (o.item ms)

/-- The template with the snippets that are read for a file, and with its macros expanded. -/
def expanded (r : TargetRun) (t : LoadedTemplate) (fs : FileSystem) (item : Item) :
    Except GenerationError (List Char) :=
  (Snippet.inject fs r.templates r.target.label item.microservice t.text.toList).1.map
    fun injected => (Macro.expand r.tags (item.microservice.map (·.primaryModel)) injected).1

def rendered (r : TargetRun) (t : LoadedTemplate) (fs : FileSystem) (item : Item) :
    Except GenerationError String :=
  (r.expanded t fs item).bind fun template =>
    ((t.engine.render r.engines template item.data).run []).1.map String.ofList

/-- What is done with the text of a file: its plugins change it, and it is written. -/
def place (r : TargetRun) (item : Item) (text : String) : Generating Unit := do
  onFiles (FileWriter.prepare item.path)
  let content ← onFiles (r.plugins.run r.target.label item.path text)
  onFiles ((FileWriter.ofMode r.target.fileMode).write item.path content)

variable {r : TargetRun} {t : LoadedTemplate} {a : TargetApi}

theorem run_renderText (r : TargetRun) (t : LoadedTemplate) (item : Item) (w : World) :
    ∃ ws, (r.renderText t item).run w = (r.rendered t w.files item, w.report ws) := by
  unfold renderText rendered expanded
  rw [run_bind_ok run_get]
  rcases Snippet.inject w.files r.templates r.target.label item.microservice t.text.toList
    with ⟨e | injected, ws⟩
  · refine ⟨ws, ?_⟩
    rw [run_bind_ok (run_warn ws), run_orThrow_bind]
    rfl
  · dsimp only
    rw [run_bind_ok (run_warn ws), run_orThrow_bind]
    dsimp only [Except.map, Except.bind]
    generalize Macro.expand _ _ _ = expanded
    rw [run_bind_ok (run_warn expanded.2), run_reporting_bind, World.report_report,
      World.report_report]
    rcases (t.engine.render r.engines expanded.1 item.data).run [] with ⟨e | text, ws'⟩ <;>
      exact ⟨_, rfl⟩

theorem run_generateFile (r : TargetRun) (t : LoadedTemplate) (item : Item) (w : World) :
    ∃ ws, (r.generateFile t item).run w = match r.rendered t w.files item with
      | .error e => (.error e, w.report ws)
      | .ok text => (r.place item text).run (w.report ws) := by
  obtain ⟨ws, hws⟩ := r.run_renderText t item w
  refine ⟨ws, ?_⟩
  unfold generateFile
  rcases hr : r.rendered t w.files item with e | text <;> rw [hr] at hws
  · exact run_bind_error hws
  · exact run_bind_ok hws

/-- A file is generated in three stages: its path, its text, and all that touches files. -/
theorem run_generateSubject (r : TargetRun) (o : Opened) (ms : Option Microservice) (w : World) :
    ∃ ws, (r.generateSubject o ms).run w = match r.item o ms with
      | .error e => (.error e, w.report ws)
      | .ok item => match r.rendered o.template w.files item with
        | .error e => (.error e, w.report ws)
        | .ok text => (r.place item text).run (w.report ws) := by
  unfold generateSubject item
  rw [run_reporting_bind]
  rcases (r.outputPath o ms).run [] with ⟨e | path, ws⟩
  · exact ⟨ws, rfl⟩
  · obtain ⟨ws', hfile⟩ := r.run_generateFile o.template (o.item ms path) (w.report ws)
    rw [World.files_report, World.report_report] at hfile
    exact ⟨ws ++ ws', hfile⟩

theorem opening_eq_ok {fs : FileSystem} {api : Api} {outPath : PathTemplate}
    (hfind : r.apis.find? (·.label == a.label) = some api)
    (hpath : PathTemplate.compile r.engines a.outPath = .ok outPath)
    (hload : r.loaded fs a = .ok t) :
    r.opening fs a = .ok ⟨api, outPath, t⟩ := by
  unfold opening
  rw [hfind, hpath]
  dsimp only [Except.bind]
  rw [hload]
  rfl

theorem opening_eq_ok_iff {fs : FileSystem} {o : Opened} : r.opening fs a = .ok o ↔
    r.apis.find? (·.label == a.label) = some o.api ∧
      PathTemplate.compile r.engines a.outPath = .ok o.outPath ∧
      r.loaded fs a = .ok o.template := by
  constructor
  · intro h
    unfold opening at h
    rcases hfind : r.apis.find? (·.label == a.label) with _ | api
    · rw [hfind] at h
      cases h
    · rw [hfind] at h
      rcases hc : PathTemplate.compile r.engines a.outPath with e | outPath
      · rw [hc] at h
        cases h
      · rw [hc] at h
        rcases hl : r.loaded fs a with e | t <;> rw [hl] at h <;> cases h
        exact ⟨hfind, rfl, rfl⟩
  · rintro ⟨hfind, hpath, hload⟩
    exact opening_eq_ok hfind hpath hload

theorem run_loadTemplate (r : TargetRun) (a : TargetApi) (w : World) :
    (r.loadTemplate a).run w = (r.loaded w.files a, w) := by
  unfold loadTemplate loaded
  rw [run_bind_ok run_get]
  dsimp only
  rcases Version.templatePath w.files r.templates r.target a with why | path
  · rfl
  · dsimp only [Except.mapError, Except.bind]
    rcases w.files.readText path with e | text <;> rfl

theorem forM_eq_foldlM {α : Type} (l : List α) (f : α → Generating Unit) :
    l.forM f = l.foldlM (fun _ x => f x) () := by
  induction l with
  | nil => rfl
  | cons x l ih => exact congrArg (f x >>= ·) (funext fun _ => ih)

theorem run_generateApi (r : TargetRun) (a : TargetApi) (w : World) :
    (r.generateApi a).run w = match r.opening w.files a with
      | .error e => (.error e, w)
      | .ok o =>
        ((r.subjects o.api a).foldlM (fun _ ms => r.generateSubject o ms) () >>= fun _ =>
          pure (r.subjects o.api a).length).run w := by
  unfold generateApi opening
  generalize r.apis.find? _ = found
  rcases found with _ | api
  · rfl
  · dsimp only
    rw [run_orThrow_bind]
    rcases PathTemplate.compile r.engines a.outPath with e | outPath
    · rfl
    · dsimp only [Except.bind]
      have hload := r.run_loadTemplate a w
      rcases hl : r.loaded w.files a with e | t <;> rw [hl] at hload
      · exact run_bind_error hload
      · rw [run_bind_ok hload]
        dsimp only [Except.map]
        unfold subjects
        by_cases he : r.target.each = true
        · rw [if_pos he, if_pos he, List.foldlM_map, List.length_map, forM_eq_foldlM]
          rfl
        · rw [if_neg he, if_neg he]
          simp [generateSubject, outputPath, Opened.item, Opened.data]

theorem follows_generateSubject (r : TargetRun) (o : Opened) :
    Follows (r.generateSubject o) (fun _ e => e) fun _ ms => r.generateSubject o ms :=
  fun _ _ _ => ⟨fun b _ h => ⟨b, h⟩, fun _ _ h => h⟩

/-- The apis of a target are generated in order, each error under the labels of the two. -/
theorem follows_generateApi (r : TargetRun) :
    Follows r.generateApi (fun a e => .within r.target.label a.label e) fun (count : Nat) a => do
      return count + (← within r.target.label a.label (r.generateApi a)) := by
  intro count a w
  have hrun := run_within (w := w) r.target.label a.label (r.generateApi a)
  constructor
  · intro b w' h
    rw [h] at hrun
    exact ⟨count + b, run_bind_ok hrun⟩
  · intro e w' h
    rw [h] at hrun
    exact run_bind_error hrun

end TargetRun

theorem Generator.follows_generate (g : Generator) (env : Environment) :
    Follows (fun t => (g.targetRun env t).generate) (fun _ e => e) fun (count : Nat) t => do
      return count + (← (g.targetRun env t).generate) :=
  fun count _ _ => ⟨fun b _ h => ⟨count + b, run_bind_ok h⟩, fun _ _ h => run_bind_error h⟩

end Stencil
