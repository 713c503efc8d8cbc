import Stencil.Engines.Standard
import Stencil.Proofs.Generation.Stages
import Stencil.Proofs.Generation.Writing

/-! # Failing fast

A run stops at the first step that fails, with the error of that step under the labels of its target
and api. If the step comes before the file is written, the files are those that the steps before
have left, and at most directories above the file are new.
-/

namespace Stencil

open Generating FileSystem

/-- The plugin changes no files. -/
def Plugin.KeepsFiles (p : Plugin) : Prop :=
  ∀ path content fs, ((p.run path content).run fs).2 = fs

theorem Plugin.run_runAll_files {plugins : List Plugin} (h : ∀ p ∈ plugins, p.KeepsFiles)
    (path : Path) (content : String) (fs : FileSystem) :
    ((Plugin.runAll plugins path content).run fs).2 = fs := by
  unfold Plugin.runAll
  induction plugins generalizing content with
  | nil => rfl
  | cons p ps ih =>
    have hp := h p List.mem_cons_self path content fs
    rcases hr : (p.run path content).run fs with ⟨e | content', fs'⟩ <;> rw [hr] at hp <;> cases hp
    · rw [List.foldlM_cons, run_bind_error hr]
    · rw [List.foldlM_cons, run_bind_ok hr]
      exact ih (fun q hq => h q (List.mem_cons_of_mem p hq)) content'

namespace TargetRun

/-- A step that touches files fails before the file is written. The directories above the file are
made for the plugins; this may make a directory of the path of the file itself, if there are steps
upwards in it. -/
inductive PlaceFails (r : TargetRun) (item : Item) (text : String) (fs : FileSystem) :
    GenerationError → Prop where
  | occupied : fs.isDir item.path = true → PlaceFails r item text fs (.outputIsDirectory item.path)
  | plugin {fs' : FileSystem} {e : GenerationError} :
      (FileWriter.prepare item.path).run fs = (.ok (), fs') →
      ((r.plugins.run r.target.label item.path text).run fs').1 = .error e →
      PlaceFails r item text fs e
  | occupiedSince {fs' : FileSystem} {content : String} :
      (FileWriter.prepare item.path).run fs = (.ok (), fs') →
      ((r.plugins.run r.target.label item.path text).run fs').1 = .ok content →
      fs'.isDir item.path = true → PlaceFails r item text fs (.outputIsDirectory item.path)

/-- Directories above the file cannot be made, or the file cannot be written. -/
inductive WritingFails (r : TargetRun) (item : Item) (text : String) (fs : FileSystem) :
    GenerationError → Prop where
  | prepare {fs' : FileSystem} {e : GenerationError} :
      fs.isDir item.path = false → (FileWriter.prepare item.path).run fs = (.error e, fs') →
      WritingFails r item text fs e
  | write {fs' fs'' : FileSystem} {content : String} {e : GenerationError} :
      (FileWriter.prepare item.path).run fs = (.ok (), fs') →
      (r.plugins.run r.target.label item.path text).run fs' = (.ok content, fs') →
      fs'.isDir item.path = false →
      ((FileWriter.ofMode r.target.fileMode).write item.path content).run fs' = (.error e, fs'') →
      WritingFails r item text fs e

/-- A step for a file fails before the file is written: its path or its text cannot be rendered, or
the step is one of those that touch files. -/
inductive ItemFails (r : TargetRun) (o : Opened) (ms : Option Microservice) (fs : FileSystem) :
    GenerationError → Prop where
  | path {e : GenerationError} : r.item o ms = .error e → ItemFails r o ms fs e
  | text {item : Item} {e : GenerationError} :
      r.item o ms = .ok item → r.rendered o.template fs item = .error e → ItemFails r o ms fs e
  | place {item : Item} {text : String} {e : GenerationError} :
      r.item o ms = .ok item → r.rendered o.template fs item = .ok text →
      r.PlaceFails item text fs e → ItemFails r o ms fs e

/-- The text of the file can be rendered, and the path is a proper ancestor of the file's. -/
def Above (r : TargetRun) (o : Opened) (ms : Option Microservice) (fs : FileSystem) (q : Path) :
    Prop :=
  ∃ item text, r.item o ms = .ok item ∧ r.rendered o.template fs item = .ok text ∧
    q.IsAncestor item.path

/-- A step for an api fails before the writing of a file: one that finds the api or its template, or
one for a file, after the files before it have been generated. The second world is the one just
before; directories may be made where the paths of the given kind lead. -/
inductive ApiFails (r : TargetRun) (a : TargetApi) (w : World) :
    World → GenerationError → (Path → Prop) → Prop where
  | opening {e : GenerationError} :
      r.opening w.files a = .error e → ApiFails r a w w e fun _ => False
  | item {o : Opened} {ms : Option Microservice} {w₁ : World} {e : GenerationError} :
      r.opening w.files a = .ok o → StopsAt (r.generateSubject o) (r.subjects o.api a) w ms w₁ →
      r.ItemFails o ms w₁.files e → ApiFails r a w w₁ e (r.Above o ms w₁.files)

variable {r : TargetRun} {o : Opened} {ms : Option Microservice} {a : TargetApi} {item : Item}
  {text : String} {w w' w₁ : World} {e : GenerationError} {made : Path → Prop}

/-- A step that fails before the file is written is the outcome, and at most directories above the
file are new. -/
theorem PlaceFails.run_place (h : r.PlaceFails item text w.files e)
    (hp : ∀ p ∈ r.plugins.plugins r.target.label, p.KeepsFiles) :
    ∃ w', (r.place item text).run w = (.error e, w') ∧
      Grows (·.IsAncestor item.path) w.files w'.files := by
  have hgrows := FileWriter.grows_run_prepare item.path w.files
  unfold place
  cases h with
  | occupied hd =>
    exact ⟨_, run_onFiles_bind_error w (FileWriter.run_prepare_of_isDir hd), .refl _ _⟩
  | @plugin fs' _ hprep hplug =>
    have hrunPlugins : (r.plugins.run r.target.label item.path text).run fs' = (.error e, fs') :=
      Prod.ext hplug (Plugin.run_runAll_files hp item.path text fs')
    rw [hprep] at hgrows
    refine ⟨{ w with files := fs' }, ?_, hgrows⟩
    rw [run_onFiles_bind_ok w hprep]
    exact run_onFiles_bind_error { w with files := fs' } hrunPlugins
  | @occupiedSince fs' content hprep hplug hd =>
    have hrunPlugins : (r.plugins.run r.target.label item.path text).run fs' = (.ok content, fs') :=
      Prod.ext hplug (Plugin.run_runAll_files hp item.path text fs')
    have hwrite : ((FileWriter.ofMode r.target.fileMode).write item.path content).run fs' =
        (.error (.outputIsDirectory item.path), fs') :=
      run_bind_error (FileWriter.run_prepare_of_isDir hd)
    rw [hprep] at hgrows
    refine ⟨{ w with files := fs' }, ?_, hgrows⟩
    rw [run_onFiles_bind_ok w hprep, run_onFiles_bind_ok { w with files := fs' } hrunPlugins,
      run_onFiles, hwrite]

theorem placeFails_or_writingFails (hrun : (r.place item text).run w = (.error e, w'))
    (hp : ∀ p ∈ r.plugins.plugins r.target.label, p.KeepsFiles) :
    r.PlaceFails item text w.files e ∨ r.WritingFails item text w.files e := by
  unfold place at hrun
  rcases hd : w.files.isDir item.path with _ | _
  · rcases hprep : (FileWriter.prepare item.path).run w.files with ⟨e' | ⟨⟩, fs'⟩
    · rw [run_onFiles_bind_error w hprep] at hrun
      obtain rfl := eq_of_error_eq hrun
      exact .inr (.prepare hd hprep)
    rw [run_onFiles_bind_ok w hprep] at hrun
    have hkept : _ = fs' := Plugin.run_runAll_files hp item.path text fs'
    rcases hplug : (r.plugins.run r.target.label item.path text).run fs' with ⟨e' | content, fs''⟩
    · rw [run_onFiles_bind_error { w with files := fs' } hplug] at hrun
      obtain rfl := eq_of_error_eq hrun
      exact .inl (.plugin hprep (congrArg Prod.fst hplug))
    obtain rfl : fs'' = fs' := (congrArg Prod.snd hplug).symm.trans hkept
    rw [run_onFiles_bind_ok { w with files := fs'' } hplug, run_onFiles] at hrun
    rcases hd' : fs''.isDir item.path with _ | _
    · rcases hwrite : ((FileWriter.ofMode r.target.fileMode).write item.path content).run fs''
        with ⟨e' | ⟨⟩, fs⟩ <;> simp only [hwrite] at hrun
      · obtain rfl := eq_of_error_eq hrun
        exact .inr (.write hprep hplug hd' hwrite)
      · cases hrun
    · have hwrite : ((FileWriter.ofMode r.target.fileMode).write item.path content).run fs'' =
          (.error (.outputIsDirectory item.path), fs'') :=
        run_bind_error (FileWriter.run_prepare_of_isDir hd')
      simp only [hwrite] at hrun
      obtain rfl := eq_of_error_eq hrun
      exact .inl (.occupiedSince hprep (congrArg Prod.fst hplug) hd')
  · rw [run_onFiles_bind_error w (FileWriter.run_prepare_of_isDir hd)] at hrun
    obtain rfl := eq_of_error_eq hrun
    exact .inl (.occupied hd)

theorem ItemFails.run_generateSubject (h : r.ItemFails o ms w.files e)
    (hp : ∀ p ∈ r.plugins.plugins r.target.label, p.KeepsFiles) :
    ∃ w', (r.generateSubject o ms).run w = (.error e, w') ∧
      Grows (r.Above o ms w.files) w.files w'.files := by
  obtain ⟨ws, hrun⟩ := r.run_generateSubject o ms w
  cases h with
  | path hi =>
    simp only [hi] at hrun
    exact ⟨_, hrun, .refl _ _⟩
  | text hi ht =>
    simp only [hi, ht] at hrun
    exact ⟨_, hrun, .refl _ _⟩
  | @place item text _ hi ht hplace =>
    simp only [hi, ht] at hrun
    obtain ⟨w', hfail, hgrows⟩ := PlaceFails.run_place (w := w.report ws) hplace hp
    exact ⟨w', hrun.trans hfail, hgrows.mono fun q hq => ⟨item, text, hi, ht, hq⟩⟩

/-- Every failure for a file is one of a step before its writing or one of the writing. -/
theorem itemFails_or_writingFails (hrun : (r.generateSubject o ms).run w = (.error e, w'))
    (hp : ∀ p ∈ r.plugins.plugins r.target.label, p.KeepsFiles) :
    r.ItemFails o ms w.files e ∨ ∃ item text, r.item o ms = .ok item ∧
      r.rendered o.template w.files item = .ok text ∧ r.WritingFails item text w.files e := by
  obtain ⟨ws, hsubject⟩ := r.run_generateSubject o ms w
  rw [hrun] at hsubject
  rcases hi : r.item o ms with e' | item <;> simp only [hi] at hsubject
  · obtain rfl := eq_of_error_eq hsubject
    exact .inl (.path hi)
  rcases ht : r.rendered o.template w.files item with e' | text <;> simp only [ht] at hsubject
  · obtain rfl := eq_of_error_eq hsubject
    exact .inl (.text hi ht)
  rcases placeFails_or_writingFails hsubject.symm hp with hplace | hwriting
  · exact .inl (.place hi ht hplace)
  · exact .inr ⟨item, text, rfl, ht, hwriting⟩

theorem ApiFails.run_generateApi (h : r.ApiFails a w w₁ e made)
    (hp : ∀ p ∈ r.plugins.plugins r.target.label, p.KeepsFiles) :
    ∃ w', (r.generateApi a).run w = (.error e, w') ∧ Grows made w₁.files w'.files := by
  have hrun := r.run_generateApi a w
  cases h with
  | opening ho =>
    rw [ho] at hrun
    exact ⟨w, hrun, .refl _ _⟩
  | @item o ms _ _ ho hs hi =>
    rw [ho] at hrun
    obtain ⟨done, later, hl, hdone⟩ := hs
    obtain ⟨w', hfail, hg⟩ := hi.run_generateSubject hp
    refine ⟨w', hrun.trans ?_, hg⟩
    dsimp only
    rw [hl]
    exact run_bind_error (run_foldlM_error (r.follows_generateSubject o) hdone hfail)

theorem apiFails_or_writingFails (hrun : (r.generateApi a).run w = (.error e, w'))
    (hp : ∀ p ∈ r.plugins.plugins r.target.label, p.KeepsFiles) :
    (∃ w₁ made, r.ApiFails a w w₁ e made) ∨
      ∃ o ms w₁, r.opening w.files a = .ok o ∧
        StopsAt (r.generateSubject o) (r.subjects o.api a) w ms w₁ ∧
        ∃ item text, r.item o ms = .ok item ∧ r.rendered o.template w₁.files item = .ok text ∧
          r.WritingFails item text w₁.files e := by
  rw [r.run_generateApi] at hrun
  rcases ho : r.opening w.files a with e' | o <;> simp only [ho] at hrun
  · obtain rfl := eq_of_error_eq hrun
    exact .inl ⟨w, _, .opening ho⟩
  rcases run_foldlM_cases (r.follows_generateSubject o) (r.subjects o.api a) () w with
    ⟨c, w₂, hok, -⟩ | ⟨ms, w₁, e', w₂, hs, hfail, herr⟩
  · rw [run_bind_ok hok] at hrun
    cases hrun
  · rw [run_bind_error herr] at hrun
    obtain rfl := eq_of_error_eq hrun
    rcases itemFails_or_writingFails hfail hp with hi | hw
    · exact .inl ⟨w₁, _, .item ho hs hi⟩
    · exact .inr ⟨o, ms, w₁, rfl, hs, hw⟩

end TargetRun

namespace Generator

variable {g : Generator} {env : Environment} {s : Selection} {t : Target} {a : TargetApi}
  {w w₀ w₁ w₂ : World} {e : GenerationError} {made : Path → Prop}

/-- A run stops at the first step that fails before the writing of a file: its error stands once
under the labels of target and api and keeps its kind, no file differs from what it was before the
step, and only directories are new, above the file and if its text could be rendered. -/
theorem run_fails_fast (ht : StopsAt (fun t => (g.targetRun env t).generate) (g.selected s) w t w₀)
    (ha : StopsAt (g.targetRun env t).generateApi t.apis w₀ a w₁)
    (hf : (g.targetRun env t).ApiFails a w₁ w₂ e made)
    (hp : ∀ p ∈ g.plugins.plugins t.label, p.KeepsFiles) :
    ∃ w', (g.run env s).run w = (.error (.within t.label a.label e), w') ∧
      (GenerationError.within t.label a.label e).kind = e.kind ∧
      (∀ place mode content, w'.files.node? place = some (.file mode content) ↔
        w₂.files.node? place = some (.file mode content)) ∧
      Grows made w₂.files w'.files := by
  obtain ⟨targets, otherTargets, htargets, hgenerated⟩ := ht
  obtain ⟨apis, otherApis, hapis, hdone⟩ := ha
  obtain ⟨w', hfail, hg⟩ := hf.run_generateApi hp
  have hgenerate : ((g.targetRun env t).generate).run w₀ =
      (.error (.within t.label a.label e), w') := by
    unfold TargetRun.generate
    rw [show (g.targetRun env t).target.apis = _ from hapis]
    exact run_foldlM_error (g.targetRun env t).follows_generateApi hdone hfail
  refine ⟨w', ?_, rfl, fun _ _ _ => hg.node?_file_iff, hg⟩
  unfold run
  rw [htargets]
  exact run_bind_error (run_foldlM_error (g.follows_generate env) hgenerated hgenerate)

section Sample

def refusing : Plugin where
  name := "Refusing"
  run path _ := throw (.plugin "Refusing" path "refused")

def sampleMicroservice : Microservice :=
  { label := "ms", primaryModel := { name := "M" } }

def sampleTarget : Target where
  label := "go"
  templatePath := "t.hbs"
  each := true
  apis := [{ label := "first", outPath := "out" }, { label := "second", outPath := "gen/file" }]

/-- Two apis of which only the second has a microservice. -/
def sample : Generator where
  engines := .standard {}
  config :=
    { apis := [{ label := "first" }, { label := "second", microservices := [sampleMicroservice] }],
      targets := [sampleTarget] }
  templates := ⟨[]⟩
  registries := {}
  plugins := ⟨[("go", [refusing])]⟩

def sampleRun : TargetRun :=
  sample.targetRun {} sampleTarget

def sampleWorld : World :=
  { files := { entries := [(["t.hbs"], .file 0o644 "x".toUTF8)], workingDir := [] } }

def sampleReached : World :=
  ((sampleRun.generateApi { label := "first", outPath := "out" }).run sampleWorld).2

def sampleOpened : Opened where
  api := { label := "second", microservices := [sampleMicroservice] }
  outPath := ⟨"gen/file"⟩
  template := (sampleRun.loaded sampleReached.files
    { label := "second", outPath := "gen/file" }).toOption.getD ⟨"", .statements⟩

def sampleItem : Item :=
  (sampleRun.item sampleOpened (some sampleMicroservice)).toOption.getD
    { path := ⟨[]⟩, microservice := none, data := .null }

theorem opening_sample : sampleRun.opening sampleReached.files
    { label := "second", outPath := "gen/file" } = .ok sampleOpened := by
  have hfind : sampleRun.apis.find? (·.label == "second") = some sampleOpened.api := rfl
  have hpath : PathTemplate.compile sampleRun.engines "gen/file" = .ok sampleOpened.outPath :=
    if_pos (by decide +kernel)
  have hload : sampleRun.loaded sampleReached.files { label := "second", outPath := "gen/file" } =
      .ok sampleOpened.template :=
    eq_ok_getD ⟨"", .statements⟩ (by decide +kernel)
  exact TargetRun.opening_eq_ok hfind hpath hload

theorem stopsAt_sample : StopsAt sampleRun.generateApi sampleTarget.apis sampleWorld
    { label := "second", outPath := "gen/file" } sampleReached := by
  have hrun : (sampleRun.generateApi { label := "first", outPath := "out" }).run sampleWorld =
      (.ok 0, sampleReached) :=
    eq_mk_of_toOption (by decide +kernel)
  exact ⟨[{ label := "first", outPath := "out" }], [], rfl, .cons hrun (.nil sampleReached)⟩

theorem run_fails_fast_sample : ∃ made w',
    sampleRun.ApiFails { label := "second", outPath := "gen/file" } sampleReached sampleReached
      (.plugin "Refusing" (.ofString "gen/file") "refused") made ∧
    (sample.run {} .all).run sampleWorld =
      (.error (.within "go" "second" (.plugin "Refusing" (.ofString "gen/file") "refused")), w') ∧
    Grows made sampleReached.files w'.files := by
  have hpath : sampleItem.path = .ofString "gen/file" := by decide +kernel
  rw [← hpath]
  have ht : StopsAt (fun t => (sample.targetRun {} t).generate) (sample.selected .all) sampleWorld
      sampleTarget sampleWorld := ⟨[], [], rfl, .nil sampleWorld⟩
  have hi : sampleRun.item sampleOpened (some sampleMicroservice) = .ok sampleItem :=
    eq_ok_getD _ (by decide +kernel)
  have hr : sampleRun.rendered sampleOpened.template sampleReached.files sampleItem = .ok "x" :=
    eq_ok_of_toOption (by decide +kernel)
  have hprep : (FileWriter.prepare sampleItem.path).run sampleReached.files =
      (.ok (), ((FileWriter.prepare sampleItem.path).run sampleReached.files).2) :=
    eq_mk_of_toOption (by decide +kernel)
  have hs : StopsAt (sampleRun.generateSubject sampleOpened)
      (sampleRun.subjects sampleOpened.api { label := "second", outPath := "gen/file" })
      sampleReached (some sampleMicroservice) sampleReached :=
    ⟨[], [], rfl, .nil sampleReached⟩
  have hf := TargetRun.ApiFails.item opening_sample hs (.place hi hr (.plugin hprep rfl))
  have hp : ∀ p ∈ sample.plugins.plugins sampleTarget.label, p.KeepsFiles := by
    intro p hp path content fs
    obtain rfl : p = refusing := List.mem_singleton.mp hp
    rfl
  obtain ⟨w', hrun, -, -, hg⟩ := run_fails_fast ht stopsAt_sample hf hp
  exact ⟨_, w', hf, hrun, hg⟩

end Sample

/-- A run that fails stops at some api of some target, before the writing of a file or in it. -/
theorem run_error_cases {e' : GenerationError} {w' : World}
    (hrun : (g.run env s).run w = (.error e', w'))
    (hp : ∀ label, ∀ p ∈ g.plugins.plugins label, p.KeepsFiles) :
    ∃ t a w₀ w₁ e, StopsAt (fun t => (g.targetRun env t).generate) (g.selected s) w t w₀ ∧
      StopsAt (g.targetRun env t).generateApi t.apis w₀ a w₁ ∧ e' = .within t.label a.label e ∧
      ((∃ w₂ made, (g.targetRun env t).ApiFails a w₁ w₂ e made) ∨
        ∃ o ms w₂, (g.targetRun env t).opening w₁.files a = .ok o ∧
          StopsAt ((g.targetRun env t).generateSubject o) ((g.targetRun env t).subjects o.api a)
            w₁ ms w₂ ∧
          ∃ item text, (g.targetRun env t).item o ms = .ok item ∧
            (g.targetRun env t).rendered o.template w₂.files item = .ok text ∧
            (g.targetRun env t).WritingFails item text w₂.files e) := by
  unfold run at hrun
  rcases run_foldlM_cases (g.follows_generate env) (g.selected s) 0 w with
    ⟨c, w₂, hok, -⟩ | ⟨t, w₀, e₀, w₂, ht, hfail, herr⟩
  · rw [run_bind_ok hok] at hrun
    cases hrun
  rw [run_bind_error herr] at hrun
  obtain rfl := eq_of_error_eq hrun
  unfold TargetRun.generate at hfail
  rcases run_foldlM_cases (g.targetRun env t).follows_generateApi t.apis 0 w₀ with
    ⟨c, w₃, hok, -⟩ | ⟨a, w₁, e, w₃, ha, hfail', herr'⟩
  · cases hok.symm.trans hfail
  · have herror := eq_of_error_eq (hfail.symm.trans herr')
    exact ⟨t, a, w₀, w₁, e, ht, ha, herror, TargetRun.apiFails_or_writingFails hfail' (hp t.label)⟩

end Generator

end Stencil
