import Stencil.Proofs.Generation.Stages

/-! # What a run writes

A run that succeeds generates one file for each of its tasks, in their order: for every api of a
selected target the file of the whole api, or one for each microservice that is not skipped. The
summary counts these files.
-/

namespace Stencil

open Generating

section Success

variable {α β γ σ : Type} {x : Generating α} {f : α → Generating β} {w : World} {a : α} {b : β}
  {fs : FileSystem}

/-- The action succeeds with the value and leaves the files. -/
def Generating.Ends (x : Generating α) (w : World) (a : α) (fs : FileSystem) : Prop :=
  ∃ w', x.run w = (.ok a, w') ∧ w'.files = fs

theorem ends_iff_of_run {w' : World} (h : x.run w = (.ok a, w')) {b : α} :
    x.Ends w b fs ↔ b = a ∧ fs = w'.files := by
  unfold Ends
  rw [h]
  constructor
  · rintro ⟨w', ⟨⟩, rfl⟩
    exact ⟨rfl, rfl⟩
  · rintro ⟨rfl, rfl⟩
    exact ⟨_, rfl, rfl⟩

theorem not_ends_of_run {e : GenerationError} {w' : World} (h : x.run w = (.error e, w')) :
    ¬ x.Ends w a fs := by
  rintro ⟨w'', hrun, -⟩
  cases h.symm.trans hrun

theorem ends_congr {y : Generating α} {v : World} (h : x.run w = y.run v) :
    x.Ends w a fs ↔ y.Ends v a fs := by
  unfold Ends
  rw [h]

theorem ends_pure_iff {b : α} : (pure a : Generating α).Ends w b fs ↔ b = a ∧ fs = w.files :=
  ends_iff_of_run rfl

theorem ends_bind_iff :
    (x >>= f).Ends w b fs ↔ ∃ a w₁, x.run w = (.ok a, w₁) ∧ (f a).Ends w₁ b fs := by
  constructor
  · rintro ⟨w', hrun, rfl⟩
    obtain ⟨a, w₁, hx, hf⟩ := exists_of_run_bind_ok hrun
    exact ⟨a, w₁, hx, w', hf, rfl⟩
  · rintro ⟨a, w₁, hx, h⟩
    exact (ends_congr (run_bind_ok hx)).mpr h

theorem ends_within_iff {target api : String} :
    (within target api x).Ends w a fs ↔ x.Ends w a fs := by
  have hrun := run_within (w := w) target api x
  rcases hx : x.run w with ⟨e | b, w'⟩ <;> rw [hx] at hrun
  · exact iff_of_false (not_ends_of_run hrun) (not_ends_of_run hx)
  · rw [ends_iff_of_run hrun, ends_iff_of_run hx]

theorem ends_onFiles_iff {x : FileAction α} :
    (onFiles x).Ends w a fs ↔ x.run w.files = (.ok a, fs) := by
  have hrun := run_onFiles (w := w) x
  rcases hx : x.run w.files with ⟨e | b, fs'⟩ <;> rw [hx] at hrun
  · refine iff_of_false (not_ends_of_run hrun) ?_
    rintro ⟨⟩
  · rw [ends_iff_of_run hrun]
    constructor
    · rintro ⟨rfl, rfl⟩
      rfl
    · rintro ⟨⟩
      exact ⟨rfl, rfl⟩

theorem ends_onFiles_bind_iff {x : FileAction α} : (onFiles x >>= f).Ends w b fs ↔
    ∃ a fs₁, x.run w.files = (.ok a, fs₁) ∧ (f a).Ends { w with files := fs₁ } b fs := by
  rw [ends_bind_iff]
  have hrun := run_onFiles (w := w) x
  constructor
  · rintro ⟨a, w₁, hx, h⟩
    obtain ⟨hok, rfl⟩ := Prod.mk.inj (hrun.symm.trans hx)
    exact ⟨a, _, Prod.ext hok rfl, h⟩
  · rintro ⟨a, fs₁, hx, h⟩
    rw [hx] at hrun
    exact ⟨a, _, hrun, h⟩

/-- The steps for the elements of a list put out lists, one after the other. -/
inductive Collects (step : α → σ → List β → σ → Prop) : List α → σ → List β → σ → Prop where
  | nil (s : σ) : Collects step [] s [] s
  | cons {a : α} {as : List α} {xs ys : List β} {s s₁ s₂ : σ} :
      step a s xs s₁ → Collects step as s₁ ys s₂ → Collects step (a :: as) s (xs ++ ys) s₂

section Collect

variable {step : α → σ → List β → σ → Prop} {l : List α} {s s' : σ} {xs : List β}

/-- What is put out is told by the elements, if it is in each step. -/
theorem Collects.map_eq_flatMap {key : β → γ} {keys : α → List γ}
    (hstep : ∀ a s xs s', step a s xs s' → xs.map key = keys a) (h : Collects step l s xs s') :
    xs.map key = l.flatMap keys := by
  induction h with
  | nil s => rfl
  | cons ha _ ih => rw [List.map_append, hstep _ _ _ _ ha, ih, List.flatMap_cons]

theorem Collects.exists_of_cons {a : α} (h : Collects step (a :: l) s xs s') :
    ∃ ys zs s₁, xs = ys ++ zs ∧ step a s ys s₁ ∧ Collects step l s₁ zs s' := by
  cases h with
  | cons ha hl => exact ⟨_, _, _, rfl, ha, hl⟩

theorem Collects.of_singleton {a : α} (h : Collects step [a] s xs s') : step a s xs s' := by
  obtain ⟨ys, zs, s₁, rfl, ha, hrest⟩ := h.exists_of_cons
  cases hrest
  rwa [List.append_nil]

theorem Collects.exists_step {a : α} (ha : a ∈ l) (h : Collects step l s xs s') :
    ∃ s₁ ys s₂, step a s₁ ys s₂ := by
  induction h with
  | nil s => cases ha
  | cons hb _ ih =>
    rcases List.mem_cons.mp ha with rfl | ha
    · exact ⟨_, _, _, hb⟩
    · exact ih ha

/-- A relation between states that the steps have and that composes holds from first to last. -/
theorem Collects.induction {P : σ → List β → σ → Prop} (hnil : ∀ s, P s [] s)
    (happend : ∀ s xs s₁ ys s₂, P s xs s₁ → P s₁ ys s₂ → P s (xs ++ ys) s₂)
    (hstep : ∀ a ∈ l, ∀ s xs s', step a s xs s' → P s xs s') (h : Collects step l s xs s') :
    P s xs s' := by
  induction h with
  | nil s => exact hnil s
  | cons ha _ ih =>
    exact happend _ _ _ _ _ (hstep _ List.mem_cons_self _ _ _ ha)
      (ih fun b hb => hstep b (List.mem_cons_of_mem _ hb))

/-- What the steps put out has a property if it has it in each step. -/
theorem Collects.forall_mem {Q : β → Prop}
    (hstep : ∀ a ∈ l, ∀ s xs s', step a s xs s' → ∀ x ∈ xs, Q x) (h : Collects step l s xs s') :
    ∀ x ∈ xs, Q x := by
  refine Collects.induction (P := fun _ xs _ => ∀ x ∈ xs, Q x) (fun _ => List.forall_mem_nil _) ?_
    hstep h
  exact fun _ _ _ _ _ hxs hys => List.forall_mem_append.mpr ⟨hxs, hys⟩

end Collect

/-- A fold succeeds as its steps do, and its value follows from what they put out. -/
theorem ends_foldlM_iff {g : γ → α → Generating γ} (total : γ → List β → γ)
    {step : α → FileSystem → List β → FileSystem → Prop} (hnil : ∀ c, total c [] = c)
    (happend : ∀ c xs ys, total (total c xs) ys = total c (xs ++ ys))
    (hg : ∀ c a w c' fs, (g c a).Ends w c' fs ↔ ∃ xs, step a w.files xs fs ∧ c' = total c xs)
    (l : List α) (c c' : γ) (w : World) (fs : FileSystem) : (l.foldlM g c).Ends w c' fs ↔
      ∃ xs, Collects step l w.files xs fs ∧ c' = total c xs := by
  -- each step begins where the one before has ended, in its value and in its files
  induction l generalizing c w with
  | nil =>
    rw [List.foldlM_nil, ends_pure_iff]
    constructor
    · rintro ⟨rfl, rfl⟩
      exact ⟨[], .nil _, (hnil c').symm⟩
    · rintro ⟨xs, h, rfl⟩
      cases h
      exact ⟨hnil c, rfl⟩
  | cons a l ih =>
    rw [List.foldlM_cons, ends_bind_iff]
    constructor
    · rintro ⟨c₁, w₁, hrun, hrest⟩
      obtain ⟨xs, hstep, rfl⟩ := (hg c a w c₁ w₁.files).mp ⟨w₁, hrun, rfl⟩
      obtain ⟨ys, hcollect, rfl⟩ := (ih _ w₁).mp hrest
      exact ⟨xs ++ ys, .cons hstep hcollect, happend c xs ys⟩
    · rintro ⟨_, h, rfl⟩
      cases h with
      | @cons _ _ xs ys _ fs₁ _ hstep hcollect =>
        obtain ⟨w₁, hrun, rfl⟩ := (hg c a w _ fs₁).mpr ⟨xs, hstep, rfl⟩
        refine ⟨total c xs, w₁, hrun, ?_⟩
        exact (ih _ w₁).mpr ⟨ys, hcollect, (happend c xs ys).symm⟩

theorem ends_count_iff {f : α → Generating Nat}
    {step : α → FileSystem → List β → FileSystem → Prop}
    (hf : ∀ a w n fs, (f a).Ends w n fs ↔ ∃ xs, step a w.files xs fs ∧ n = xs.length)
    (l : List α) (n : Nat) (w : World) (fs : FileSystem) :
    (l.foldlM (fun count a => do return count + (← f a)) 0).Ends w n fs ↔
      ∃ xs, Collects step l w.files xs fs ∧ n = xs.length := by
  have hstep (count : Nat) (a : α) (w : World) (n : Nat) (fs : FileSystem) :
      (do return count + (← f a) : Generating Nat).Ends w n fs ↔
        ∃ xs, step a w.files xs fs ∧ n = count + xs.length := by
    rw [ends_bind_iff]
    constructor
    · rintro ⟨k, w₁, hrun, hend⟩
      obtain ⟨rfl, rfl⟩ := ends_pure_iff.mp hend
      obtain ⟨xs, hxs, rfl⟩ := (hf a w k w₁.files).mp ⟨w₁, hrun, rfl⟩
      exact ⟨xs, hxs, rfl⟩
    · rintro ⟨xs, hxs, rfl⟩
      obtain ⟨w₁, hrun, rfl⟩ := (hf a w _ fs).mpr ⟨xs, hxs, rfl⟩
      exact ⟨_, w₁, hrun, ends_pure_iff.mpr ⟨rfl, rfl⟩⟩
  have hfold := ends_foldlM_iff (fun count xs => count + xs.length) (fun _ => rfl)
    (fun c xs ys => by rw [List.length_append, Nat.add_assoc]) hstep l 0 n w fs
  simpa only [Nat.zero_add] using hfold

end Success

/-- A file that is to be generated. -/
structure Task where
  target : Target
  targetApi : TargetApi
  api : Api
  microservice : Option Microservice

def Task.path (es : Engines) (env : Environment) (t : Task) : Except GenerationError Path :=
  (PathTemplate.compile es t.targetApi.outPath).bind fun outPath =>
    match t.microservice with
    | some ms => ((outPath.forMicroservice es env t.api ms).run []).1
    | none => ((outPath.forApi es env t.api).run []).1

/-- What is written for a task: the item, with its path, and what the plugins have made of its
text. -/
structure Output where
  task : Task
  item : Item
  content : String

namespace TargetRun

/-- The steps in which a file is generated, with the files before each of them and at last. -/
structure Generates (r : TargetRun) (t : LoadedTemplate) (item : Item) (text content : String)
    (fs fs₁ fs₂ fs' : FileSystem) : Prop where
  rendered_eq : r.rendered t fs item = .ok text
  run_prepare : (FileWriter.prepare item.path).run fs = (.ok (), fs₁)
  run_plugins : (r.plugins.run r.target.label item.path text).run fs₁ = (.ok content, fs₂)
  run_write :
    ((FileWriter.ofMode r.target.fileMode).write item.path content).run fs₂ = (.ok (), fs')

inductive WritesFor (r : TargetRun) (a : TargetApi) (o : Opened) :
    Option Microservice → FileSystem → List Output → FileSystem → Prop where
  | mk {ms : Option Microservice} {item : Item} {text content : String}
      {fs fs₁ fs₂ fs' : FileSystem} :
      r.item o ms = .ok item → r.Generates o.template item text content fs fs₁ fs₂ fs' →
      WritesFor r a o ms fs [⟨⟨r.target, a, o.api, ms⟩, item, content⟩] fs'

def WritesApi (r : TargetRun) (a : TargetApi) (fs : FileSystem) (xs : List Output)
    (fs' : FileSystem) : Prop :=
  ∃ o, r.opening fs a = .ok o ∧ Collects (r.WritesFor a o) (r.subjects o.api a) fs xs fs'

def Writes (r : TargetRun) : FileSystem → List Output → FileSystem → Prop :=
  Collects r.WritesApi r.target.apis

variable {r : TargetRun} {t : LoadedTemplate} {a : TargetApi} {o : Opened}
  {ms : Option Microservice} {item : Item} {text : String} {w w' : World} {fs : FileSystem}

theorem ends_place_iff : (r.place item text).Ends w () fs ↔ ∃ content fs₁ fs₂,
    (FileWriter.prepare item.path).run w.files = (.ok (), fs₁) ∧
    (r.plugins.run r.target.label item.path text).run fs₁ = (.ok content, fs₂) ∧
    ((FileWriter.ofMode r.target.fileMode).write item.path content).run fs₂ = (.ok (), fs) := by
  unfold place
  rw [ends_onFiles_bind_iff]
  constructor
  · rintro ⟨⟨⟩, fs₁, hprep, h⟩
    obtain ⟨content, fs₂, hplug, h⟩ := ends_onFiles_bind_iff.mp h
    exact ⟨content, fs₁, fs₂, hprep, hplug, ends_onFiles_iff.mp h⟩
  · rintro ⟨content, fs₁, fs₂, hprep, hplug, hwrite⟩
    exact ⟨(), fs₁, hprep, ends_onFiles_bind_iff.mpr
      ⟨content, fs₂, hplug, ends_onFiles_iff.mpr hwrite⟩⟩

theorem ends_generateFile_iff : (r.generateFile t item).Ends w () fs ↔
    ∃ text content fs₁ fs₂, r.Generates t item text content w.files fs₁ fs₂ fs := by
  obtain ⟨ws, hrun⟩ := r.run_generateFile t item w
  rcases ht : r.rendered t w.files item with e | text <;> simp only [ht] at hrun
  · refine iff_of_false (not_ends_of_run hrun) ?_
    rintro ⟨text, _, _, _, h⟩
    cases ht.symm.trans h.rendered_eq
  · rw [ends_congr hrun, ends_place_iff]
    constructor
    · rintro ⟨content, fs₁, fs₂, hprep, hplug, hwrite⟩
      exact ⟨text, content, fs₁, fs₂, ht, hprep, hplug, hwrite⟩
    · rintro ⟨text', content, fs₁, fs₂, h⟩
      obtain rfl := Except.ok.inj (ht.symm.trans h.rendered_eq)
      exact ⟨content, fs₁, fs₂, h.run_prepare, h.run_plugins, h.run_write⟩

theorem ends_generateSubject_iff (a : TargetApi) (ms : Option Microservice) :
    (r.generateSubject o ms).Ends w () fs ↔ ∃ xs, r.WritesFor a o ms w.files xs fs := by
  unfold generateSubject
  have hitem : r.item o ms = ((r.outputPath o ms).run []).1.map (o.item ms) := rfl
  have hrun := run_reporting_bind (w := w) (r.outputPath o ms) fun path =>
    r.generateFile o.template (o.item ms path)
  rcases hpath : ((r.outputPath o ms).run []).1 with e | path <;> rw [hpath] at hrun hitem
  · refine iff_of_false (not_ends_of_run hrun) ?_
    rintro ⟨_, hw⟩
    cases hw with
    | mk hi _ => cases hitem.symm.trans hi
  · rw [ends_congr hrun, ends_generateFile_iff]
    constructor
    · rintro ⟨text, content, fs₁, fs₂, h⟩
      exact ⟨_, .mk hitem h⟩
    · rintro ⟨_, hw⟩
      cases hw with
      | mk hi h =>
        obtain rfl := Except.ok.inj (hitem.symm.trans hi)
        exact ⟨_, _, _, _, h⟩

theorem map_task_of_collects {l : List (Option Microservice)} {xs : List Output}
    {fs' : FileSystem} (h : Collects (r.WritesFor a o) l fs xs fs') :
    xs.map (·.task) = l.map fun ms => ⟨r.target, a, o.api, ms⟩ := by
  rw [List.map_eq_flatMap (l := l)]
  refine h.map_eq_flatMap fun ms _ _ _ hms => ?_
  cases hms
  rfl

theorem ends_generateApi_iff {n : Nat} : (r.generateApi a).Ends w n fs ↔
    ∃ xs, r.WritesApi a w.files xs fs ∧ n = xs.length := by
  have hrun := r.run_generateApi a w
  rcases ho : r.opening w.files a with e | o <;> simp only [ho] at hrun
  · refine iff_of_false (not_ends_of_run hrun) ?_
    rintro ⟨xs, ⟨o, ho', -⟩, -⟩
    cases ho.symm.trans ho'
  have hfold (w : World) (fs : FileSystem) :
      ((r.subjects o.api a).foldlM (fun _ ms => r.generateSubject o ms) ()).Ends w () fs ↔
        ∃ xs, Collects (r.WritesFor a o) (r.subjects o.api a) w.files xs fs := by
    have hsubject (_ : Unit) (ms : Option Microservice) (w : World) (u : Unit) (fs : FileSystem) :
        (r.generateSubject o ms).Ends w u fs ↔
          ∃ xs, r.WritesFor a o ms w.files xs fs ∧ u = () := by
      simpa using ends_generateSubject_iff a ms
    have h := ends_foldlM_iff (fun _ _ => ()) (fun _ => rfl) (fun _ _ _ => rfl) hsubject
      (r.subjects o.api a) () () w fs
    simpa using h
  have hlength {fs fs' : FileSystem} {xs : List Output}
      (h : Collects (r.WritesFor a o) (r.subjects o.api a) fs xs fs') :
      xs.length = (r.subjects o.api a).length := by
    simpa using congrArg List.length (map_task_of_collects h)
  rw [ends_congr hrun, ends_bind_iff]
  constructor
  · rintro ⟨⟨⟩, w₁, hsubjects, hend⟩
    obtain ⟨rfl, rfl⟩ := ends_pure_iff.mp hend
    obtain ⟨xs, hxs⟩ := (hfold w w₁.files).mp ⟨w₁, hsubjects, rfl⟩
    exact ⟨xs, ⟨o, ho, hxs⟩, (hlength hxs).symm⟩
  · rintro ⟨xs, ⟨o', ho', hxs⟩, rfl⟩
    obtain rfl := Except.ok.inj (ho.symm.trans ho')
    obtain ⟨w₁, hsubjects, rfl⟩ := (hfold w fs).mpr ⟨xs, hxs⟩
    exact ⟨(), w₁, hsubjects, ends_pure_iff.mpr ⟨hlength hxs, rfl⟩⟩

theorem ends_generate_iff {n : Nat} : r.generate.Ends w n fs ↔
    ∃ xs, r.Writes w.files xs fs ∧ n = xs.length := by
  unfold generate Writes
  exact ends_count_iff (fun a w n fs => ends_within_iff.trans ends_generateApi_iff) _ n w fs

end TargetRun

namespace Generator

variable {g : Generator} {env : Environment} {s : Selection} {w : World} {fs : FileSystem}
  {summary : Summary}

/-- The files that a run is to generate: for each selected target and each of its apis the file of
the api, or those of its microservices that are not skipped. -/
def tasks (g : Generator) (s : Selection) : List Task :=
  (g.selected s).flatMap fun t => t.apis.flatMap fun a =>
    (g.config.apis.find? (·.label == a.label)).toList.flatMap fun api =>
      (if t.each then (TargetRun.chosen api a).map some else [none]).map fun ms => ⟨t, a, api, ms⟩

def Writes (g : Generator) (env : Environment) (s : Selection) :
    FileSystem → List Output → FileSystem → Prop :=
  Collects (fun t => (g.targetRun env t).Writes) (g.selected s)

theorem map_task_of_writesApi {t : Target} {a : TargetApi} {fs' : FileSystem} {xs : List Output}
    (h : (g.targetRun env t).WritesApi a fs xs fs') : xs.map (·.task) =
      (g.config.apis.find? (·.label == a.label)).toList.flatMap fun api =>
        (if t.each then (TargetRun.chosen api a).map some else [none]).map
          fun ms => ⟨t, a, api, ms⟩ := by
  obtain ⟨o, ho, hxs⟩ := h
  have hfind : g.config.apis.find? (·.label == a.label) = some o.api :=
    (TargetRun.opening_eq_ok_iff.mp ho).1
  rw [hfind, TargetRun.map_task_of_collects hxs]
  exact (List.append_nil _).symm

theorem Writes.map_task {fs' : FileSystem} {xs : List Output} (h : g.Writes env s fs xs fs') :
    xs.map (·.task) = g.tasks s :=
  Collects.map_eq_flatMap (fun _ _ _ _ ht =>
    Collects.map_eq_flatMap (fun _ _ _ _ ha => map_task_of_writesApi ha) ht) h

theorem Writes.path_eq {fs' : FileSystem} {xs : List Output} (h : g.Writes env s fs xs fs') :
    ∀ x ∈ xs, x.task.path g.engines env = .ok x.item.path := by
  refine Collects.forall_mem (fun t _ _ _ _ ht => ?_) h
  refine Collects.forall_mem (fun a _ _ _ _ ⟨o, ho, ha⟩ => ?_) ht
  refine Collects.forall_mem (fun ms _ _ _ _ hms => ?_) ha
  cases hms with
  | mk hi _ =>
    refine List.forall_mem_singleton.mpr ?_
    have hcompile : PathTemplate.compile g.engines a.outPath = .ok o.outPath :=
      (TargetRun.opening_eq_ok_iff.mp ho).2.1
    change (PathTemplate.compile g.engines a.outPath).bind _ = _
    rw [hcompile]
    unfold TargetRun.item at hi
    rcases hpath : (((g.targetRun env t).outputPath o ms).run []).1 with e | path <;>
      rw [hpath] at hi <;> cases hi
    cases ms <;> exact hpath

/-- A run succeeds exactly if files can be written for all its tasks, which its summary counts. -/
theorem ends_run_iff : (g.run env s).Ends w summary fs ↔ ∃ xs, g.Writes env s w.files xs fs ∧
    summary = { fileCount := xs.length,
                rendered := (g.selected s).map (·.label),
                undefined := undefinedLabels s ((g.selected s).map (·.label)) } := by
  unfold run
  rw [ends_bind_iff]
  have hcount (n : Nat) (fs : FileSystem) :=
    ends_count_iff (fun t w n fs => TargetRun.ends_generate_iff (r := g.targetRun env t))
      (g.selected s) n w fs
  constructor
  · rintro ⟨n, w₁, hrun, hend⟩
    obtain ⟨xs, hxs, rfl⟩ := (hcount n w₁.files).mp ⟨w₁, hrun, rfl⟩
    obtain ⟨⟨⟩, w₂, hwarn, hend⟩ := ends_bind_iff.mp hend
    cases hwarn
    obtain ⟨rfl, rfl⟩ := ends_pure_iff.mp hend
    exact ⟨xs, hxs, rfl⟩
  · rintro ⟨xs, hxs, rfl⟩
    obtain ⟨w₁, hrun, rfl⟩ := (hcount _ fs).mpr ⟨xs, hxs, rfl⟩
    exact ⟨_, w₁, hrun, ends_bind_iff.mpr ⟨(), _, rfl, ends_pure_iff.mpr ⟨rfl, rfl⟩⟩⟩

end Generator

end Stencil
