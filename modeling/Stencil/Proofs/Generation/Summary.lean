import Mathlib.Algebra.GroupWithZero.Nat
import Mathlib.Logic.Basic
import Stencil.Engines.Standard
import Stencil.Proofs.Generation.Outputs
import Stencil.Proofs.Generation.Reports
import Stencil.Proofs.Generation.Selection

/-! # The summary of a run

A run that succeeds tells which of the labels that were asked for belong to targets and which do
not, and how many files there are for the selected targets. For each label without a target there is
a warning.
-/

namespace Stencil

def Selection.labels : Selection → List String
  | .all => []
  | .only labels => labels

def Selection.Takes : Selection → String → Prop
  | .all, _ => True
  | .only labels, label => label ∈ labels

theorem Selection.includes_iff {s : Selection} {label : String} :
    s.includes label = true ↔ s.Takes label := by
  cases s with
  | all => exact iff_of_true rfl trivial
  | only labels => simp [includes, Takes]

theorem Selection.takes_of_mem_labels {s : Selection} {label : String} (h : label ∈ s.labels) :
    s.Takes label := by
  cases s with
  | all => trivial
  | only labels => exact h

instance (s : Selection) : DecidablePred s.Takes :=
  fun _ => decidable_of_iff _ Selection.includes_iff

/-- The number of files of a target for an api: one for each microservice that is not skipped, or a
single one. -/
def Config.fileCount (c : Config) (t : Target) (a : TargetApi) : Nat :=
  if t.each then
    ((c.apis.find? (·.label == a.label)).map fun api =>
      api.microservices.countP fun ms => ms.label ∉ a.skipLabels).getD 0
  else 1

/-- The summary tells what a selection leads to. -/
structure Config.Summarised (c : Config) (s : Selection) (summary : Summary) : Prop where
  rendered_eq : summary.rendered = (c.targets.map (·.label)).filter (s.Takes ·)
  undefined_eq : summary.undefined = s.labels.filter (· ∉ c.targets.map (·.label))
  xor_of_mem : ∀ l ∈ s.labels, Xor (l ∈ summary.rendered) (l ∈ summary.undefined)
  declared : ∀ t ∈ c.targets, s.Takes t.label → ∀ a ∈ t.apis,
    ∃ api ∈ c.apis, api.label = a.label
  fileCount_eq : summary.fileCount = ((c.targets.filter (s.Takes ·.label)).map fun t =>
    (t.apis.map (c.fileCount t)).sum).sum

namespace Generator

variable {g : Generator} {env : Environment} {s : Selection} {w w' : World} {fs fs' : FileSystem}
  {xs : List Output} {summary : Summary} {t : Target} {a : TargetApi}

theorem selected_eq (g : Generator) (s : Selection) :
    g.selected s = g.config.targets.filter (s.Takes ·.label) := by
  refine List.filter_congr fun t _ => ?_
  rw [Bool.eq_iff_iff, Selection.includes_iff, decide_eq_true_iff]

theorem map_label_selected (g : Generator) (s : Selection) :
    (g.selected s).map (·.label) = (g.config.targets.map (·.label)).filter (s.Takes ·) := by
  rw [selected_eq, List.filter_map]
  rfl

theorem Writes.exists_api (h : g.Writes env s fs xs fs') (ht : t ∈ g.selected s)
    (ha : a ∈ t.apis) : ∃ api, g.config.apis.find? (·.label == a.label) = some api := by
  obtain ⟨fs₁, ys, fs₂, ht⟩ := Collects.exists_step ht h
  obtain ⟨fs₃, zs, fs₄, o, ho, -⟩ := Collects.exists_step ha ht
  exact ⟨o.api, (TargetRun.opening_eq_ok_iff.mp ho).1⟩

theorem length_chosen (api : Api) (a : TargetApi) : (TargetRun.chosen api a).length =
    api.microservices.countP fun ms => ms.label ∉ a.skipLabels := by
  rw [TargetRun.chosen, ← List.countP_eq_length_filter]
  refine List.countP_congr fun ms _ => ?_
  simp only [TargetApi.skips, Bool.not_eq_eq_eq_not, Bool.not_true, List.any_beq',
    List.contains_eq_mem, decide_eq_false_iff_not, decide_eq_true_iff]

/-- There are as many tasks for an api as there are files of a target for it. -/
theorem length_tasksFor {api : Api} (hfind : g.config.apis.find? (·.label == a.label) = some api) :
    ((g.config.apis.find? (·.label == a.label)).toList.flatMap fun api =>
      (if t.each then (TargetRun.chosen api a).map some else [none]).map
        fun ms => (⟨t, a, api, ms⟩ : Task)).length = g.config.fileCount t a := by
  unfold Config.fileCount
  rw [hfind, Option.toList_some, List.flatMap_singleton, List.length_map]
  split
  · rw [List.length_map, length_chosen]
    rfl
  · rfl

theorem length_tasks (h : ∀ t ∈ g.selected s, ∀ a ∈ t.apis,
    ∃ api, g.config.apis.find? (·.label == a.label) = some api) :
    (g.tasks s).length =
      ((g.selected s).map fun t => (t.apis.map (g.config.fileCount t)).sum).sum := by
  unfold tasks
  rw [List.length_flatMap]
  refine congrArg List.sum (List.map_congr_left fun t ht => ?_)
  rw [List.length_flatMap]
  refine congrArg List.sum (List.map_congr_left fun a ha => ?_)
  obtain ⟨api, hfind⟩ := h t ht a ha
  exact length_tasksFor hfind

/-- A label that is asked for is generated if some target has it. -/
theorem mem_rendered_iff {l : String} (hl : l ∈ s.labels) :
    l ∈ (g.selected s).map (·.label) ↔ l ∈ g.config.targets.map (·.label) := by
  rw [map_label_selected, List.mem_filter, decide_eq_true_iff]
  exact and_iff_left (Selection.takes_of_mem_labels hl)

theorem undefinedLabels_eq (g : Generator) (s : Selection) :
    undefinedLabels s ((g.selected s).map (·.label)) =
      s.labels.filter (· ∉ g.config.targets.map (·.label)) := by
  cases s with
  | all => rfl
  | only labels =>
    refine List.filter_congr fun l hl => ?_
    rw [Bool.eq_iff_iff, List.contains_eq_mem, Bool.not_eq_true', decide_eq_false_iff_not,
      decide_eq_true_iff]
    exact not_congr (mem_rendered_iff hl)

theorem mem_undefined_iff {l : String} (hl : l ∈ s.labels) :
    l ∈ undefinedLabels s ((g.selected s).map (·.label)) ↔
      l ∉ g.config.targets.map (·.label) := by
  rw [undefinedLabels_eq, List.mem_filter, decide_eq_true_iff]
  exact and_iff_right hl

theorem Writes.summarised (h : g.Writes env s fs xs fs') : g.config.Summarised s
    { fileCount := xs.length
      rendered := (g.selected s).map (·.label)
      undefined := undefinedLabels s ((g.selected s).map (·.label)) } where
  rendered_eq := g.map_label_selected s
  undefined_eq := g.undefinedLabels_eq s
  xor_of_mem l hl := by
    rw [mem_rendered_iff hl, mem_undefined_iff hl]
    exact xor_not_right.mpr Iff.rfl
  declared t ht hs a ha := by
    have hsel : t ∈ g.selected s := by
      rw [selected_eq, List.mem_filter, decide_eq_true_iff]
      exact ⟨ht, hs⟩
    obtain ⟨api, hfind⟩ := h.exists_api hsel ha
    exact ⟨api, List.mem_of_find?_eq_some hfind, by simpa using List.find?_some hfind⟩
  fileCount_eq := calc xs.length
    _ = (g.tasks s).length := by rw [← h.map_task, List.length_map]
    _ = ((g.selected s).map fun t => (t.apis.map (g.config.fileCount t)).sum).sum :=
      length_tasks fun _ ht _ ha => h.exists_api ht ha
    _ = _ := by rw [selected_eq]

/-- A run that succeeds reports what the text of its selection leads to; of all its warnings just
the last ones are about targets, one for each label that no target has. -/
theorem run_summarises {raw : String} (h : (g.run env (.parse raw)).run w = (.ok summary, w')) :
    Requests raw.toList (.parse raw) ∧ g.config.Summarised (.parse raw) summary ∧
      ∃ earlier, w'.warnings = w.warnings ++ earlier ++ summary.undefined.map .targetNotDefined ∧
        ∀ x ∈ earlier, NamesNoTarget x := by
  obtain ⟨xs, hwrites, hsummary⟩ := ends_run_iff.mp ⟨w', h, rfl⟩
  exact ⟨parse_eq_iff.mp rfl, hsummary ▸ hwrites.summarised, warnings_of_run h⟩

/-- Two targets for an api with two microservices, and one that is not asked for. -/
def threeTargets : Generator where
  engines := .standard {}
  config :=
    { apis := [{
        label := "Billing"
        microservices := [
          { label := "invoices", primaryModel := { name := "Invoice" } },
          { label := "payments", primaryModel := { name := "Payment" } }] }],
      targets := [
        { label := "go", templatePath := "t.hbs", each := true,
          apis := [{ label := "Billing", outPath := "out/go", skipLabels := ["payments"] }] },
        { label := "rust", templatePath := "t.hbs" },
        { label := "doc", templatePath := "t.hbs",
          apis := [{ label := "Billing", outPath := "out/doc" }] }] }
  templates := ⟨[]⟩
  registries := {}
  plugins := ⟨[]⟩

def plainTemplate : World where
  files := { entries := [(["t.hbs"], .file 0o644 "x".toUTF8)], workingDir := [] }

theorem run_summarises_threeTargets :
    Requests " doc,go , ,ts,ts".toList (.only ["doc", "go", "ts", "ts"]) ∧
      threeTargets.config.Summarised (.only ["doc", "go", "ts", "ts"])
        { fileCount := 2, rendered := ["go", "doc"], undefined := ["ts", "ts"] } := by
  have hparse : Selection.parse " doc,go , ,ts,ts" = .only ["doc", "go", "ts", "ts"] := by
    decide +kernel
  have hrun : (threeTargets.run {} (.parse " doc,go , ,ts,ts")).run plainTemplate =
      (.ok { fileCount := 2, rendered := ["go", "doc"], undefined := ["ts", "ts"] },
        ((threeTargets.run {} (.parse " doc,go , ,ts,ts")).run plainTemplate).2) :=
    eq_mk_of_toOption (by decide +kernel)
  obtain ⟨hrequests, hsummary, -⟩ := run_summarises hrun
  rw [hparse] at hrequests hsummary
  exact ⟨hrequests, hsummary⟩

end Generator

end Stencil
