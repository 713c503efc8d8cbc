import Mathlib.Data.List.Forall2
import Stencil.Engines.Standard
import Stencil.Proofs.Generation.Footprint
import Stencil.Proofs.Generation.Outputs

/-! # The plugins of a file

A registry keeps plugins by the label of their target. The text of a file passes through them one
after the other; which ones they are is told by the label: those that all targets of the label name,
in the order of the configuration.
-/

namespace Stencil

/-- The plugins that the targets of a label name, one after the other. -/
def Config.pluginNames (c : Config) (label : String) : List String :=
  (c.targets.filter (·.label == label)).flatMap (·.plugins)

namespace Plugin

/-- A text passes through plugins, each of which makes another text of it and may change files. -/
inductive Passes (path : Path) :
    List Plugin → String → FileSystem → String → FileSystem → Prop where
  | nil (text : String) (fs : FileSystem) : Passes path [] text fs text fs
  | cons {p : Plugin} {ps : List Plugin} {text text' content : String} {fs fs₁ fs' : FileSystem} :
      (p.run path text).run fs = (.ok text', fs₁) → Passes path ps text' fs₁ content fs' →
      Passes path (p :: ps) text fs content fs'

variable {plugins : List Plugin} {path : Path} {text content : String} {fs fs' : FileSystem}

theorem run_runAll_eq_ok_iff :
    (runAll plugins path text).run fs = (.ok content, fs') ↔
      Passes path plugins text fs content fs' := by
  unfold runAll
  induction plugins generalizing text fs with
  | nil =>
    constructor
    · rintro ⟨⟩
      exact .nil _ _
    · rintro ⟨⟩
      rfl
  | cons p ps ih =>
    rw [List.foldlM_cons]
    constructor
    · intro h
      obtain ⟨text', fs₁, hp, hps⟩ := exists_of_run_bind_ok h
      exact .cons hp (ih.mp hps)
    · intro h
      cases h with
      | cons hp hps => exact (run_bind_ok hp).trans (ih.mpr hps)

/-- The plugins are those that the names stand for, one for each name. -/
def Named (exec : Executor) : List String → List Plugin → Prop :=
  List.Forall₂ fun name p => builtin? exec name = some p

end Plugin

namespace PluginRegistry

variable {exec : Executor} {r r' : PluginRegistry} {label label' : String} {p : Plugin}
  {groups : List (String × List Plugin)} {named : List (String × String)}

theorem lookup_addTo : (addTo label p groups).lookup label' =
    if label' = label then some ((groups.lookup label').getD [] ++ [p])
    else groups.lookup label' := by
  induction groups with
  | nil =>
    unfold addTo
    split
    · next h => simp [h]
    · next h => simp [List.lookup_cons, beq_eq_false_iff_ne.mpr h]
  | cons e groups ih =>
    obtain ⟨l, ps⟩ := e
    unfold addTo
    by_cases hl : l = label
    · rw [if_pos hl, hl]
      split
      · next h => simp [h]
      · next h => simp [List.lookup_cons, beq_eq_false_iff_ne.mpr h]
    · rw [if_neg hl, List.lookup_cons, List.lookup_cons, ih]
      by_cases h : label' = l
      · simp [h, hl]
      · simp [beq_eq_false_iff_ne.mpr h]

/-- A plugin is added after those that its label has. -/
theorem plugins_register : (r.register label p).plugins label' =
    r.plugins label' ++ if label' = label then [p] else [] := by
  unfold plugins register
  rw [lookup_addTo]
  by_cases h : label' = label <;> simp [h]

/-- Of all that is registered, a label gets what is registered under it. -/
theorem named_of_foldlM
    (h : named.foldlM (fun r (label, name) => r.registerNamed exec label name) r = .ok r')
    (label : String) : ∃ added, r'.plugins label = r.plugins label ++ added ∧
      Plugin.Named exec ((named.filter (·.1 == label)).map (·.2)) added := by
  -- a fold begins with any registry, so what it adds is told apart from what was there
  induction named generalizing r with
  | nil =>
    obtain rfl := Except.ok.inj h
    exact ⟨[], (List.append_nil _).symm, List.Forall₂.nil⟩
  | cons e named ih =>
    obtain ⟨l, name⟩ := e
    rw [List.foldlM_cons] at h
    rcases hp : Plugin.builtin? exec name with _ | p
    · simp [registerNamed, hp, bind, Except.bind] at h
    · simp only [registerNamed, hp, bind, Except.bind] at h
      obtain ⟨added, hadded, hnamed⟩ := ih h
      rw [plugins_register, List.append_assoc] at hadded
      refine ⟨_, hadded, ?_⟩
      by_cases hl : label = l
      · rw [if_pos hl, List.filter_cons_of_pos (by simp [hl])]
        exact List.Forall₂.cons hp hnamed
      · rw [if_neg hl, List.filter_cons_of_neg (by simpa using Ne.symm hl)]
        exact hnamed

theorem names_registered (targets : List Target) (label : String) :
    ((targets.flatMap fun t => t.plugins.map fun name => (t.label, name)).filter
      (·.1 == label)).map (·.2) = (targets.filter (·.label == label)).flatMap (·.plugins) := by
  induction targets with
  | nil => rfl
  | cons t targets ih =>
    rw [List.flatMap_cons, List.filter_append, List.map_append, ih, List.filter_map, List.map_map]
    by_cases h : t.label = label
    · simp [h, Function.comp_def]
    · simp [h, Function.comp_def]

/-- The registry of a configuration has under a label the plugins that the targets of the label
name. -/
theorem named_ofTargets {targets : List Target} (h : ofTargets exec targets = .ok r)
    (label : String) : Plugin.Named exec ((targets.filter (·.label == label)).flatMap (·.plugins))
      (r.plugins label) := by
  obtain ⟨added, hadded, hnamed⟩ := named_of_foldlM h label
  rw [names_registered] at hnamed
  rw [hadded]
  exact hnamed

end PluginRegistry

namespace Generator

variable {es : Engines} {exec : Executor} {config : Config} {templates : Path} {g : Generator}
  {env : Environment}
  {s : Selection} {w w₁ w₂ : World} {t : Target} {o : Opened} {item : Item}

theorem prepare_eq_ok (h : prepare es exec config templates = .ok g) :
    g.config = config ∧ PluginRegistry.ofTargets exec config.targets = .ok g.plugins := by
  unfold prepare at h
  rcases hr : Registries.build config with e | registries <;>
    simp only [hr, Except.mapError, bind, Except.bind] at h
  · cases h
  rcases hv : config.validate registries.models with e | ⟨⟩ <;> simp only [hv] at h
  · cases h
  rcases hp : PluginRegistry.ofTargets exec config.targets with e | plugins <;>
    simp only [hp] at h <;> cases h
  exact ⟨rfl, rfl⟩

/-- Without another target of its label, a target gets the plugins that it names. -/
theorem pluginNames_eq {before after : List Target} (h : config.targets = before ++ t :: after)
    (hother : ∀ u ∈ before ++ after, u.label ≠ t.label) :
    config.pluginNames t.label = t.plugins := by
  have hnone (l : List Target) (hl : l ⊆ before ++ after) : l.filter (·.label == t.label) = [] := by
    refine List.filter_eq_nil_iff.mpr fun u hu => ?_
    simpa using hother u (hl hu)
  unfold Config.pluginNames
  rw [h, List.filter_append, hnone before (List.subset_append_left _ _), List.nil_append,
    List.filter_cons_of_pos (by simp), hnone after (List.subset_append_right _ _),
    List.flatMap_cons, List.flatMap_nil, List.append_nil]

/-- Each file that a run generates is rendered, then its text passes through the plugins that the
targets of the label name, its own target among them, in the order of the configuration, and what
they make of it is written. These are the plugins that the target itself names, if no other target
has its label. -/
theorem file_passes_plugins_of_label (hg : prepare es exec config templates = .ok g)
    (hreach : g.ReachesItem env s w t o item w₁)
    (hfile : ((g.targetRun env t).generateFile o.template item).run w₁ = (.ok (), w₂)) :
    (∃ text content plugins fs₁ fs₂,
      (g.targetRun env t).rendered o.template w₁.files item = .ok text ∧
      (FileWriter.prepare item.path).run w₁.files = (.ok (), fs₁) ∧
      Plugin.Named exec (config.pluginNames t.label) plugins ∧
      Plugin.Passes item.path plugins text fs₁ content fs₂ ∧
      ((FileWriter.ofMode t.fileMode).write item.path content).run fs₂ = (.ok (), w₂.files)) ∧
    t ∈ config.targets ∧ ∀ before after, config.targets = before ++ t :: after →
      (∀ u ∈ before ++ after, u.label ≠ t.label) → config.pluginNames t.label = t.plugins := by
  obtain ⟨rfl, hplugins⟩ := prepare_eq_ok hg
  obtain ⟨text, content, fs₁, fs₂, h⟩ := TargetRun.ends_generateFile_iff.mp ⟨w₂, hfile, rfl⟩
  refine ⟨⟨text, content, g.plugins.plugins t.label, fs₁, fs₂, h.rendered_eq, h.run_prepare,
    PluginRegistry.named_ofTargets hplugins t.label, Plugin.run_runAll_eq_ok_iff.mp h.run_plugins,
    h.run_write⟩, ?_, fun before after hsplit hother => pluginNames_eq hsplit hother⟩
  exact (List.mem_filter.mp hreach.exists_subject.1).1

section Sample

def signing : Executor :=
  fun call => pure { exitCode := 0, stdout := call.stdin ++ "-" ++ call.program, stderr := "" }

def formattedTarget : Target where
  label := "g"
  templatePath := "go.hbs"
  plugins := ["GoFmt"]
  apis := [{ label := "A", outPath := "out/first" }]

def sharedLabel : Config where
  apis := [{ label := "A" }]
  targets := [formattedTarget,
    { label := "g", templatePath := "go.hbs", plugins := ["RustFmt"],
      apis := [{ label := "A", outPath := "out/second" }] }]

def sharing : Generator :=
  (prepare (.standard {}) signing sharedLabel (.ofString "t")).toOption.getD
    ⟨.standard {}, {}, ⟨[]⟩, {}, {}⟩

def sharingRun : TargetRun :=
  sharing.targetRun {} formattedTarget

def sharingWorld : World where
  files :=
    { entries := [(["t"], .dir 0o755), (["t", "go.hbs"], .file 0o644 "x".toUTF8)],
      workingDir := [] }

def sharingOpened : Opened where
  api := { label := "A" }
  outPath := ⟨"out/first"⟩
  template := (sharingRun.loaded sharingWorld.files
    { label := "A", outPath := "out/first" }).toOption.getD ⟨"", .statements⟩

def sharingItem : Item :=
  (sharingRun.item sharingOpened none).toOption.getD
    { path := ⟨[]⟩, microservice := none, data := .null }

def sharingEnd : World :=
  ((sharingRun.generateFile sharingOpened.template sharingItem).run sharingWorld).2

theorem prepare_sharing :
    prepare (.standard {}) signing sharedLabel (.ofString "t") = .ok sharing :=
  eq_ok_getD _ (by decide +kernel)

theorem reachesItem_sharing : sharing.ReachesItem {} .all sharingWorld formattedTarget sharingOpened
    sharingItem sharingWorld := by
  have ht : sharing.selected .all = formattedTarget :: sharedLabel.targets.tail := by
    rw [selected, (prepare_eq_ok prepare_sharing).1]
    rfl
  have ho : sharingRun.opening sharingWorld.files { label := "A", outPath := "out/first" } =
      .ok sharingOpened := by
    refine TargetRun.opening_eq_ok ?_ (PathTemplate.compile_eq_ok_iff.mpr ⟨by decide +kernel, rfl⟩)
      (eq_ok_getD _ (by decide +kernel))
    unfold sharingRun targetRun
    rw [(prepare_eq_ok prepare_sharing).1]
    rfl
  exact .first ht rfl ho rfl (eq_ok_getD _ (by decide +kernel))

theorem run_generateFile_sharing :
    (sharingRun.generateFile sharingOpened.template sharingItem).run sharingWorld =
      (.ok (), sharingEnd) :=
  eq_mk_of_toOption (by decide +kernel)

theorem file_passes_plugins_of_label_sample : ∃ text content plugins fs₁ fs₂,
    sharingRun.rendered sharingOpened.template sharingWorld.files sharingItem = .ok text ∧
    (FileWriter.prepare sharingItem.path).run sharingWorld.files = (.ok (), fs₁) ∧
    Plugin.Named signing ["GoFmt", "RustFmt"] plugins ∧
    Plugin.Passes sharingItem.path plugins text fs₁ content fs₂ ∧
    ((FileWriter.ofMode 0).write sharingItem.path content).run fs₂ = (.ok (), sharingEnd.files) :=
  (file_passes_plugins_of_label prepare_sharing reachesItem_sharing run_generateFile_sharing).1

/-- If another target has the label of a target, the files pass through its plugins too. -/
theorem not_file_passes_own_plugins : ¬ ∀ (es : Engines) (exec : Executor) (config : Config)
    (templates : Path) (g : Generator) (env : Environment) (s : Selection) (w w₁ w₂ : World)
    (t : Target) (o : Opened) (item : Item), prepare es exec config templates = .ok g →
    g.ReachesItem env s w t o item w₁ →
    ((g.targetRun env t).generateFile o.template item).run w₁ = (.ok (), w₂) →
    ∃ text content plugins fs₁ fs₂,
      (g.targetRun env t).rendered o.template w₁.files item = .ok text ∧
      (FileWriter.prepare item.path).run w₁.files = (.ok (), fs₁) ∧
      Plugin.Named exec t.plugins plugins ∧
      Plugin.Passes item.path plugins text fs₁ content fs₂ ∧
      ((FileWriter.ofMode t.fileMode).write item.path content).run fs₂ = (.ok (), w₂.files) := by
  intro hall
  obtain ⟨text, content, plugins, fs₁, fs₂, htext, -, hnamed, hpasses, hwrite⟩ :=
    hall _ _ _ _ _ _ _ _ _ _ _ _ _ prepare_sharing reachesItem_sharing run_generateFile_sharing
  have hrendered : sharingRun.rendered sharingOpened.template sharingWorld.files sharingItem =
      .ok "x" := eq_ok_of_toOption (by decide +kernel)
  obtain rfl := Except.ok.inj (hrendered.symm.trans htext)
  obtain ⟨p, _, hp, ⟨⟩, rfl⟩ := List.forall₂_cons_left_iff.mp hnamed
  obtain rfl := Option.some.inj hp
  cases hpasses with
  | cons hrun hrest =>
    cases hrest
    have hcontent : content = "x" ++ "-" ++ "gofmt" := by
      cases hrun
      rfl
    have hread : sharingEnd.files.asRoot.readText sharingItem.path = .ok "x-gofmt-rustfmt" :=
      eq_ok_of_toOption (by decide +kernel)
    have hread' := FileWriter.readText_of_run_write hwrite
    rw [hread, hcontent] at hread'
    exact absurd (Except.ok.inj hread') (by decide)

end Sample

end Generator

end Stencil
