import Mathlib.Data.List.Dedup
import Stencil.Proofs.Generation.PluginChain

/-! # The last write to a place

Nothing keeps two outputs of a run from having paths that lead to the same place, and the later one
then replaces the earlier one. The invariant of a run is that every place holds the last output that
leads there, as long as the plugins leave alone what has been written.
-/

namespace Stencil

open Generating FileSystem

namespace FileSystem

variable {outs : Place → Prop} {P : Path → Prop} {fs fs' fs'' : FileSystem} {place : Place}
  {mode : UInt32} {content : ByteArray}

/-- Directories stay directories, and the files at the given places stay as they are. -/
structure Spared (outs : Place → Prop) (fs fs' : FileSystem) : Prop where
  keepsDirs : KeepsDirs fs.asRoot fs'.asRoot
  node?_file : ∀ place mode content, outs place → fs.node? place = some (.file mode content) →
    fs'.node? place = some (.file mode content)

namespace Spared

theorem refl (outs : Place → Prop) (fs : FileSystem) : Spared outs fs fs :=
  ⟨.refl fs.asRoot, fun _ _ _ _ => id⟩

theorem trans (h : Spared outs fs fs') (h' : Spared outs fs' fs'') : Spared outs fs fs'' :=
  ⟨h.keepsDirs.trans h'.keepsDirs, fun place mode content ho hf =>
    h'.node?_file place mode content ho (h.node?_file place mode content ho hf)⟩

theorem of_grows (h : Grows P fs fs') : Spared outs fs fs' :=
  ⟨h.keepsDirs.asRoot, fun _ _ _ _ => h.node?_file_iff.mpr⟩

end Spared

end FileSystem

namespace Plugin

/-- Wherever the plugin succeeds, it spares the directories and the files at the given places. -/
def Spares (p : Plugin) (outs : Place → Prop) : Prop :=
  ∀ path text fs content fs', (p.run path text).run fs = (.ok content, fs') → Spared outs fs fs'

variable {p : Plugin} {plugins : List Plugin} {outs : Place → Prop} {path : Path}
  {text content : String} {fs fs' : FileSystem}

theorem KeepsFiles.spares (h : p.KeepsFiles) (outs : Place → Prop) : p.Spares outs := by
  intro path text fs content fs' hrun
  have hkept := h path text fs
  rw [hrun] at hkept
  exact hkept ▸ .refl outs fs

theorem Passes.spared (h : Passes path plugins text fs content fs')
    (hp : ∀ p ∈ plugins, p.Spares outs) : Spared outs fs fs' := by
  induction h with
  | nil text fs => exact .refl outs fs
  | @cons p ps text text' content fs fs₁ fs' hrun _ ih =>
    have hfirst : Spared outs fs fs₁ := hp p List.mem_cons_self path text fs text' fs₁ hrun
    exact hfirst.trans (ih fun q hq => hp q (List.mem_cons_of_mem p hq))

end Plugin

namespace Output

/-- What is at the place of an output once it is written. -/
def node (x : Output) : Node :=
  .file ((FileWriter.ofMode x.task.target.fileMode).mode &&& 0o7777) x.content.toUTF8

/-- The last of the outputs whose path leads to the place. -/
def lastAt (fs : FileSystem) (xs : List Output) (place : Place) : Option Output :=
  xs.reverse.find? fun x => (fs.asRoot.locate x.item.path).toOption == some place

def places (fs : FileSystem) (xs : List Output) : List Place :=
  xs.filterMap fun x => (fs.asRoot.locate x.item.path).toOption

variable {fs fs' : FileSystem} {xs ys : List Output} {x y : Output} {place : Place}

theorem lastAt_append : lastAt fs (xs ++ ys) place =
    (lastAt fs ys place).or (lastAt fs xs place) := by
  simp [lastAt, List.find?_append]

theorem lastAt_congr (h : ∀ x ∈ xs, fs.asRoot.locate x.item.path = fs'.asRoot.locate x.item.path) :
    lastAt fs xs place = lastAt fs' xs place := by
  unfold lastAt
  rw [← List.head?_filter, ← List.head?_filter]
  refine congrArg List.head? (List.filter_congr fun x hx => ?_)
  rw [h x (List.mem_reverse.mp hx)]

theorem mem_of_lastAt (h : lastAt fs xs place = some x) :
    x ∈ xs ∧ fs.asRoot.locate x.item.path = .ok place := by
  unfold lastAt at h
  have hx := List.find?_some h
  exact ⟨List.mem_reverse.mp (List.mem_of_find?_eq_some h),
    toOption_eq_some_iff.mp (eq_of_beq hx)⟩

theorem exists_lastAt (hx : x ∈ xs) (hl : fs.asRoot.locate x.item.path = .ok place) :
    ∃ y, lastAt fs xs place = some y := by
  refine Option.isSome_iff_exists.mp (List.find?_isSome.mpr ⟨x, List.mem_reverse.mpr hx, ?_⟩)
  simp [hl, Except.toOption]

theorem mem_places_iff :
    place ∈ places fs xs ↔ ∃ x ∈ xs, fs.asRoot.locate x.item.path = .ok place := by
  simp only [places, List.mem_filterMap, toOption_eq_some_iff]

theorem length_places (h : ∀ x ∈ xs, ∃ place, fs.asRoot.locate x.item.path = .ok place) :
    (places fs xs).length = xs.length := by
  rw [places, List.filterMap_length_eq_length]
  intro x hx
  obtain ⟨place, hl⟩ := h x hx
  rw [hl]
  rfl

/-- As many places as outputs are different exactly if no two outputs lead to the same one. -/
theorem length_eq_length_dedup_iff
    (h : ∀ x ∈ xs, ∃ place, fs.asRoot.locate x.item.path = .ok place) :
    xs.length = (places fs xs).dedup.length ↔ (places fs xs).Nodup := by
  rw [← length_places h, ← List.dedup_eq_self]
  constructor
  · exact fun hlength => (List.dedup_sublist _).eq_of_length hlength.symm
  · exact fun heq => congrArg List.length heq.symm

end Output

/-- From the first file system to the second the outputs are written: paths lead where they have
led, and each of the given places holds the last output that leads there, or the file that it has
held. -/
structure Settled (outs : Place → Prop) (fs : FileSystem) (xs : List Output) (fs' : FileSystem) :
    Prop where
  keepsDirs : KeepsDirs fs.asRoot fs'.asRoot
  located : ∀ x ∈ xs, ∃ place, fs'.asRoot.locate x.item.path = .ok place ∧
    endsInSlash x.item.path = false
  last : ∀ place x, outs place → Output.lastAt fs' xs place = some x → fs'.node? place = some x.node
  kept : ∀ place mode content, outs place → Output.lastAt fs' xs place = none →
    fs.node? place = some (.file mode content) → fs'.node? place = some (.file mode content)

namespace Settled

variable {outs : Place → Prop} {fs fs₁ fs' : FileSystem} {xs ys : List Output} {x : Output}
  {place : Place}

theorem nil (outs : Place → Prop) (fs : FileSystem) : Settled outs fs [] fs where
  keepsDirs := .refl fs.asRoot
  located _ hx := absurd hx List.not_mem_nil
  last _ _ _ hlast := nomatch hlast
  kept _ _ _ _ _ := id

theorem lastAt_eq (h : Settled outs fs xs fs₁) (hk : KeepsDirs fs₁.asRoot fs'.asRoot) :
    Output.lastAt fs' xs place = Output.lastAt fs₁ xs place := by
  refine Output.lastAt_congr fun x hx => ?_
  obtain ⟨pl, hl, -⟩ := h.located x hx
  rw [hl, hk.locate_eq hl]

theorem append (h : Settled outs fs xs fs₁) (h' : Settled outs fs₁ ys fs') :
    Settled outs fs (xs ++ ys) fs' where
  keepsDirs := h.keepsDirs.trans h'.keepsDirs
  located x hx := by
    rcases List.mem_append.mp hx with hx | hx
    · obtain ⟨pl, hl, hslash⟩ := h.located x hx
      exact ⟨pl, h'.keepsDirs.locate_eq hl, hslash⟩
    · exact h'.located x hx
  last pl x ho hlast := by
    rw [Output.lastAt_append, h.lastAt_eq h'.keepsDirs] at hlast
    rcases hy : Output.lastAt fs' ys pl with _ | y <;> rw [hy] at hlast
    · -- what was written at the place before is still there
      exact h'.kept pl _ _ ho hy (h.last pl x ho hlast)
    · exact h'.last pl x ho (hy.trans hlast)
  kept pl mode content ho hnone hf := by
    rw [Output.lastAt_append, h.lastAt_eq h'.keepsDirs, Option.or_eq_none_iff] at hnone
    exact h'.kept pl mode content ho hnone.1 (h.kept pl mode content ho hnone.2 hf)

/-- What a place holds at the end can be read under the path of each output that leads there. -/
theorem exists_readText_eq (h : Settled (· ∈ Output.places fs' xs) fs xs fs') (hx : x ∈ xs) :
    ∃ place y, fs'.asRoot.locate x.item.path = .ok place ∧ Output.lastAt fs' xs place = some y ∧
      fs'.asRoot.readText x.item.path = .ok y.content := by
  obtain ⟨place, hl, hslash⟩ := h.located x hx
  obtain ⟨y, hy⟩ := Output.exists_lastAt hx hl
  have hnode := h.last place y (Output.mem_places_iff.mpr ⟨x, hx, hl⟩) hy
  have hstatus : fs'.asRoot.status x.item.path = .ok (place, y.node) :=
    status_eq_ok_file_iff.mpr ⟨hl, hnode, hslash⟩
  have hread : fs'.asRoot.readBytes x.item.path = .ok y.content.toUTF8 :=
    readBytes_eq_ok_iff.mpr ⟨place, _, hstatus, rfl⟩
  exact ⟨place, y, hl, hy, readText_eq_ok_iff.mpr ⟨_, hread, fromUTF8?_toUTF8 y.content⟩⟩

end Settled

namespace TargetRun

variable {r : TargetRun} {a : TargetApi} {o : Opened} {ms : Option Microservice}
  {t : LoadedTemplate} {item : Item} {text content : String} {outs : Place → Prop}
  {fs fs₁ fs₂ fs' : FileSystem} {xs : List Output}

/-- What one output does: its place holds it, and the files at the other places are spared. -/
theorem Generates.settled {x : Output} (h : r.Generates t x.item text x.content fs fs₁ fs₂ fs')
    (hx : x.task.target = r.target) (hp : ∀ p ∈ r.plugins.plugins r.target.label, p.Spares outs) :
    Settled outs fs [x] fs' := by
  obtain ⟨fs₃, place, hprep, hw, hwritten⟩ := FileWriter.exists_written_of_run_write h.run_write
  have hgrows := FileWriter.grows_run_prepare x.item.path fs
  have hgrows' := FileWriter.grows_run_prepare x.item.path fs₂
  rw [h.run_prepare] at hgrows
  rw [hprep] at hgrows'
  -- until the file itself is written, only directories are new and what plugins do elsewhere
  have hspared : Spared outs fs fs₃ := (Spared.of_grows hgrows).trans
    (((Plugin.run_runAll_eq_ok_iff.mp h.run_plugins).spared hp).trans (.of_grows hgrows'))
  have hkeeps := (hwritten.keepsDirs hw.not_hasDir).asRoot
  have hl := hkeeps.locate_eq (locate_asRoot hw.locate_eq)
  refine ⟨hspared.keepsDirs.trans hkeeps, ?_, ?_, ?_⟩
  · rintro y hy
    obtain rfl := List.mem_singleton.mp hy
    exact ⟨place, hl, hw.endsInSlash_eq⟩
  · intro pl y _ hlast
    obtain ⟨hy, hl'⟩ := Output.mem_of_lastAt hlast
    obtain rfl := List.mem_singleton.mp hy
    obtain rfl : place = pl := Except.ok.inj (hl.symm.trans hl')
    rw [hwritten.node?_self, Output.node, hx]
  · intro pl mode content ho hnone hf
    have hne : pl ≠ place := by
      rintro rfl
      obtain ⟨y, hy⟩ := Output.exists_lastAt (List.mem_singleton_self x) hl
      cases hnone.symm.trans hy
    rw [hwritten.node?_eq, if_neg hne]
    exact hspared.node?_file pl mode content ho hf

variable (hp : ∀ p ∈ r.plugins.plugins r.target.label, p.Spares outs)

include hp

theorem WritesFor.settled (h : r.WritesFor a o ms fs xs fs') : Settled outs fs xs fs' := by
  cases h with
  | mk _ h => exact Generates.settled h rfl hp

theorem WritesApi.settled (h : r.WritesApi a fs xs fs') : Settled outs fs xs fs' := by
  obtain ⟨o, -, h⟩ := h
  exact h.induction (.nil outs) (fun _ _ _ _ _ => .append) fun _ _ _ _ _ => WritesFor.settled hp

theorem Writes.settled (h : r.Writes fs xs fs') : Settled outs fs xs fs' :=
  Collects.induction (.nil outs) (fun _ _ _ _ _ => .append)
    (fun _ _ _ _ _ => WritesApi.settled hp) h

end TargetRun

namespace Generator

variable {g : Generator} {env : Environment} {s : Selection} {w w' : World} {summary : Summary}
  {outs : Place → Prop} {fs fs' : FileSystem} {xs : List Output}

theorem Writes.settled (hp : ∀ t ∈ g.selected s, ∀ p ∈ g.plugins.plugins t.label, p.Spares outs)
    (h : g.Writes env s fs xs fs') : Settled outs fs xs fs' :=
  Collects.induction (.nil outs) (fun _ _ _ _ _ => .append)
    (fun t ht _ _ _ => TargetRun.Writes.settled (r := g.targetRun env t) (hp t ht)) h

/-- A run that succeeds writes one output for each of its tasks, to the path of the task. If its
plugins spare what it writes, then at its end the file at the path of each output holds the last of
the outputs whose paths lead to the same place, and the summary counts as many files as there are if
and only if no two paths lead to the same place. -/
theorem run_keeps_last_written (hrun : (g.run env s).run w = (.ok summary, w')) :
    ∃ xs, g.Writes env s w.files xs w'.files ∧ xs.map (·.task) = g.tasks s ∧
      (∀ x ∈ xs, x.task.path g.engines env = .ok x.item.path) ∧ summary.fileCount = xs.length ∧
      ((∀ t ∈ g.selected s, ∀ p ∈ g.plugins.plugins t.label,
          p.Spares (· ∈ Output.places w'.files xs)) →
        (∀ x ∈ xs, ∃ place y, w'.files.asRoot.locate x.item.path = .ok place ∧
          Output.lastAt w'.files xs place = some y ∧
          w'.files.asRoot.readText x.item.path = .ok y.content) ∧
        (summary.fileCount = (Output.places w'.files xs).dedup.length ↔
          (Output.places w'.files xs).Nodup)) := by
  obtain ⟨xs, hwrites, rfl⟩ := ends_run_iff.mp ⟨w', hrun, rfl⟩
  refine ⟨xs, hwrites, hwrites.map_task, hwrites.path_eq, rfl, fun hp => ?_⟩
  have hsettled := hwrites.settled hp
  refine ⟨fun x hx => hsettled.exists_readText_eq hx, ?_⟩
  refine Output.length_eq_length_dedup_iff fun x hx => ?_
  obtain ⟨place, hl, -⟩ := hsettled.located x hx
  exact ⟨place, hl⟩

section Sample

def exclaiming : Executor :=
  fun call => pure { exitCode := 0, stdout := call.stdin ++ "!", stderr := "" }

def removing : Executor := fun call => do
  modify (·.remove (.ofString "out/a"))
  pure { exitCode := 0, stdout := call.stdin, stderr := "" }

def twin (label : String) : Microservice :=
  { label, primaryModel := { name := "M" } }

def twinApi : Api :=
  { label := "A", microservices := [twin "a", twin "b"] }

def twinTarget (outPath : String) : Target where
  label := "g"
  templatePath := "go.hbs"
  each := true
  plugins := ["GoFmt"]
  apis := [{ label := "A", outPath }]

def twinConfig (outPath : String) : Config :=
  { apis := [twinApi], targets := [twinTarget outPath] }

/-- A file for each of two microservices, with the label of the microservice. -/
def twins (exec : Executor) (outPath : String) : Generator :=
  (prepare (.standard {}) exec (twinConfig outPath) (.ofString "t")).toOption.getD
    ⟨.standard {}, {}, ⟨[]⟩, {}, {}⟩

def twinWorld : World where
  files :=
    { entries := [(["t"], .dir 0o755),
        (["t", "go.hbs"], .file 0o644 "{{Microservice.Label}}".toUTF8)],
      workingDir := [] }

def twinEnd (exec : Executor) (outPath : String) : World :=
  (((twins exec outPath).run {} .all).run twinWorld).2

def twinTask (outPath label : String) : Task where
  target := twinTarget outPath
  targetApi := { label := "A", outPath }
  api := twinApi
  microservice := some (twin label)

variable {exec : Executor} {outPath : String} {p q : Path} {x y : Output}

theorem prepare_twins (exec : Executor) (outPath : String) :
    prepare (.standard {}) exec (twinConfig outPath) (.ofString "t") = .ok (twins exec outPath) :=
  eq_ok_getD _ rfl

theorem tasks_twins (exec : Executor) (outPath : String) :
    (twins exec outPath).tasks .all = [twinTask outPath "a", twinTask outPath "b"] := rfl

theorem run_twins : ((twins exclaiming "out/f").run {} .all).run twinWorld =
    (.ok { fileCount := 2, rendered := ["g"] }, twinEnd exclaiming "out/f") :=
  eq_mk_of_toOption (by decide +kernel)

theorem run_keeps_last_written_sample : ∃ xs,
    (twins exclaiming "out/f").Writes {} .all twinWorld.files xs
      (twinEnd exclaiming "out/f").files ∧
    xs.map (·.task) = [twinTask "out/f" "a", twinTask "out/f" "b"] ∧
    (∀ x ∈ xs, x.task.path (.standard {}) {} = .ok x.item.path) ∧ 2 = xs.length ∧
    (∀ x ∈ xs, ∃ place y, (twinEnd exclaiming "out/f").files.asRoot.locate x.item.path = .ok place ∧
      Output.lastAt (twinEnd exclaiming "out/f").files xs place = some y ∧
      (twinEnd exclaiming "out/f").files.asRoot.readText x.item.path = .ok y.content) ∧
    (2 = (Output.places (twinEnd exclaiming "out/f").files xs).dedup.length ↔
      (Output.places (twinEnd exclaiming "out/f").files xs).Nodup) := by
  obtain ⟨xs, hwrites, htasks, hpaths, hcount, hkeeps⟩ := run_keeps_last_written run_twins
  have hspares : ∀ t ∈ (twins exclaiming "out/f").selected .all,
      ∀ p ∈ (twins exclaiming "out/f").plugins.plugins t.label,
        p.Spares (· ∈ Output.places (twinEnd exclaiming "out/f").files xs) := by
    intro t ht p hp
    obtain rfl : t = twinTarget "out/f" := List.mem_singleton.mp ht
    obtain rfl : p = .command exclaiming "GoFmt" "gofmt" [] := List.mem_singleton.mp hp
    have hkeeps : (Plugin.command exclaiming "GoFmt" "gofmt" []).KeepsFiles := fun path text fs =>
      congrArg Prod.snd (Plugin.run_command_of_answer (fun _ _ => rfl) _ _ _ path text fs)
    exact hkeeps.spares _
  exact ⟨xs, hwrites, htasks, hpaths, hcount, hkeeps hspares⟩

theorem exists_of_writes_twins {fs' : FileSystem} {xs : List Output}
    (h : (twins exec outPath).Writes {} .all twinWorld.files xs fs')
    (hp : ((twinTask outPath "a").path (.standard {}) {}).toOption = some p)
    (hq : ((twinTask outPath "b").path (.standard {}) {}).toOption = some q) :
    ∃ x y, xs = [x, y] ∧ x.item.path = p ∧ y.item.path = q := by
  have htasks := h.map_task
  rw [tasks_twins] at htasks
  obtain ⟨x, xs, rfl, hx, hxs⟩ := List.map_eq_cons_iff.mp htasks
  obtain ⟨y, ys, rfl, hy, hys⟩ := List.map_eq_cons_iff.mp hxs
  obtain rfl := List.map_eq_nil_iff.mp hys
  have hpath := h.path_eq
  rw [show (twins exec outPath).engines = .standard {} from rfl] at hpath
  refine ⟨x, y, rfl, ?_, ?_⟩
  · have hxp := hpath x List.mem_cons_self
    rw [hx, eq_ok_of_toOption hp] at hxp
    exact (Except.ok.inj hxp).symm
  · have hyq := hpath y (List.mem_cons_of_mem x List.mem_cons_self)
    rw [hy, eq_ok_of_toOption hq] at hyq
    exact (Except.ok.inj hyq).symm

def twinRun : TargetRun :=
  (twins exclaiming "out/f").targetRun {} (twinTarget "out/f")

def twinOpened : Opened where
  api := twinApi
  outPath := ⟨"out/f"⟩
  template := (twinRun.loaded twinWorld.files
    { label := "A", outPath := "out/f" }).toOption.getD ⟨"", .statements⟩

def twinItem : Item :=
  (twinRun.item twinOpened (some (twin "a"))).toOption.getD
    { path := ⟨[]⟩, microservice := none, data := .null }

/-- The first output has the label of the first microservice. -/
theorem content_of_writes_twins {fs' : FileSystem}
    (h : (twins exclaiming "out/f").Writes {} .all twinWorld.files [x, y] fs') :
    x.content = "a" ++ "!" := by
  have hr : twinRun.Writes twinWorld.files [x, y] fs' :=
    Collects.of_singleton (a := twinTarget "out/f") h
  obtain ⟨o, ho, hsubjects⟩ : twinRun.WritesApi { label := "A", outPath := "out/f" }
      twinWorld.files [x, y] fs' := Collects.of_singleton hr
  have hopened : twinRun.opening twinWorld.files { label := "A", outPath := "out/f" } =
      .ok twinOpened :=
    TargetRun.opening_eq_ok rfl (PathTemplate.compile_eq_ok_iff.mpr ⟨by decide +kernel, rfl⟩)
      (eq_ok_getD _ (by decide +kernel))
  obtain rfl := Except.ok.inj (hopened.symm.trans ho)
  obtain ⟨xs, ys, fs₁, hsplit, hfirst, -⟩ :=
    Collects.exists_of_cons (a := some (twin "a")) (l := [some (twin "b")]) hsubjects
  cases hfirst with
  | mk hi hg =>
    obtain rfl := (List.cons.inj hsplit).1
    have hitem : twinRun.item twinOpened (some (twin "a")) = .ok twinItem :=
      eq_ok_getD _ (by decide +kernel)
    obtain rfl := Except.ok.inj (hitem.symm.trans hi)
    have htext : twinRun.rendered twinOpened.template twinWorld.files twinItem = .ok "a" :=
      eq_ok_of_toOption (by decide +kernel)
    obtain rfl := Except.ok.inj (htext.symm.trans hg.rendered_eq)
    cases hg.run_plugins
    rfl

def ownPath : String := "out/{{ Microservice.Label }}"

/-- An output is lost to a later one at the same place, or to a plugin. -/
theorem not_run_keeps_every_output :
    (¬ ∀ (es : Engines) (exec : Executor) (config : Config) (templates : Path) (g : Generator)
      (env : Environment) (s : Selection) (w w' : World) (summary : Summary) (xs : List Output),
      prepare es exec config templates = .ok g → (g.run env s).run w = (.ok summary, w') →
      g.Writes env s w.files xs w'.files →
      ∀ x ∈ xs, w'.files.asRoot.readText x.item.path = .ok x.content) ∧
    ¬ ∀ (es : Engines) (exec : Executor) (config : Config) (templates : Path) (g : Generator)
      (env : Environment) (s : Selection) (w w' : World) (summary : Summary) (xs : List Output),
      prepare es exec config templates = .ok g → (g.run env s).run w = (.ok summary, w') →
      g.Writes env s w.files xs w'.files → (Output.places w'.files xs).Nodup →
      ∀ x ∈ xs, w'.files.asRoot.readText x.item.path = .ok x.content := by
  constructor
  · intro hall
    obtain ⟨xs, hwrites, -⟩ := ends_run_iff.mp ⟨_, run_twins, rfl⟩
    obtain ⟨x, y, rfl, hx, -⟩ := exists_of_writes_twins (p := .ofString "out/f")
      (q := .ofString "out/f") hwrites (by decide +kernel) (by decide +kernel)
    have hread := hall _ _ _ _ _ _ _ _ _ _ _ (prepare_twins _ _) run_twins hwrites x
      List.mem_cons_self
    have hlast :
        (twinEnd exclaiming "out/f").files.asRoot.readText (.ofString "out/f") = .ok "b!" :=
      eq_ok_of_toOption (by decide +kernel)
    rw [hx, hlast, content_of_writes_twins hwrites] at hread
    exact absurd (Except.ok.inj hread) (by decide)
  · intro hall
    have hrun : ((twins removing ownPath).run {} .all).run twinWorld =
        (.ok { fileCount := 2, rendered := ["g"] }, twinEnd removing ownPath) :=
      eq_mk_of_toOption (by decide +kernel)
    obtain ⟨xs, hwrites, -⟩ := ends_run_iff.mp ⟨_, hrun, rfl⟩
    obtain ⟨x, y, rfl, hx, hy⟩ := exists_of_writes_twins (p := .ofString "out/a")
      (q := .ofString "out/b") hwrites (by decide +kernel) (by decide +kernel)
    have hplaces : (Output.places (twinEnd removing ownPath).files [x, y]).Nodup := by
      have ha : ((twinEnd removing ownPath).files.asRoot.locate (.ofString "out/a")).toOption =
          some ["out", "a"] := by decide +kernel
      have hb : ((twinEnd removing ownPath).files.asRoot.locate (.ofString "out/b")).toOption =
          some ["out", "b"] := by decide +kernel
      simp [Output.places, hx, hy, ha, hb]
    have hread := hall _ _ _ _ _ _ _ _ _ _ _ (prepare_twins _ _) hrun hwrites hplaces x
      List.mem_cons_self
    have hgone : ((twinEnd removing ownPath).files.asRoot.readText (.ofString "out/a")).toOption =
        none := by decide +kernel
    rw [hx] at hread
    rw [hread] at hgone
    cases hgone

end Sample

end Generator

end Stencil
