import Stencil.Proofs.Generation.Replay

/-! # Running again

A run whose plugins change no files, and that does not read what it writes, leaves files on which it
succeeds again and changes nothing.
-/

namespace Stencil

open Generating FileSystem

namespace Generator

variable {g : Generator} {env : Environment} {s : Selection} {w w' : World} {summary : Summary}
  {es : Engines}

/-- Both paths lead to the same place. -/
def SamePlace (fs : FileSystem) (p q : Path) : Prop :=
  ∃ place, fs.locate p = .ok place ∧ fs.locate q = .ok place

/-- A place to which the path of a file of the run leads at its end. -/
def IsOutput (g : Generator) (env : Environment) (s : Selection) (w w' : World) (place : Place) :
    Prop :=
  ∃ p, g.Outputs env s w p ∧ w'.files.locate p = .ok place

/-- The engines answer alike all that the run asks. -/
def AnswersAlike (g : Generator) (es : Engines) (env : Environment) (s : Selection) (w : World) :
    Prop :=
  ∀ q, g.Asks env s w q → g.engines.SameAnswer es q

/-- The plugins of the selected targets change no files. -/
def PluginsKeepFiles (g : Generator) (s : Selection) : Prop :=
  ∀ t ∈ g.selected s, ∀ p ∈ g.plugins.plugins t.label, p.KeepsFiles

/-- The plugins of the selected targets overlook what the run writes and makes. -/
def PluginsOverlook (g : Generator) (env : Environment) (s : Selection) (w w' : World) : Prop :=
  ∀ t ∈ g.selected s, ∀ p ∈ g.plugins.plugins t.label, p.Overlooks (g.IsOutput env s w w')

/-- No file is written where the run reads. -/
def WritesApart (g : Generator) (env : Environment) (s : Selection) (w w' : World) : Prop :=
  ∀ q p, g.Reads env s w q → g.Outputs env s w p → ¬ SamePlace w'.files q p

/-- From the directories that the run makes no path that it reads climbs to a file. -/
def NeverClimbs (g : Generator) (env : Environment) (s : Selection) (w w' : World) : Prop :=
  ∀ q, g.Reads env s w q → ¬ ClimbsToFile w.files w'.files q

/-- A run on the files succeeds with the summary and leaves them as they are. -/
def IsStable (g : Generator) (env : Environment) (s : Selection) (summary : Summary)
    (fs : FileSystem) : Prop :=
  ∀ ws, ∃ w', (g.run env s).run ⟨fs, ws⟩ = (.ok summary, w') ∧
    w'.files.toSetting = fs.toSetting ∧ ∀ place, w'.files.node? place = fs.node? place

theorem repeats_run (he : g.AnswersAlike es env s w) (hk : g.PluginsKeepFiles s)
    (ho : g.PluginsOverlook env s w w')
    (hreads : ∀ q, g.Reads env s w q →
      Undisturbed w.files w'.files (g.IsOutput env s w w') q) :
    Repeats w.files w'.files (g.IsOutput env s w w') (g.run env s)
      (({ g with engines := es } : Generator).run env s) w := by
  unfold run
  refine repeats_bind ?_ fun _ _ _ => repeats_bind (repeats_warn _) fun _ _ _ => repeats_pure _
  refine repeats_foldlM (g.follows_generate env)
    (fun _ _ _ h => repeats_bind h fun _ _ _ => repeats_pure _) _ _ fun t w₀ htarget => ?_
  refine repeats_foldlM (g.targetRun env t).follows_generateApi
    (fun _ _ _ h => repeats_bind (repeats_within h) fun _ _ _ => repeats_pure _) _ _
    fun a w₁ hapi => ?_
  have hreaches : g.ReachesApi env s w t a w₁ := ⟨w₀, htarget, hapi⟩
  refine TargetRun.repeats_generateApi (hk t htarget.mem) (ho t htarget.mem)
    (he _ (.outPath hreaches)) (fun q hq => hreads q (.template hreaches hq))
    fun o ms w₂ hopen hstops => ?_
  refine ⟨he _ (.path hreaches hopen hstops), fun item hi => ?_⟩
  have hitem : g.ReachesItem env s w t o item w₂ := ⟨a, w₁, ms, hreaches, hopen, hstops, hi⟩
  exact ⟨fun place hl => ⟨item.path, ⟨t, o, item, w₂, hitem, rfl⟩, hl⟩,
    fun q hq => hreads q (.snippet hitem hq), fun q hq => he q (.text hitem hq)⟩

section Sample

def naming : Executor :=
  fun call => pure { exitCode := 0, stdout := call.stdin ++ call.dir.text, stderr := "" }

def namingPlugin : Plugin :=
  .command naming "Naming" "pwd" []

def loggingPlugin : Plugin where
  name := "Logging"
  run _ text := do
    modify fun fs =>
      let log := (fs.readBytes (.ofString "log")).toOption.getD .empty
      fs.plant (.ofString "log") (.file 0o644 (log ++ "x".toUTF8))
    pure text

/-- A plugin that answers something else once the file is there. -/
def lookingPlugin : Plugin where
  name := "Looking"
  run path text := do
    if (← get).isFile path then pure (text ++ "!") else pure text

def importing (imports : String) : Microservice where
  label := "m"
  primaryModel := { name := "M" }
  implementations :=
    [{ function := { name := "send" }, targetSnippets := [("g", { importsPath := some imports })] }]

def importingApi (imports : String) : Api :=
  { label := "A", microservices := [importing imports] }

def importingTarget (template outPath : String) : Target where
  label := "g"
  templatePath := template
  each := true
  apis := [{ label := "A", outPath }]

def importer (template imports outPath : String) (plugins : List Plugin) : Generator where
  engines := .standard {}
  config := { apis := [importingApi imports], targets := [importingTarget template outPath] }
  templates := .ofString "t"
  registries := {}
  plugins := ⟨[("g", plugins)]⟩

/-- Two templates, one of which is rendered differently each time, and what may be imported. -/
def importerWorld : World where
  files :=
    { entries := [(["t"], .dir 0o755),
        (["t", "go.hbs"], .file 0o644 "{{ /* FUNCTION_IMPORTS */ }}x".toUTF8),
        (["t", "dice"], .file 0o644 "{{ get_random(end=6) }}".toUTF8),
        (["t", "extra"], .file 0o644 "import y".toUTF8)],
      workingDir := []
      privileged := false }

def otherEngines : Engines :=
  .standard { random := fun _ stop => stop - 1 }

variable {template imports outPath : String} {plugins : List Plugin} {plugin : Plugin} {p q : Path}
  {t : Target} {a : TargetApi} {o : Opened} {ms : Option Microservice} {w₁ : World}

theorem isTree_importerWorld : importerWorld.files.IsTree := by
  refine .of_entries ?_ ?_
  · intro dir hdir place hp
    obtain rfl | rfl : dir = [] ∨ dir = ["dev"] := by
      simpa [importerWorld, fixedDirs] using hdir
    · obtain rfl : place = [] := List.prefix_nil.mp hp
      exact ⟨_, rfl⟩
    · obtain rfl | rfl : place = [] ∨ place = ["dev"] := by
        simpa [List.prefix_cons_iff] using hp
      · exact ⟨_, rfl⟩
      · exact ⟨_, rfl⟩
  · simp only [importerWorld, List.forall_mem_cons]
    exact ⟨⟨_, rfl⟩, ⟨_, rfl⟩, ⟨_, rfl⟩, ⟨_, rfl⟩, List.forall_mem_nil _⟩

def importerReads (template imports : String) : List Path :=
  [Version.underTemplates (.ofString "t") template, Version.underTemplates (.ofString "t") imports]

theorem mem_importerReads (h : (importer template imports outPath plugins).Reads {} .all w q) :
    q ∈ importerReads template imports := by
  obtain ⟨t, ht, a, -, hq⟩ := h.cases
  obtain rfl : t = importingTarget template outPath := by
    simpa [selected, importer, Selection.includes] using ht
  rcases hq with hq | ⟨api, hapi, ms, hms, paths, hpaths, text, hq⟩
  · rw [List.mem_singleton.mp hq]
    exact List.mem_cons_self
  · obtain rfl : api = importingApi imports := List.mem_singleton.mp hapi
    obtain rfl : ms = importing imports := List.mem_singleton.mp (List.mem_filter.mp hms).1
    obtain rfl : paths = { importsPath := some imports } := List.mem_singleton.mp hpaths
    cases hq with
    | hook hg => cases hg
    | content hg => cases hg
    | imports hg =>
      obtain ⟨hrelative, -⟩ := Option.filter_eq_some_iff.mp hg
      cases hrelative
      exact List.mem_cons_of_mem _ List.mem_cons_self

def importerData (imports : String) : Json :=
  Context.forMicroservice (importingApi imports) (importing imports)

def importerPath (imports outPath : String) : Option Path :=
  (((PathTemplate.mk outPath).path (.standard {}) {} (importerData imports)).run []).1.toOption

structure ImporterOpened (template imports outPath : String) (t : Target) (a : TargetApi)
    (o : Opened) : Prop where
  target_eq : t = importingTarget template outPath
  targetApi_eq : a = { label := "A", outPath }
  api_eq : o.api = importingApi imports
  outPath_eq : o.outPath = ⟨outPath⟩
  engine_eq : o.template.engine =
    Engine.ofPath (Version.underTemplates (.ofString "t") template)

theorem importerOpened
    (h : (importer template imports outPath plugins).ReachesApi {} .all w t a w₁)
    (ho : ((importer template imports outPath plugins).targetRun {} t).opening w₁.files a = .ok o) :
    ImporterOpened template imports outPath t a o := by
  obtain rfl : t = importingTarget template outPath := by
    simpa [selected, importer, Selection.includes] using h.mem.1
  obtain rfl : a = { label := "A", outPath } := List.mem_singleton.mp h.mem.2
  obtain ⟨hfind, hcompile, hloaded⟩ := TargetRun.opening_eq_ok_iff.mp ho
  obtain ⟨q, hq, hengine⟩ := TargetRun.exists_engine_eq hloaded
  exact ⟨rfl, rfl, (Option.some.inj hfind).symm, (PathTemplate.compile_eq_ok_iff.mp hcompile).2,
    List.mem_singleton.mp hq ▸ hengine⟩

theorem ImporterOpened.subject_eq (h : ImporterOpened template imports outPath t a o)
    (hms : ms ∈ ((importer template imports outPath plugins).targetRun {} t).subjects o.api a) :
    ms = some (importing imports) := by
  obtain ⟨rfl, rfl, hapi, -, -⟩ := h
  rw [hapi] at hms
  exact List.mem_singleton.mp hms

theorem outputs_importer (hpath : importerPath imports outPath = some q)
    (h : (importer template imports outPath plugins).Outputs {} .all w p) : p = q := by
  obtain ⟨t, o, item, w₂, ⟨a, w₁, ms, hreaches, ho, hstops, hi⟩, rfl⟩ := h
  have hopened := importerOpened hreaches ho
  obtain rfl := hopened.subject_eq hstops.mem
  obtain ⟨api, outPath', loaded⟩ := o
  obtain rfl : api = importingApi imports := hopened.api_eq
  obtain rfl : outPath' = ⟨outPath⟩ := hopened.outPath_eq
  have hrun : ((((importer template imports outPath plugins).targetRun {} t).outputPath
      ⟨importingApi imports, ⟨outPath⟩, loaded⟩ (some (importing imports))).run []).1 = .ok q :=
    eq_ok_of_toOption hpath
  rw [TargetRun.item, hrun] at hi
  cases hi
  rfl

theorem writesApart_importer (hpath : importerPath imports outPath = some p)
    (h : ∀ q ∈ importerReads template imports, ¬ SamePlace w'.files q p) :
    (importer template imports outPath plugins).WritesApart {} .all w w' := by
  intro q p' hq hp'
  rw [outputs_importer hpath hp']
  exact h q (mem_importerReads hq)

theorem neverClimbs_importer (h : ∀ q ∈ importerReads template imports, ".." ∉ namesOf q) :
    (importer template imports outPath plugins).NeverClimbs {} .all w w' := by
  rintro q hq ⟨-, before, after, place, hnames, hup, -⟩
  exact h q (mem_importerReads hq) (by simp [hnames, hup])

theorem plugins_importer
    (h : plugin ∈ (importer template imports outPath plugins).plugins.plugins t.label) :
    plugin ∈ plugins := by
  unfold importer PluginRegistry.plugins at h
  dsimp only at h
  rw [List.lookup_cons] at h
  rcases hl : t.label == "g" with _ | _
  · simp [hl] at h
  · simpa [hl] using h

theorem pluginsKeepFiles_importer (h : ∀ p ∈ plugins, p.KeepsFiles) :
    (importer template imports outPath plugins).PluginsKeepFiles .all :=
  fun _ _ _ hp => h _ (plugins_importer hp)

theorem pluginsOverlook_importer (h : ∀ outs, ∀ p ∈ plugins, p.Overlooks outs) :
    (importer template imports outPath plugins).PluginsOverlook {} .all w w' :=
  fun _ _ _ hp => h _ _ (plugins_importer hp)

/-- A block template knows of no dice, so that only the output path could be another one. -/
theorem answersAlike_importer
    (h : (Engines.standard {}).SameAnswer otherEngines
      (.render .statements outPath.toList (importerData imports))) :
    (importer "go.hbs" imports outPath plugins).AnswersAlike otherEngines {} .all w := by
  intro q hq
  cases hq with
  | outPath => rfl
  | @path t a o ms w₁ w₂ hreaches ho hstops =>
    have hopened := importerOpened hreaches ho
    obtain rfl := hopened.subject_eq hstops.mem
    rw [hopened.outPath_eq, Opened.data, hopened.api_eq]
    exact h
  | @text t o item w₂ q hitem hasks =>
    obtain ⟨a, w₁, ms, hreaches, ho, -⟩ := hitem
    cases hasks with
    | reads => rfl
    | render =>
      rw [(importerOpened hreaches ho).engine_eq]
      rfl

def importerSummary : Summary :=
  { fileCount := 1, rendered := ["g"] }

def importerEnd (g : Generator) : World :=
  ((g.run {} .all).run importerWorld).2

theorem run_importerWorld
    (h : ((g.run {} .all).run importerWorld).1.toOption = some importerSummary) :
    (g.run {} .all).run importerWorld = (.ok importerSummary, importerEnd g) :=
  eq_mk_of_toOption h

def IsPlain (q : Path) : Prop :=
  q.isAbsolute = false ∧ "." ∉ namesOf q ∧ ".." ∉ namesOf q

instance (q : Path) : Decidable (IsPlain q) :=
  inferInstanceAs (Decidable (_ ∧ _))

theorem IsPlain.eq_of_locate {fs : FileSystem} {place : Place} (h : IsPlain q)
    (hl : fs.locate q = .ok place) : place = fs.workingDir ++ namesOf q := by
  obtain ⟨habsolute, hdot, hup⟩ := h
  have hf := (locate_eq_ok_iff.mp hl).2
  rw [start, if_neg (by simp [habsolute])] at hf
  exact eq_append_of_follow hf hdot hup

theorem IsPlain.not_samePlace {fs : FileSystem} (hq : IsPlain q) (hp : IsPlain p)
    (hne : namesOf q ≠ namesOf p) : ¬ SamePlace fs q p := by
  rintro ⟨place, hlq, hlp⟩
  exact hne (List.append_cancel_left ((hq.eq_of_locate hlq).symm.trans (hp.eq_of_locate hlp)))

def plainImporter (template : String) (plugins : List Plugin) : Generator :=
  importer template "none" "t/gen/out" plugins

theorem writesApart_plainImporter
    (h : ∀ q ∈ importerReads template "none",
      IsPlain q ∧ namesOf q ≠ namesOf (.ofString "t/gen/out")) :
    (plainImporter template plugins).WritesApart {} .all w w' := by
  have hpath : importerPath "none" "t/gen/out" = some (.ofString "t/gen/out") := by
    decide +kernel
  exact writesApart_importer hpath fun q hq => (h q hq).1.not_samePlace (by decide) (h q hq).2

theorem neverClimbs_plainImporter (h : ∀ q ∈ importerReads template "none", IsPlain q) :
    (plainImporter template plugins).NeverClimbs {} .all w w' :=
  neverClimbs_importer fun q hq => (h q hq).2.2

theorem keepsFiles_namingPlugin : namingPlugin.KeepsFiles := fun path text fs =>
  congrArg Prod.snd (Plugin.run_command_of_answer (fun _ _ => rfl) _ _ _ path text fs)

theorem overlooks_namingPlugin (outs : Place → Prop) : namingPlugin.Overlooks outs := by
  intro path text fs fs' _ hd
  have hrun (fs : FileSystem) : (namingPlugin.run path text).run fs = _ :=
    Plugin.run_command_of_answer (fun _ _ => rfl) _ _ _ path text fs
  rw [hrun, hrun, hd]

def textAt (fs : FileSystem) (place : Place) : Option String :=
  match fs.node? place with
  | some (.file _ content) => String.fromUTF8? content
  | _ => none

theorem not_isStable {fs : FileSystem} (place : Place)
    (h : textAt ((g.run env s).run ⟨fs, []⟩).2.files place ≠ textAt fs place) :
    ¬ g.IsStable env s summary fs := by
  intro hstable
  obtain ⟨w', hrun, -, hnode⟩ := hstable []
  rw [hrun] at h
  exact h (by simp only [textAt, hnode])

def climbing : Generator :=
  importer "go.hbs" "gen/../extra" "t/gen/out" []

theorem writesApart_climbing :
    climbing.WritesApart {} .all importerWorld (importerEnd climbing) := by
  have hplaces : ∀ q ∈ importerReads "go.hbs" "gen/../extra",
      ((importerEnd climbing).files.locate q).toOption ≠
        ((importerEnd climbing).files.locate (.ofString "t/gen/out")).toOption := by decide +kernel
  have hpath : importerPath "gen/../extra" "t/gen/out" = some (.ofString "t/gen/out") := by
    decide +kernel
  refine writesApart_importer hpath fun q hq ⟨place, hlq, hlp⟩ => hplaces q hq ?_
  rw [hlq, hlp]

def selfImporting : Generator :=
  importer "go.hbs" "new" "t/../t/new" []

theorem ne_of_reads_selfImporting (hq : selfImporting.Reads {} .all w q)
    (hp : selfImporting.Outputs {} .all w p) : q ≠ p := by
  have hne : ∀ q ∈ importerReads "go.hbs" "new", q ≠ .ofString "t/../t/new" := by decide
  have hpath : importerPath "new" "t/../t/new" = some (.ofString "t/../t/new") := by
    decide +kernel
  rw [outputs_importer hpath hp]
  exact hne q (mem_importerReads hq)

theorem keepsFiles_lookingPlugin : lookingPlugin.KeepsFiles := by
  intro path text fs
  unfold lookingPlugin
  dsimp only
  rw [run_bind_ok (rfl : (get : FileAction FileSystem).run fs = (.ok fs, fs))]
  split <;> rfl

end Sample

end Generator

end Stencil
