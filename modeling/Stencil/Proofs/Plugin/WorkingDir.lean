import Stencil.Proofs.Plugin.Registration

/-! # Where command plugins run

Before the plugins of a file are called, its directory is made; a command plugin runs there. If a
plugin takes the directory away, the commands after it run in the working directory of the process.
-/

namespace Stencil

open FileSystem Generating

open FileWriter (HasParent)

namespace Plugin

variable {plugins done : List Plugin} {p : Plugin} {path : Path} {text content : String}
  {fs fs' : FileSystem}

/-- On its way through plugins, a text comes to one that takes away the directory of the file. -/
inductive TakesAway (path : Path) : List Plugin → String → FileSystem → Prop where
  | here {p : Plugin} {ps : List Plugin} {text text' : String} {fs fs₁ : FileSystem} :
      HasParent fs path → (p.run path text).run fs = (.ok text', fs₁) → ¬ HasParent fs₁ path →
      TakesAway path (p :: ps) text fs
  | later {p : Plugin} {ps : List Plugin} {text text' : String} {fs fs₁ : FileSystem} :
      (p.run path text).run fs = (.ok text', fs₁) → TakesAway path ps text' fs₁ →
      TakesAway path (p :: ps) text fs

theorem Passes.hasParent_or_takesAway (h : Passes path plugins text fs content fs')
    (hp : HasParent fs path) : HasParent fs' path ∨ TakesAway path plugins text fs := by
  -- the directory is there before each step until one of them takes it away
  induction h with
  | nil => exact .inl hp
  | @cons p ps text text' content fs fs₁ fs' hrun _ ih =>
    by_cases hp₁ : HasParent fs₁ path
    · exact (ih hp₁).imp_right (.later hrun)
    · exact .inr (.here hp hrun hp₁)

/-- Plugins that leave directories where they are do not take one away. -/
theorem not_takesAway
    (hkeeps : ∀ p ∈ plugins, ∀ text fs, KeepsDirs fs ((p.run path text).run fs).2) :
    ¬ TakesAway path plugins text fs := by
  intro h
  induction h with
  | @here p _ text _ fs _ hp hrun hnone =>
    have hkept := hkeeps p List.mem_cons_self text fs
    rw [hrun] at hkept
    exact hnone (hp.mono hkept)
  | later _ _ ih => exact ih fun p hmem => hkeeps p (List.mem_cons_of_mem _ hmem)

end Plugin

namespace Generator

variable {g : Generator} {env : Environment} {s : Selection} {w : World} {path : Path}
  {done : List Plugin} {p : Plugin} {text content : String} {fs fs' fs'' : FileSystem}
  {e : GenerationError}

/-- The run calls a plugin for a file: the directory of the file has been prepared, and the text
that is rendered has passed through the plugins before it. -/
structure Calls (g : Generator) (env : Environment) (s : Selection) (w : World) (path : Path)
    (done : List Plugin) (p : Plugin) (text : String) (fs : FileSystem) (content : String)
    (fs' : FileSystem) : Prop where
  reaches : ∃ t o item w₁, g.ReachesItem env s w t o item w₁ ∧ item.path = path ∧
    (g.targetRun env t).rendered o.template w₁.files item = .ok text ∧
    (FileWriter.prepare path).run w₁.files = (.ok (), fs) ∧
    done ++ [p] <+: g.plugins.plugins t.label
  passes : Plugin.Passes path done text fs content fs'

theorem Calls.hasParent (h : g.Calls env s w path done p text fs content fs') :
    HasParent fs path := by
  obtain ⟨t, o, item, w₁, -, -, -, hprepare, -⟩ := h.reaches
  exact FileWriter.hasParent_of_run_prepare hprepare

/-- If the plugin that is called fails, the run fails. -/
theorem Calls.run_eq_error (h : g.Calls env s w path done p text fs content fs')
    (he : (p.run path content).run fs' = (.error e, fs'')) :
    ∃ target api w', (g.run env s).run w = (.error (.within target api e), w') ∧
      w'.files = fs'' := by
  obtain ⟨t, o, item, w₁, ⟨a, w₀, ms, ⟨w₂, ht, ha⟩, ho, hms, hitem⟩, rfl, hrendered, hprepare,
    hplugins⟩ := h.reaches
  have hchain : (g.plugins.run t.label item.path text).run fs = (.error e, fs'') :=
    Plugin.FailsAfter.run_runAll ⟨content, fs', h.passes, he⟩ hplugins
  have hplace (w : World) (hw : w.files = w₁.files) :
      ((g.targetRun env t).place item text).run w = (.error e, { w with files := fs'' }) := by
    unfold TargetRun.place
    rw [← hw] at hprepare
    exact (run_onFiles_bind_ok w hprepare).trans
      (run_onFiles_bind_error { w with files := fs } hchain)
  -- reports come between finding the file and placing it; they leave the files alone
  obtain ⟨ws, hsubject⟩ := (g.targetRun env t).run_generateSubject o ms w₁
  simp only [hitem, hrendered] at hsubject
  rw [hplace _ (w₁.files_report ws)] at hsubject
  obtain ⟨subjects, later, hsubjects, hdone⟩ := hms
  have hapi : ((g.targetRun env t).generateApi a).run w₀ =
      (.error e, { w₁.report ws with files := fs'' }) := by
    simp only [TargetRun.run_generateApi, ho]
    rw [hsubjects]
    exact run_bind_error
      (run_foldlM_error ((g.targetRun env t).follows_generateSubject o) hdone hsubject)
  exact ⟨t.label, a.label, _, ReachesApi.run_eq_error ⟨w₂, ht, ha⟩ hapi, rfl⟩

/-- A command plugin that a run calls asks for its program in the directory of the file, which is
there at that moment, unless a plugin before it for the same file has taken this directory away;
then it asks for it in the working directory. So calls for one path agree on the directory, whatever
was there before the run, as long as plugins leave it where it is. -/
theorem command_runs_in_directory {exec : Executor} {name program : String} {args : List String}
    (h : g.Calls env s w path done (.command exec name program args) text fs content fs') :
    ((Plugin.command exec name program args).run path content).run fs' =
      (Plugin.answered name program args (fun call => ((exec call).run fs').1) path content
          (Plugin.invocation program args path content fs').dir,
        ((exec (Plugin.invocation program args path content fs')).run fs').2) ∧
    ((Plugin.invocation program args path content fs').dir = path.directory ∧ HasParent fs' path ∨
      (Plugin.invocation program args path content fs').dir = .ofString "." ∧
        ¬ HasParent fs' path ∧ Plugin.TakesAway path done text fs) ∧
    (∀ (g₂ : Generator) (env₂ : Environment) (s₂ : Selection) (w₂ : World) (done₂ : List Plugin)
      (exec₂ : Executor) (name₂ program₂ : String) (args₂ : List String) (text₂ content₂ : String)
      (fs₂ fs₂' : FileSystem),
      g₂.Calls env₂ s₂ w₂ path done₂ (.command exec₂ name₂ program₂ args₂) text₂ fs₂ content₂ fs₂' →
      ¬ Plugin.TakesAway path done text fs → ¬ Plugin.TakesAway path done₂ text₂ fs₂ →
      (Plugin.invocation program₂ args₂ path content₂ fs₂').dir =
        (Plugin.invocation program args path content fs').dir) ∧
    ((∀ q ∈ done, ∀ text fs, KeepsDirs fs ((q.run path text).run fs).2) →
      ¬ Plugin.TakesAway path done text fs) := by
  have hparent := h.passes.hasParent_or_takesAway h.hasParent
  refine ⟨Plugin.run_command exec name program args path content fs', ?_,
    fun g₂ _ _ _ _ _ _ _ _ _ _ _ _ h₂ hkept hkept₂ => ?_, Plugin.not_takesAway⟩
  · by_cases hp : HasParent fs' path
    · exact .inl ⟨FileWriter.commandDir_of_hasParent hp, hp⟩
    · exact .inr ⟨FileWriter.commandDir_of_not_hasParent hp, hp, hparent.resolve_left hp⟩
  · have hparent₂ := h₂.passes.hasParent_or_takesAway h₂.hasParent
    exact FileWriter.commandDir_eq (hparent₂.resolve_right hkept₂) (hparent.resolve_right hkept)

section Sample

/-- A program called `goimports` takes away the directory that it runs in. -/
def clearing : Executor := fun call => do
  if call.program == "goimports" then modify (·.remove call.dir)
  pure { exitCode := 0, stdout := call.stdin, stderr := "" }

def clearedTarget : Target where
  label := "g"
  templatePath := "go.hbs"
  plugins := ["GoImports", "GoFmt"]
  apis := [{ label := "A", outPath := "out/x" }]

def clearedConfig : Config :=
  { apis := [{ label := "A" }], targets := [clearedTarget] }

def cleared : Generator :=
  (prepare (.standard {}) clearing clearedConfig (.ofString "t")).toOption.getD
    ⟨.standard {}, {}, ⟨[]⟩, {}, {}⟩

def clearedRun : TargetRun :=
  cleared.targetRun {} clearedTarget

def clearedOpened : Opened :=
  (clearedRun.opening sharingWorld.files { label := "A", outPath := "out/x" }).toOption.getD
    ⟨{ label := "A" }, ⟨""⟩, ⟨"", .statements⟩⟩

def clearedItem : Item :=
  (clearedRun.item clearedOpened none).toOption.getD
    { path := ⟨[]⟩, microservice := none, data := .null }

def clearingPlugin : Plugin :=
  .command clearing "GoImports" "goimports" []

def clearedBefore : FileSystem :=
  ((FileWriter.prepare clearedItem.path).run sharingWorld.files).2

def clearedAfter : FileSystem :=
  ((clearingPlugin.run clearedItem.path "x").run clearedBefore).2

theorem prepare_cleared :
    prepare (.standard {}) clearing clearedConfig (.ofString "t") = .ok cleared :=
  eq_ok_getD _ rfl

theorem reachesItem_cleared : cleared.ReachesItem {} .all sharingWorld clearedTarget clearedOpened
    clearedItem sharingWorld :=
  .first rfl rfl (eq_ok_getD _ (by decide +kernel)) rfl (eq_ok_getD _ (by decide +kernel))

theorem calls_cleared
    (hplugins : done ++ [p] <+: [clearingPlugin, .command clearing "GoFmt" "gofmt" []])
    (hpasses : Plugin.Passes clearedItem.path done "x" clearedBefore content fs') :
    cleared.Calls {} .all sharingWorld clearedItem.path done p "x" clearedBefore content fs' :=
  ⟨⟨clearedTarget, clearedOpened, clearedItem, sharingWorld, reachesItem_cleared, rfl,
    eq_ok_of_toOption (by decide +kernel), eq_mk_of_toOption (by decide +kernel), hplugins⟩,
    hpasses⟩

theorem command_runs_in_directory_sample :
    cleared.Calls {} .all sharingWorld clearedItem.path [] clearingPlugin "x" clearedBefore "x"
      clearedBefore ∧
    (Plugin.invocation "goimports" [] clearedItem.path "x" clearedBefore).dir =
      clearedItem.path.directory := by
  have h := calls_cleared ⟨_, rfl⟩ (.nil "x" clearedBefore)
  obtain ⟨-, ⟨hdir, -⟩ | ⟨-, -, htaken⟩, -⟩ := command_runs_in_directory h
  · exact ⟨h, hdir⟩
  · cases htaken

/-- A command that comes after one that has taken the directory away does not run there. -/
theorem not_command_runs_in_directory : ¬ ∀ (es : Engines) (exec : Executor) (config : Config)
    (templates : Path) (g : Generator) (env : Environment) (s : Selection) (w : World) (path : Path)
    (done : List Plugin) (name program : String) (args : List String) (text content : String)
    (fs fs' : FileSystem), prepare es exec config templates = .ok g →
    g.Calls env s w path done (.command exec name program args) text fs content fs' →
    (Plugin.invocation program args path content fs').dir = path.directory ∧
      HasParent fs' path := by
  intro hall
  have hrun :
      (clearingPlugin.run clearedItem.path "x").run clearedBefore = (.ok "x", clearedAfter) :=
    eq_mk_of_toOption (by decide +kernel)
  obtain ⟨hdir, -⟩ := hall _ _ _ _ _ _ _ _ _ _ _ _ _ _ _ _ _ prepare_cleared
    (calls_cleared ⟨[], rfl⟩ (.cons hrun (.nil "x" clearedAfter)))
  exact absurd hdir (by decide +kernel)

end Sample

end Generator

end Stencil
