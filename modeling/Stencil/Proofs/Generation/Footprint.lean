import Stencil.Proofs.FileSystem.Evolution
import Stencil.Proofs.Generation.FailFast

/-! # What a run looks at

A run looks for templates and reads snippets; the paths are known from the files that it has found
so far. Where these paths lead to the same files, templates and snippets are the same. What it asks
the engines and the plugins is known in the same way.
-/

namespace Stencil

open FileSystem

namespace FileSystem

variable {fs fs' : FileSystem} {p : Path} {text : String}

theorem SameFile.readText_iff (h : SameFile fs fs' p) :
    fs.readText p = .ok text ↔ fs'.readText p = .ok text := by
  simp only [readText_eq_ok_iff, readBytes_eq_ok_iff, h.status_iff, allows, h.privileged_eq]

theorem SameFile.isFile_eq (h : SameFile fs fs' p) : fs.isFile p = fs'.isFile p := by
  rw [Bool.eq_iff_iff, isFile_iff, isFile_iff]
  simp only [h.status_iff]

/-- What is read, or something else if nothing can be read. -/
theorem SameFile.readText_cases (h : SameFile fs fs' p) :
    (∃ text, fs.readText p = .ok text ∧ fs'.readText p = .ok text) ∨
      ∃ e e', fs.readText p = .error e ∧ fs'.readText p = .error e' := by
  rcases hr : fs.readText p with e | text
  · rcases hr' : fs'.readText p with e' | text
    · exact .inr ⟨e, e', rfl, rfl⟩
    · rw [h.readText_iff.mpr hr'] at hr
      cases hr
  · exact .inl ⟨text, rfl, h.readText_iff.mp hr⟩

end FileSystem

namespace Version

variable {fs fs' : FileSystem} {templates path q : Path} {target : Target} {api : TargetApi}

/-- The paths at which a template may be, in the order in which they are tried. -/
def candidates (templates : Path) (target : Target) (api : TargetApi) : List Path :=
  if target.templateDir = "" then [underTemplates templates target.templatePath]
  else if resolve target.defaultVersion api.version = "" then []
  else Engine.extensions.map
    (withExtension (base templates target (resolve target.defaultVersion api.version)))

/-- The path is tried, since there is no file at those before it. -/
def Probes (fs : FileSystem) (templates : Path) (target : Target) (api : TargetApi) (q : Path) :
    Prop :=
  ∃ before after, candidates templates target api = before ++ q :: after ∧
    ∀ p ∈ before, fs.isFile p = false

theorem templatePath_eq_ok_iff : templatePath fs templates target api = .ok path ↔
    (candidates templates target api).find? fs.isFile = some path := by
  unfold templatePath candidates
  by_cases hdir : target.templateDir = ""
  · rw [if_pos hdir, if_pos hdir, List.find?_singleton]
    dsimp only
    split <;> simp
  · rw [if_neg hdir, if_neg hdir]
    dsimp only
    split
    · simp
    · generalize List.map _ _ = tried
      rcases tried.find? fs.isFile with _ | found <;> simp

theorem probes_of_templatePath (h : templatePath fs templates target api = .ok path) :
    Probes fs templates target api path := by
  rw [templatePath_eq_ok_iff, List.find?_eq_some_iff_append] at h
  obtain ⟨-, before, after, hl, hbefore⟩ := h
  exact ⟨before, after, hl, fun p hp => by simpa using hbefore p hp⟩

theorem templatePath_eq (h : templatePath fs templates target api = .ok path)
    (hs : ∀ q, Probes fs templates target api q → SameFile fs fs' q) :
    templatePath fs' templates target api = .ok path := by
  have hpath := hs path (probes_of_templatePath h)
  rw [templatePath_eq_ok_iff, List.find?_eq_some_iff_append] at h ⊢
  obtain ⟨hfile, before, after, hl, hbefore⟩ := h
  refine ⟨hpath.isFile_eq ▸ hfile, before, after, hl, fun p hp => ?_⟩
  obtain ⟨first, rest, rfl⟩ := List.append_of_mem hp
  have hprobed : Probes fs templates target api p := by
    refine ⟨first, rest ++ path :: after, by simp [hl], fun q hq => ?_⟩
    simpa using hbefore q (List.mem_append_left _ hq)
  rw [← (hs p hprobed).isFile_eq]
  exact hbefore p hp

end Version

namespace Marker

variable {m : Marker} {f f' : Found → List Char} {cs : List Char} {found : Found}

inductive Meets (m : Marker) : List Char → Found → Prop where
  | here {cs : List Char} {found : Found} : m.find? cs = some found → Meets m cs found
  | afterMarker {cs : List Char} {first found : Found} :
      m.find? cs = some first → Meets m first.rest found → Meets m cs found
  | afterChar {c : Char} {cs : List Char} {found : Found} :
      m.find? (c :: cs) = none → Meets m cs found → Meets m (c :: cs) found

theorem replaceWithin_congr (count : Nat) (h : ∀ found, m.Meets cs found → f found = f' found) :
    m.replaceWithin f count cs = m.replaceWithin f' count cs := by
  induction count generalizing cs with
  | zero => rfl
  | succ count ih =>
    cases cs with
    | nil => rfl
    | cons c cs =>
      unfold replaceWithin
      rcases hf : m.find? (c :: cs) with _ | first
      · exact congrArg (c :: ·) (ih fun found hm => h found (.afterChar hf hm))
      · dsimp only
        rw [h first (.here hf), ih fun found hm => h found (.afterMarker hf hm)]

end Marker

namespace Snippet

variable {fs fs' : FileSystem} {templates : Path} {paths : SnippetPaths}
  {rest implementations : List SnippetPaths} {template result : List Char} {q : Path}

/-- The path is one of those at which the snippets of an implementation are read: hooks are read for
the markers that name them. -/
inductive ReadsFor (templates : Path) (paths : SnippetPaths) (template : List Char) :
    Path → Prop where
  | hook {dir : String} {found : Marker.Found} :
      given paths.hooksDirectory = some dir → Marker.hook.Meets template found →
      ReadsFor templates paths template
        ((Version.underTemplates templates dir).join (.ofString found.name))
  | content {relative : String} : given paths.contentPath = some relative →
      ReadsFor templates paths template (Version.underTemplates templates relative)
  | imports {relative : String} : given paths.importsPath = some relative →
      ReadsFor templates paths template (Version.underTemplates templates relative)

/-- The path is read for one of the implementations, after those before it have been put into the
template. -/
inductive Reads (fs : FileSystem) (templates : Path) :
    List SnippetPaths → List Char → Path → Prop where
  | first {paths : SnippetPaths} {rest : List SnippetPaths} {template : List Char} {q : Path} :
      ReadsFor templates paths template q → Reads fs templates (paths :: rest) template q
  | later {paths : SnippetPaths} {rest : List SnippetPaths} {template filled : List Char}
      {q : Path} :
      (apply fs templates paths template).1 = .ok filled → Reads fs templates rest filled q →
      Reads fs templates (paths :: rest) template q

theorem Reads.readsFor (h : Reads fs templates implementations template q) :
    ∃ paths ∈ implementations, ∃ template, ReadsFor templates paths template q := by
  induction h with
  | @first paths rest template q hq => exact ⟨paths, List.mem_cons_self, template, hq⟩
  | later _ _ ih =>
    obtain ⟨paths, hmem, hq⟩ := ih
    exact ⟨paths, List.mem_cons_of_mem _ hmem, hq⟩

theorem hookText_eq {dir : Path} {name : String}
    (h : SameFile fs fs' (dir.join (.ofString name))) :
    hookText fs dir name = hookText fs' dir name := by
  unfold hookText
  rcases h.readText_cases with ⟨text, hr, hr'⟩ | ⟨e, e', hr, hr'⟩ <;> rw [hr, hr']

theorem content_eq_ok (h : content fs templates paths = .ok result)
    (hs : ∀ relative, given paths.contentPath = some relative →
      SameFile fs fs' (Version.underTemplates templates relative)) :
    content fs' templates paths = .ok result := by
  unfold content at h ⊢
  rcases hg : given paths.contentPath with _ | relative
  · simpa [hg] using h
  · simp only [hg] at h ⊢
    rcases (hs relative hg).readText_cases with ⟨text, hr, hr'⟩ | ⟨e, e', hr, hr'⟩
    · rw [hr] at h
      rw [hr']
      exact h
    · rw [hr] at h
      cases h

theorem imports_fst_eq (hs : ∀ relative, given paths.importsPath = some relative →
      SameFile fs fs' (Version.underTemplates templates relative)) :
    (imports fs templates paths).1 = (imports fs' templates paths).1 := by
  unfold imports
  rcases hg : given paths.importsPath with _ | relative
  · rfl
  · dsimp only
    rcases (hs relative hg).readText_cases with ⟨text, hr, hr'⟩ | ⟨e, e', hr, hr'⟩
    · rw [hr, hr']
    · rw [hr, hr']
      cases e <;> cases e' <;> rfl

theorem apply_eq_ok (h : (apply fs templates paths template).1 = .ok result)
    (hs : ∀ q, ReadsFor templates paths template q → SameFile fs fs' q) :
    (apply fs' templates paths template).1 = .ok result := by
  have hhooks : ∀ dir, given paths.hooksDirectory = some dir →
      insertHooks fs (Version.underTemplates templates dir) template =
        insertHooks fs' (Version.underTemplates templates dir) template := by
    intro dir hdir
    refine Marker.replaceWithin_congr _ fun found hm => ?_
    rw [hookText_eq (hs _ (.hook hdir hm))]
  have himports : (imports fs templates paths).1 = (imports fs' templates paths).1 :=
    imports_fst_eq fun relative hg => hs _ (.imports hg)
  unfold apply at h ⊢
  rcases hc : content fs templates paths with e | text
  · rw [hc] at h
    cases h
  · rw [content_eq_ok hc fun relative hg => hs _ (.content hg)]
    rw [hc] at h
    rcases hg : given paths.hooksDirectory with _ | dir
    · simpa [hg, himports] using h
    · simpa [hg, himports, hhooks dir hg] using h

theorem applyAll_eq_ok (h : (applyAll fs templates implementations template).1 = .ok result)
    (hs : ∀ q, Reads fs templates implementations template q → SameFile fs fs' q) :
    (applyAll fs' templates implementations template).1 = .ok result := by
  induction implementations generalizing template with
  | nil => exact h
  | cons paths rest ih =>
    rw [applyAll] at h ⊢
    rcases ha : apply fs templates paths template with ⟨e | filled, ws⟩
    · simp only [ha] at h
      cases h
    · have hfilled : (apply fs templates paths template).1 = .ok filled := by rw [ha]
      have ha' := apply_eq_ok hfilled fun q hq => hs q (.first hq)
      rcases hb : apply fs' templates paths template with ⟨_ | filled', ws'⟩ <;> rw [hb] at ha'
      · cases ha'
      · obtain rfl : filled' = filled := Except.ok.inj ha'
        simp only [ha] at h
        exact ih h fun q hq => hs q (.later hfilled hq)

end Snippet

namespace Plugin

variable {plugins : List Plugin} {path : Path} {text content : String} {fs fs' : FileSystem}

/-- The plugin answers the same before and after files are written at the places and directories are
made, as long as commands run in the same directory. -/
def Overlooks (p : Plugin) (outs : Place → Prop) : Prop :=
  ∀ path text fs fs', Evolves outs fs fs' → commandDir fs path = commandDir fs' path →
    ((p.run path text).run fs).1 = ((p.run path text).run fs').1

def answered (name program : String) (args : List String)
    (answer : Invocation → Except GenerationError CommandResult) (path : Path) (text : String)
    (dir : Path) : Except GenerationError String :=
  match answer { program, args, stdin := text, dir } with
  | .error e => .error (.plugin name path e.message)
  | .ok result =>
    if result.succeeded then .ok result.stdout
    else .error (.plugin name path
      (program ++ " exited with code " ++ toString result.exitCode ++ ": " ++
        String.ofList (trimBy isBlank result.stderr.toList)))

def invocation (program : String) (args : List String) (path : Path) (text : String)
    (fs : FileSystem) : Invocation where
  program := program
  args := args
  stdin := text
  dir := commandDir fs path

/-- A command plugin calls its program once, and leaves the files as the program leaves them. -/
theorem run_command (exec : Executor) (name program : String) (args : List String) (path : Path)
    (text : String) (fs : FileSystem) :
    ((command exec name program args).run path text).run fs =
      (answered name program args (fun call => ((exec call).run fs).1) path text
          (commandDir fs path),
        ((exec (invocation program args path text fs)).run fs).2) := by
  unfold command answered invocation
  dsimp only
  rw [run_bind_ok (rfl : (get : FileAction FileSystem).run fs = (.ok fs, fs))]
  generalize hcall : Invocation.mk program args text (commandDir fs path) = call
  have htry := run_tryCatch (exec call) (fun e => throw (.plugin name path e.message)) fs
  rcases hr : (exec call).run fs with ⟨e | result, fs'⟩ <;> simp only [hr] at htry
  · exact run_bind_error htry
  · refine (run_bind_ok htry).trans ?_
    dsimp only
    split <;> rfl

/-- A program that only answers what it is asked changes no files, and looks at none. -/
theorem run_command_of_answer {exec : Executor}
    {answer : Invocation → Except GenerationError CommandResult}
    (h : ∀ call fs, (exec call).run fs = (answer call, fs)) (name program : String)
    (args : List String) (path : Path) (text : String) (fs : FileSystem) :
    ((command exec name program args).run path text).run fs =
      (answered name program args answer path text (commandDir fs path), fs) := by
  simp only [run_command, h]

theorem run_runAll_eq {outs : Place → Prop} (hk : ∀ p ∈ plugins, p.KeepsFiles)
    (ho : ∀ p ∈ plugins, p.Overlooks outs) (he : Evolves outs fs fs')
    (hd : commandDir fs path = commandDir fs' path)
    (hrun : ((runAll plugins path text).run fs).1 = .ok content) :
    (runAll plugins path text).run fs' = (.ok content, fs') := by
  unfold runAll at hrun ⊢
  induction plugins generalizing text with
  | nil => exact Prod.ext hrun rfl
  | cons p ps ih =>
    obtain ⟨hkeeps, hk⟩ := List.forall_mem_cons.mp hk
    obtain ⟨hanswer, ho⟩ := List.forall_mem_cons.mp ho
    have hfiles := hkeeps path text fs
    have hfiles' := hkeeps path text fs'
    have hsame := hanswer path text fs fs' he hd
    rw [List.foldlM_cons] at hrun ⊢
    rcases hr : (p.run path text).run fs with ⟨e | text', fs₁⟩
    · rw [run_bind_error hr] at hrun
      cases hrun
    · rcases hr' : (p.run path text).run fs' with ⟨e' | text'', fs₂⟩ <;>
        rw [hr, hr'] at hsame <;> cases hsame
      rw [hr] at hfiles
      rw [hr'] at hfiles'
      cases hfiles
      cases hfiles'
      rw [run_bind_ok hr] at hrun
      rw [run_bind_ok hr']
      exact ih hk ho hrun

end Plugin

namespace Engines

/-- What a run can ask the engines. -/
inductive Question where
  | reads (template : List Char)
  | render (e : Engine) (template : List Char) (data : Json)

/-- Both engines answer the question alike, whatever they report. -/
def SameAnswer (es es' : Engines) : Question → Prop
  | .reads template => es.reads template = es'.reads template
  | .render e template data =>
    ((es.render e template data).run []).1 = ((es'.render e template data).run []).1

end Engines

section Answers

variable {ε ε' α β : Type} {es es' : Engines} {e : Engine} {template : List Char} {data : Json}
  {t : PathTemplate}

theorem fst_run_adapt (x : Reporting ε α) (f : ε → ε') :
    ((x.adapt f).run []).1 = (x.run []).1.mapError f := rfl

theorem fst_run_map (x : Reporting ε α) (f : α → β) :
    ((f <$> x).run []).1 = (x.run []).1.map f := by
  rw [map_eq_pure_bind]
  rcases hx : x.run [] with ⟨e | a, ws⟩
  · rw [run_bind_error hx]
    rfl
  · rw [run_bind_ok hx]
    rfl

theorem Engine.fst_run_render_eq
    (hr : e = .statements → es.SameAnswer es' (.reads template))
    (ht : es.SameAnswer es' (.render e template data)) :
    ((e.render es template data).run []).1 = ((e.render es' template data).run []).1 := by
  have htext (f : RenderFault → GenerationError) :
      (((es.render e template data).adapt f).run []).1 =
        (((es'.render e template data).adapt f).run []).1 := by
    rw [fst_run_adapt, fst_run_adapt, ht]
  unfold render
  cases e with
  | statements =>
    dsimp only
    rw [show es.reads template = es'.reads template from hr rfl]
    split
    · split
      · rw [fst_run_map, fst_run_map, htext]
      · rfl
    · rfl
  | blocks => exact htext _

theorem PathTemplate.fst_run_path_eq (env : Environment)
    (ht : es.SameAnswer es' (.render .statements t.raw.toList data)) :
    ((t.path es env data).run []).1 = ((t.path es' env data).run []).1 := by
  unfold path
  rw [← map_eq_pure_bind, ← map_eq_pure_bind, fst_run_map, fst_run_map, fst_run_adapt,
    fst_run_adapt, ht]

end Answers

namespace TargetRun

variable {r : TargetRun} {a : TargetApi} {t : LoadedTemplate} {o : Opened} {item : Item}
  {text : String} {fs fs' : FileSystem}

theorem loaded_eq_ok (h : r.loaded fs a = .ok t)
    (hs : ∀ q, Version.Probes fs r.templates r.target a q → SameFile fs fs' q) :
    r.loaded fs' a = .ok t := by
  unfold loaded at h ⊢
  rcases hp : Version.templatePath fs r.templates r.target a with e | path
  · rw [hp] at h
    cases h
  · rw [Version.templatePath_eq hp hs]
    rw [hp] at h
    dsimp only [Except.mapError, Except.bind] at h ⊢
    rcases (hs path (Version.probes_of_templatePath hp)).readText_cases with
      ⟨text, hr, hr'⟩ | ⟨e, e', hr, hr'⟩
    · rw [hr] at h
      rw [hr']
      exact h
    · rw [hr] at h
      cases h

/-- A template is for the engine of one of the paths that are tried. -/
theorem exists_engine_eq (h : r.loaded fs a = .ok t) :
    ∃ q ∈ Version.candidates r.templates r.target a, t.engine = Engine.ofPath q := by
  unfold loaded at h
  rcases hp : Version.templatePath fs r.templates r.target a with e | path
  · rw [hp] at h
    cases h
  · obtain ⟨before, after, hl, -⟩ := Version.probes_of_templatePath hp
    refine ⟨path, by simp [hl], ?_⟩
    rw [hp] at h
    dsimp only [Except.mapError, Except.bind] at h
    rcases hr : fs.readText path with e | text <;> rw [hr] at h <;> cases h
    rfl

/-- An api is opened in the same way in another run with engines that answer alike. -/
theorem opening_eq {es : Engines} (h : r.opening fs a = .ok o)
    (hs : ∀ q, Version.Probes fs r.templates r.target a q → SameFile fs fs' q)
    (he : r.engines.SameAnswer es (.reads a.outPath.toList)) :
    ({ r with engines := es } : TargetRun).opening fs' a = .ok o := by
  rw [opening_eq_ok_iff] at h ⊢
  obtain ⟨hfind, hpath, hload⟩ := h
  refine ⟨hfind, ?_, loaded_eq_ok hload hs⟩
  rw [PathTemplate.compile] at hpath ⊢
  rw [← hpath, show r.engines.reads a.outPath.toList = es.reads a.outPath.toList from he]

theorem expanded_eq {template : List Char} (h : r.expanded t fs item = .ok template)
    (hs : ∀ q, Snippet.Reads fs r.templates
      (Snippet.forTarget r.target.label item.microservice) t.text.toList q → SameFile fs fs' q) :
    r.expanded t fs' item = .ok template := by
  unfold expanded Snippet.inject at h ⊢
  dsimp only at h ⊢
  rcases hi : (Snippet.applyAll fs r.templates
    (Snippet.forTarget r.target.label item.microservice) t.text.toList).1 with e | injected
  · rw [hi] at h
    cases h
  · rw [Snippet.applyAll_eq_ok hi hs]
    rw [hi] at h
    exact h

inductive AsksForText (r : TargetRun) (t : LoadedTemplate) (fs : FileSystem) (item : Item) :
    Engines.Question → Prop where
  | reads {template : List Char} : t.engine = .statements → r.expanded t fs item = .ok template →
      AsksForText r t fs item (.reads template)
  | render {template : List Char} : r.expanded t fs item = .ok template →
      AsksForText r t fs item (.render t.engine template item.data)

/-- The text of a file is the same for another run with engines that answer alike. -/
theorem rendered_eq {es : Engines} (h : r.rendered t fs item = .ok text)
    (hs : ∀ q, Snippet.Reads fs r.templates
      (Snippet.forTarget r.target.label item.microservice) t.text.toList q → SameFile fs fs' q)
    (he : ∀ q, r.AsksForText t fs item q → r.engines.SameAnswer es q) :
    ({ r with engines := es } : TargetRun).rendered t fs' item = .ok text := by
  rcases hx : r.expanded t fs item with e | template
  · rw [rendered, hx] at h
    cases h
  · have hx' : ({ r with engines := es } : TargetRun).expanded t fs' item = .ok template :=
      expanded_eq hx hs
    rw [rendered, hx] at h
    rw [rendered, hx', ← h]
    exact congrArg (Except.map String.ofList)
      (Engine.fst_run_render_eq (fun hs => he _ (.reads hs hx)) (he _ (.render hx))).symm

theorem fst_run_outputPath_eq {es : Engines} {ms : Option Microservice}
    (h : r.engines.SameAnswer es (.render .statements o.outPath.raw.toList (o.data ms))) :
    ((r.outputPath o ms).run []).1 =
      ((({ r with engines := es } : TargetRun).outputPath o ms).run []).1 := by
  cases ms with
  | none => exact PathTemplate.fst_run_path_eq r.env h
  | some ms => exact PathTemplate.fst_run_path_eq r.env h

end TargetRun

theorem StopsAt.mem {α β : Type} {step : α → Generating β} {l : List α} {a : α} {w w₁ : World}
    (h : StopsAt step l w a w₁) : a ∈ l := by
  obtain ⟨done, later, rfl, -⟩ := h
  simp

namespace Generator

/-- The run comes to an api of a target. -/
def ReachesApi (g : Generator) (env : Environment) (s : Selection) (w : World) (t : Target)
    (a : TargetApi) (w₁ : World) : Prop :=
  ∃ w₀, StopsAt (fun t => (g.targetRun env t).generate) (g.selected s) w t w₀ ∧
    StopsAt (g.targetRun env t).generateApi t.apis w₀ a w₁

/-- The run comes to a file. -/
def ReachesItem (g : Generator) (env : Environment) (s : Selection) (w : World) (t : Target)
    (o : Opened) (item : Item) (w₂ : World) : Prop :=
  ∃ a w₁ ms, g.ReachesApi env s w t a w₁ ∧ (g.targetRun env t).opening w₁.files a = .ok o ∧
    StopsAt ((g.targetRun env t).generateSubject o) ((g.targetRun env t).subjects o.api a) w₁ ms
      w₂ ∧
    (g.targetRun env t).item o ms = .ok item

/-- The run reads or probes the path. -/
inductive Reads (g : Generator) (env : Environment) (s : Selection) (w : World) : Path → Prop where
  | template {t : Target} {a : TargetApi} {w₁ : World} {q : Path} :
      g.ReachesApi env s w t a w₁ → Version.Probes w₁.files g.templates t a q → Reads g env s w q
  | snippet {t : Target} {o : Opened} {item : Item} {w₂ : World} {q : Path} :
      g.ReachesItem env s w t o item w₂ →
      Snippet.Reads w₂.files g.templates (Snippet.forTarget t.label item.microservice)
        o.template.text.toList q → Reads g env s w q

/-- The run asks the engines: whether the output path of an api can be read, for the path of a file,
or for its text. -/
inductive Asks (g : Generator) (env : Environment) (s : Selection) (w : World) :
    Engines.Question → Prop where
  | outPath {t : Target} {a : TargetApi} {w₁ : World} :
      g.ReachesApi env s w t a w₁ → Asks g env s w (.reads a.outPath.toList)
  | path {t : Target} {a : TargetApi} {o : Opened} {ms : Option Microservice} {w₁ w₂ : World} :
      g.ReachesApi env s w t a w₁ → (g.targetRun env t).opening w₁.files a = .ok o →
      StopsAt ((g.targetRun env t).generateSubject o) ((g.targetRun env t).subjects o.api a) w₁ ms
        w₂ →
      Asks g env s w (.render .statements o.outPath.raw.toList (o.data ms))
  | text {t : Target} {o : Opened} {item : Item} {w₂ : World} {q : Engines.Question} :
      g.ReachesItem env s w t o item w₂ →
      (g.targetRun env t).AsksForText o.template w₂.files item q → Asks g env s w q

/-- The path is that of a file of the run. -/
def Outputs (g : Generator) (env : Environment) (s : Selection) (w : World) (q : Path) : Prop :=
  ∃ t o item w₂, g.ReachesItem env s w t o item w₂ ∧ q = item.path

section Paths

variable {g : Generator} {env : Environment} {s : Selection} {t : Target} {a : TargetApi}
  {o : Opened} {item : Item} {w w₁ w₂ : World} {p q : Path}

theorem ReachesApi.mem (h : g.ReachesApi env s w t a w₁) : t ∈ g.selected s ∧ a ∈ t.apis := by
  obtain ⟨w₀, ht, ha⟩ := h
  exact ⟨ht.mem, ha.mem⟩

/-- If the step for an api fails that the run comes to, the run fails. -/
theorem ReachesApi.run_eq_error {e : GenerationError} (h : g.ReachesApi env s w t a w₁)
    (he : ((g.targetRun env t).generateApi a).run w₁ = (.error e, w₂)) :
    (g.run env s).run w = (.error (.within t.label a.label e), w₂) := by
  obtain ⟨w₀, ⟨targets, otherTargets, htargets, hgenerated⟩, apis, otherApis, hapis, hdone⟩ := h
  have hgenerate : ((g.targetRun env t).generate).run w₀ =
      (.error (.within t.label a.label e), w₂) := by
    unfold TargetRun.generate
    rw [show (g.targetRun env t).target.apis = _ from hapis]
    exact run_foldlM_error (g.targetRun env t).follows_generateApi hdone he
  unfold run
  rw [htargets]
  exact run_bind_error (run_foldlM_error (g.follows_generate env) hgenerated hgenerate)

/-- A run comes to the file of its first target, api and subject. -/
theorem ReachesItem.first {ms : Option Microservice} {targets : List Target} {apis : List TargetApi}
    {subjects : List (Option Microservice)} (ht : g.selected s = t :: targets)
    (ha : t.apis = a :: apis) (ho : (g.targetRun env t).opening w.files a = .ok o)
    (hs : (g.targetRun env t).subjects o.api a = ms :: subjects)
    (hi : (g.targetRun env t).item o ms = .ok item) : g.ReachesItem env s w t o item w :=
  ⟨a, w, ms, ⟨w, ⟨[], targets, ht, .nil w⟩, ⟨[], apis, ha, .nil w⟩⟩, ho, ⟨[], subjects, hs, .nil w⟩,
    hi⟩

theorem ReachesItem.exists_subject (h : g.ReachesItem env s w t o item w₂) :
    t ∈ g.selected s ∧ ∃ a ∈ t.apis, g.config.apis.find? (·.label == a.label) = some o.api ∧
      PathTemplate.compile g.engines a.outPath = .ok o.outPath ∧
      ∃ ms ∈ (g.targetRun env t).subjects o.api a, ∃ path,
        (((g.targetRun env t).outputPath o ms).run []).1 = .ok path ∧ item = o.item ms path := by
  obtain ⟨a, w₁, ms, hreaches, ho, hstops, hi⟩ := h
  obtain ⟨hfind, hpath, -⟩ := TargetRun.opening_eq_ok_iff.mp ho
  refine ⟨hreaches.mem.1, a, hreaches.mem.2, hfind, hpath, ms, hstops.mem, ?_⟩
  unfold TargetRun.item at hi
  rcases hp : (((g.targetRun env t).outputPath o ms).run []).1 with e | path <;> rw [hp] at hi <;>
    cases hi
  exact ⟨path, rfl, rfl⟩

/-- A run reads only where its configuration says that templates and snippets may be. -/
theorem Reads.cases (h : g.Reads env s w q) : ∃ t ∈ g.selected s, ∃ a ∈ t.apis,
    q ∈ Version.candidates g.templates t a ∨ ∃ api ∈ g.config.apis, ∃ ms ∈ TargetRun.chosen api a,
      ∃ paths ∈ Snippet.forTarget t.label (some ms), ∃ template,
        Snippet.ReadsFor g.templates paths template q := by
  cases h with
  | template hreaches hprobes =>
    obtain ⟨before, after, hl, -⟩ := hprobes
    exact ⟨_, hreaches.mem.1, _, hreaches.mem.2, .inl (by simp [hl])⟩
  | @snippet t o item _ _ hreaches hreads =>
    obtain ⟨ht, a, ha, hfind, -, ms, hms, path, -, rfl⟩ := hreaches.exists_subject
    obtain ⟨paths, hpaths, template, hq⟩ := hreads.readsFor
    refine ⟨t, ht, a, ha, .inr ⟨o.api, List.mem_of_find?_eq_some hfind, ?_⟩⟩
    rcases ms with _ | ms
    · exact absurd hpaths List.not_mem_nil
    · refine ⟨ms, ?_, paths, hpaths, template, hq⟩
      unfold TargetRun.subjects at hms
      split at hms
      · simpa using hms
      · simp at hms

end Paths

end Generator

end Stencil
