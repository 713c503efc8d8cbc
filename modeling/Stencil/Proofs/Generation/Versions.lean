import Stencil.Proofs.Generation.Location
import Stencil.Proofs.Path.Extension

/-! # Templates under a version

The template of a version is the first of the files that have the version as their name and one of
the known extensions. It is rendered as its extension says, unless the version ends in a slash: then
the file has no name in front of the extension, and what looks like its extension is its name.
-/

namespace Stencil.Version

open FileSystem

variable {fs : FileSystem} {templates q : Path} {target : Target} {api : TargetApi}
  {version ext : String}

theorem resolve_eq_empty_iff {default api : String} :
    resolve default api = "" ↔ default = "" ∧ api = "" := by
  unfold resolve
  split
  · next h => simp [h]
  · next h => simp [h]

def baseFor (templates : Path) (target : Target) (api : TargetApi) : Path :=
  base templates target (resolve target.defaultVersion api.version)

/-- There is a file with the extension, and none with an extension that counts before it. -/
def FoundWith (fs : FileSystem) (base : Path) (ext : String) : Prop :=
  ∃ before after, Engine.extensions = before ++ ext :: after ∧
    fs.isFile (withExtension base ext) = true ∧
    ∀ e ∈ before, fs.isFile (withExtension base e) = false

theorem find?_extensions_eq_some_iff {base : Path} :
    Engine.extensions.find? (fun e => fs.isFile (withExtension base e)) = some ext ↔
      FoundWith fs base ext := by
  simp only [List.find?_eq_some_iff_append, Bool.not_eq_true']
  exact ⟨fun ⟨hfile, before, after, hl, hbefore⟩ => ⟨before, after, hl, hfile, hbefore⟩,
    fun ⟨before, after, hl, hfile, hbefore⟩ => ⟨hfile, before, after, hl, hbefore⟩⟩

theorem templatePath_eq_find? (hdir : target.templateDir ≠ "") :
    templatePath fs templates target api =
      if resolve target.defaultVersion api.version = "" then .error .noVersion
      else match Engine.extensions.find?
          (fun e => fs.isFile (withExtension (baseFor templates target api) e)) with
        | some ext => .ok (withExtension (baseFor templates target api) ext)
        | none => .error (.noFile (withExtension (baseFor templates target api) "template")) := by
  have hfind : (Engine.extensions.map (withExtension (baseFor templates target api))).find?
      fs.isFile = (Engine.extensions.find?
        fun e => fs.isFile (withExtension (baseFor templates target api) e)).map
          (withExtension (baseFor templates target api)) := List.find?_map
  unfold templatePath
  rw [if_neg hdir]
  dsimp only
  rw [← baseFor, hfind]
  rcases Engine.extensions.find?
    (fun e => fs.isFile (withExtension (baseFor templates target api) e)) with _ | ext
  · rfl
  · rfl

theorem exists_join_eq (d q : Path) : ∃ before, d.join q = ⟨before ++ q.chars⟩ := by
  by_cases h : q.isAbsolute = true
  · exact ⟨[], Path.join_of_isAbsolute h⟩
  · exact ⟨d.leading, Path.join_of_not_isAbsolute (by simpa using h)⟩

theorem atNameStart_base (hversion : version ≠ "") :
    Path.AtNameStart (base templates target version).chars ↔
      endsInSlash (.ofString version) = true := by
  have hne : version.toList ≠ [] := by simpa using hversion
  obtain ⟨before, hjoin⟩ :=
    exists_join_eq (underTemplates templates target.templateDir) (.ofString version)
  rw [base, hjoin]
  simp [Path.AtNameStart, endsInSlash, Path.ofString, hne, List.getLast?_append,
    List.getLast?_eq_some_getLast hne]

/-- A template is for the engine of its extension, unless its version ends in a slash. -/
theorem ofPath_withExtension (hversion : version ≠ "") (hext : ext ∈ Engine.extensions) :
    Engine.ofPath (withExtension (base templates target version) ext) =
      if (ext = "hbs" ∨ ext = "handlebars") ∧ endsInSlash (.ofString version) = false then .blocks
      else .statements := by
  have hplain : ∀ e ∈ Engine.extensions,
      '.' ∉ e.toList ∧ '/' ∉ e.toList ∧ e.toList ≠ [] := by decide
  obtain ⟨hdot, hslash, hne⟩ := hplain ext hext
  unfold Engine.ofPath withExtension
  rw [Path.extension?_append hdot hslash hne]
  simp only [atNameStart_base hversion]
  rcases endsInSlash (.ofString version) with _ | _
  · simp only [Bool.false_eq_true, if_false, String.toList_inj, and_true]
  · simp only [if_true, Bool.true_eq_false, and_false, if_false]

theorem templatePath_eq_noVersion_iff (hdir : target.templateDir ≠ "") :
    templatePath fs templates target api = .error .noVersion ↔
      resolve target.defaultVersion api.version = "" := by
  rw [templatePath_eq_find? hdir]
  split
  · next h => simp [h]
  · next h => split <;> simp [h]

theorem templatePath_eq_ok_iff_foundWith (hdir : target.templateDir ≠ "") :
    templatePath fs templates target api = .ok q ↔
      resolve target.defaultVersion api.version ≠ "" ∧
        ∃ ext, FoundWith fs (baseFor templates target api) ext ∧
          q = withExtension (baseFor templates target api) ext := by
  rw [templatePath_eq_find? hdir]
  simp only [← find?_extensions_eq_some_iff]
  split
  · next h => simp [h]
  · next h =>
    rcases Engine.extensions.find?
      (fun e => fs.isFile (withExtension (baseFor templates target api) e)) with _ | found
    · simp
    · simp [h, eq_comm]

theorem templatePath_eq_noFile_iff (hdir : target.templateDir ≠ "") :
    templatePath fs templates target api = .error (.noFile q) ↔
      resolve target.defaultVersion api.version ≠ "" ∧
        (∀ ext ∈ Engine.extensions,
          fs.isFile (withExtension (baseFor templates target api) ext) = false) ∧
        q = withExtension (baseFor templates target api) "template" := by
  have hnone : Engine.extensions.find?
        (fun e => fs.isFile (withExtension (baseFor templates target api) e)) = none ↔
      ∀ ext ∈ Engine.extensions,
        fs.isFile (withExtension (baseFor templates target api) ext) = false := by
    simp [List.find?_eq_none]
  rw [templatePath_eq_find? hdir, ← hnone]
  split
  · next h => simp [h]
  · next h =>
    rcases Engine.extensions.find?
      (fun e => fs.isFile (withExtension (baseFor templates target api) e)) with _ | found
    · simp [h, eq_comm]
    · simp

/-- Among the templates in a directory the version decides, that of the api before that of the
target. Without any there is no template. Else it is the first of the files that there are for the
extensions, in their order, and if there are none, the path with the first extension is missing.
What is found is rendered as its extension says, except under a version that ends in a slash. -/
theorem templatePath_takes_first_extension (hdir : target.templateDir ≠ "") :
    (templatePath fs templates target api = .error .noVersion ↔
      target.defaultVersion = "" ∧ api.version = "") ∧
    (∀ q, templatePath fs templates target api = .ok q ↔
      ¬ (target.defaultVersion = "" ∧ api.version = "") ∧
        ∃ ext, FoundWith fs (baseFor templates target api) ext ∧
          q = withExtension (baseFor templates target api) ext) ∧
    (∀ q, templatePath fs templates target api = .error (.noFile q) ↔
      ¬ (target.defaultVersion = "" ∧ api.version = "") ∧
        (∀ ext ∈ Engine.extensions,
          fs.isFile (withExtension (baseFor templates target api) ext) = false) ∧
        q = withExtension (baseFor templates target api) "template") ∧
    ∀ ext, ¬ (target.defaultVersion = "" ∧ api.version = "") →
      FoundWith fs (baseFor templates target api) ext →
        Engine.ofPath (withExtension (baseFor templates target api) ext) =
          if (ext = "hbs" ∨ ext = "handlebars") ∧
            endsInSlash (.ofString (resolve target.defaultVersion api.version)) = false then .blocks
          else .statements := by
  simp only [← resolve_eq_empty_iff]
  refine ⟨templatePath_eq_noVersion_iff hdir, fun q => templatePath_eq_ok_iff_foundWith hdir,
    fun q => templatePath_eq_noFile_iff hdir, fun ext hversion hfound => ?_⟩
  obtain ⟨before, after, hl, -⟩ := hfound
  exact ofPath_withExtension hversion (by simp [hl])

section Sample

def versionedTarget : Target where
  label := "g"
  templateDir := "models"

def apiAt (version : String) : TargetApi where
  label := "A"
  outPath := "o"
  version := version

/-- A template with a version in its name, and one with nothing in front of its extension. -/
def versionedFiles : FileSystem where
  entries := [(["t"], .dir 0o755), (["t", "models"], .dir 0o755),
    (["t", "models", "v1.2.hbs"], .file 0o644 "x".toUTF8), (["t", "models", "v1"], .dir 0o755),
    (["t", "models", "v1", ".hbs"], .file 0o644 "x".toUTF8)]
  workingDir := []

theorem foundWith_sample :
    FoundWith versionedFiles (baseFor (.ofString "t") versionedTarget (apiAt "v1.2")) "hbs" :=
  ⟨["template", "tera", "gotemplate"], ["handlebars"], rfl, by decide +kernel, by decide +kernel⟩

theorem templatePath_takes_first_extension_sample :
    versionedTarget.templateDir ≠ "" ∧
    templatePath versionedFiles (.ofString "t") versionedTarget (apiAt "v1.2") =
      .ok (withExtension (baseFor (.ofString "t") versionedTarget (apiAt "v1.2")) "hbs") ∧
    Engine.ofPath
      (withExtension (baseFor (.ofString "t") versionedTarget (apiAt "v1.2")) "hbs") = .blocks := by
  have hdir : versionedTarget.templateDir ≠ "" := by decide
  have hversion : ¬ (versionedTarget.defaultVersion = "" ∧ (apiAt "v1.2").version = "") := by
    decide
  obtain ⟨-, hok, -, hengine⟩ :=
    @templatePath_takes_first_extension versionedFiles (.ofString "t") _ (apiAt "v1.2") hdir
  refine ⟨hdir, (hok _).mpr ⟨hversion, "hbs", foundWith_sample, rfl⟩, ?_⟩
  rw [hengine "hbs" hversion foundWith_sample]
  decide

/-- What is found under a version that ends in a slash is not rendered as its extension says. -/
theorem not_engine_of_extension : ¬ ∀ (fs : FileSystem) (templates : Path) (target : Target)
    (api : TargetApi) (ext : String), target.templateDir ≠ "" →
      templatePath fs templates target api =
        .ok (withExtension (baseFor templates target api) ext) → ext ∈ Engine.extensions →
      (Engine.ofPath (withExtension (baseFor templates target api) ext) = .blocks ↔
        ext = "hbs" ∨ ext = "handlebars") := by
  intro h
  have hpath : templatePath versionedFiles (.ofString "t") versionedTarget (apiAt "v1/") =
      .ok (withExtension (baseFor (.ofString "t") versionedTarget (apiAt "v1/")) "hbs") :=
    eq_ok_of_toOption (by decide +kernel)
  have hengine := (h _ _ _ _ "hbs" (by decide) hpath (by decide)).mpr (.inl rfl)
  exact absurd hengine (by decide)

end Sample

end Stencil.Version
