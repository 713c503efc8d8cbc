import Stencil.Proofs.Generation.Footprint
import Stencil.Proofs.Path.Components
import Stencil.Proofs.Snippet.Marker

/-! # Where templates and snippets are

Templates and snippets are looked for below the templates directory, however many slashes their
paths begin with. Only a version that begins with a slash leads elsewhere: it is a path of its own.
-/

namespace Stencil

variable {fs : FileSystem} {templates q : Path} {target : Target} {api : TargetApi}

namespace Marker

/-- A marker has no name or that of a hook, which is one word. -/
theorem IsComment.name_word {m : Marker} {name mark : List Char} (h : m.IsComment name mark) :
    ∀ c ∈ name, isUnicodeWord c = true := by
  cases h with
  | implementations => exact List.forall_mem_nil _
  | imports => exact List.forall_mem_nil _
  | hook _ hw => exact hw

theorem isAbsolute_name_of_find? {m : Marker} {cs : List Char} {found : Found}
    (h : m.find? cs = some found) : (Path.ofString found.name).isAbsolute = false := by
  simp only [find?, Option.map_eq_some_iff] at h
  obtain ⟨⟨length, name⟩, hl, rfl⟩ := h
  obtain ⟨-, mark, -, -, -, -, hm, -⟩ := exists_comment_of_length? hl
  have hword := hm.name_word
  rcases name with _ | ⟨c, cs⟩
  · rfl
  · have hc : c ≠ '/' := (ordinary_of_isUnicodeWord (hword c List.mem_cons_self)).2.1
    simpa [Path.isAbsolute, Path.ofString] using hc

theorem Meets.isAbsolute_name {m : Marker} {cs : List Char} {found : Found} (h : m.Meets cs found) :
    (Path.ofString found.name).isAbsolute = false := by
  induction h with
  | here hf => exact isAbsolute_name_of_find? hf
  | afterMarker _ _ ih => exact ih
  | afterChar _ _ ih => exact ih

end Marker

namespace Version

/-- The version under which the template is looked for begins with a slash. -/
def IsRooted (target : Target) (api : TargetApi) : Prop :=
  target.templateDir ≠ "" ∧
    (Path.ofString (resolve target.defaultVersion api.version)).isAbsolute = true

instance (target : Target) (api : TargetApi) : Decidable (IsRooted target api) :=
  inferInstanceAs (Decidable (_ ∧ _))

theorem isAbove_underTemplates (templates : Path) (relative : String) :
    templates.IsAbove (underTemplates templates relative) := by
  refine Path.isAbove_join ?_
  have hstop := stop_dropWhile (p := (· == '/')) relative.toList
  unfold Path.isAbsolute
  rcases hd : relative.toList.dropWhile (· == '/') with _ | ⟨c, cs⟩
  · rfl
  · simpa using hstop c (by simp [hd])

theorem candidates_of_isRooted (h : IsRooted target api) : candidates templates target api =
    Engine.extensions.map
      (withExtension (.ofString (resolve target.defaultVersion api.version))) := by
  have hversion : resolve target.defaultVersion api.version ≠ "" := by
    intro he
    have hroot := h.2
    rw [he] at hroot
    exact absurd hroot (by decide)
  rw [candidates, if_neg h.1, if_neg hversion, base, Path.join_of_isAbsolute h.2]

theorem isAbove_withExtension {version : String} (hne : version ≠ "")
    (h : (Path.ofString version).isAbsolute = false) (ext : String) :
    templates.IsAbove (withExtension (base templates target version) ext) := by
  have hversion : (Path.ofString version).isEmpty = false := by
    simpa [Path.isEmpty, Path.ofString] using hne
  have habsolute : (Path.mk (version.toList ++ '.' :: ext.toList)).isAbsolute = false := by
    rcases hv : version.toList with _ | ⟨c, cs⟩
    · rfl
    · simpa [Path.isAbsolute, Path.ofString, hv] using h
  have hjoin : withExtension (base templates target version) ext =
      (underTemplates templates target.templateDir).join ⟨version.toList ++ '.' :: ext.toList⟩ :=
    (Path.join_append h hversion ('.' :: ext.toList)).symm
  rw [hjoin]
  exact (isAbove_underTemplates templates target.templateDir).trans (Path.isAbove_join habsolute)

theorem isAbove_of_mem_candidates (h : ¬ IsRooted target api)
    (hq : q ∈ candidates templates target api) : templates.IsAbove q := by
  unfold candidates at hq
  split at hq
  · obtain rfl := List.mem_singleton.mp hq
    exact isAbove_underTemplates templates target.templatePath
  · next hdir =>
    split at hq
    · exact absurd hq List.not_mem_nil
    · next hversion =>
      obtain ⟨ext, -, rfl⟩ := List.mem_map.mp hq
      exact isAbove_withExtension hversion (by simpa using fun ha => h ⟨hdir, ha⟩) ext

/-- A template is found at one of the candidates, and the first one is named if there is none. -/
theorem mem_candidates_of_templatePath (h : templatePath fs templates target api = .ok q ∨
    templatePath fs templates target api = .error (.noFile q)) :
    q ∈ candidates templates target api := by
  rcases h with h | h
  · exact List.mem_of_find?_eq_some (templatePath_eq_ok_iff.mp h)
  · unfold templatePath at h
    unfold candidates
    split at h
    · next hdir =>
      dsimp only at h
      rw [if_pos hdir]
      split at h <;> cases h
      exact List.mem_singleton_self _
    · next hdir =>
      dsimp only at h
      rw [if_neg hdir]
      split at h
      · cases h
      · next hversion =>
        rw [if_neg hversion]
        split at h <;> cases h
        exact List.mem_cons_self

end Version

theorem Snippet.ReadsFor.isAbove {paths : SnippetPaths} {template : List Char}
    (h : ReadsFor templates paths template q) : templates.IsAbove q := by
  cases h with
  | hook _ hm =>
    exact (Version.isAbove_underTemplates _ _).trans (Path.isAbove_join hm.isAbsolute_name)
  | content _ => exact Version.isAbove_underTemplates _ _
  | imports _ => exact Version.isAbove_underTemplates _ _

namespace Version

/-- All paths at which a template or the snippets of an implementation are looked for are below the
templates directory, except where the version begins with a slash: then the directories do not count
and the template is looked for at the version with each extension. -/
theorem looked_for_below_templates (templates : Path) (target : Target) (api : TargetApi)
    (paths : SnippetPaths) :
    (∀ fs q, templatePath fs templates target api = .ok q ∨
      templatePath fs templates target api = .error (.noFile q) →
        q ∈ candidates templates target api) ∧
    (if IsRooted target api then candidates templates target api = Engine.extensions.map
        (withExtension (.ofString (resolve target.defaultVersion api.version)))
      else ∀ q ∈ candidates templates target api, templates.IsAbove q) ∧
    ∀ template q, Snippet.ReadsFor templates paths template q → templates.IsAbove q := by
  refine ⟨fun fs q h => mem_candidates_of_templatePath h, ?_, fun _ _ h => h.isAbove⟩
  split
  · next h => exact candidates_of_isRooted h
  · next h => exact fun q hq => isAbove_of_mem_candidates h hq

/-- A version that begins with a slash leads away from the templates directory. -/
theorem not_below_templates_of_rooted_version : ¬ ∀ (templates : Path) (target : Target)
    (api : TargetApi), ∀ q ∈ candidates templates target api, templates.IsAbove q := by
  intro h
  have hmem : Path.ofString "/v1.template" ∈ candidates (.ofString "t")
      { label := "g", templateDir := "models" }
      { label := "A", outPath := "o", version := "/v1" } := by
    decide
  exact absurd (h _ _ _ _ hmem) (by decide)

end Version

/-- What a run reads is below the templates directory, unless a version begins with a slash. -/
theorem Generator.Reads.isAbove {g : Generator} {env : Environment} {s : Selection} {w : World}
    (h : g.Reads env s w q) (hv : ∀ t ∈ g.selected s, ∀ a ∈ t.apis, ¬ Version.IsRooted t a) :
    g.templates.IsAbove q := by
  obtain ⟨t, ht, a, ha, hq | ⟨-, -, -, -, paths, -, template, hq⟩⟩ := h.cases
  · exact Version.isAbove_of_mem_candidates (hv t ht a ha) hq
  · exact hq.isAbove

end Stencil
