import Mathlib.Logic.Relation
import Stencil.Proofs.Snippet.Insertion

/-! # Snippets that cannot be read

Injection stops at the first implementation whose content cannot be read. Nothing else makes it
fail: imports that cannot be read are reported, once for each implementation before that one, and
hooks are not even reported. What is there for other targets plays no part in it.
-/

namespace Stencil.Snippet

/-- The file below the templates directory that a path names, with the reason why it cannot be
read, if that is so. -/
def unreadable? (fs : FileSystem) (templates : Path) (path : Option String) :
    Option (Path × IoError) :=
  (given path).bind fun relative =>
    match fs.readText (Version.underTemplates templates relative) with
    | .ok _ => none
    | .error e => some (Version.underTemplates templates relative, e)

def contentError (file : Path × IoError) : GenerationError :=
  .snippetNotFound file.1 file.2

def importsWarning : Path × IoError → Warning
  | (path, .notFound) => .importsNotFound path.text
  | (path, e) => .importsUnreadable path.text e.message

/-- Why the content of an implementation for a target cannot be read, if it has some and that is
so. -/
def contentError? (fs : FileSystem) (templates : Path) (label : String) (i : Implementation) :
    Option GenerationError :=
  (i.targetSnippets.lookup label).bind fun paths =>
    (unreadable? fs templates paths.contentPath).map contentError

/-- What is reported of the imports of an implementation for a target, if it has some and they
cannot be read. -/
def importsWarning? (fs : FileSystem) (templates : Path) (label : String) (i : Implementation) :
    Option Warning :=
  (i.targetSnippets.lookup label).bind fun paths =>
    (unreadable? fs templates paths.importsPath).map importsWarning

/-- The implementations of a microservice; a whole api has none. -/
def implementationsOf : Option Microservice → List Implementation
  | some ms => ms.implementations
  | none => []

/-- Something that is not for the target is taken from a microservice: an implementation without
snippets for it, or the snippets that an implementation has for another one. -/
inductive Drops (label : String) : Microservice → Microservice → Prop where
  | implementation {ms : Microservice} {before after : List Implementation} {i : Implementation} :
      ms.implementations = before ++ i :: after → i.targetSnippets.lookup label = none →
      Drops label ms { ms with implementations := before ++ after }
  | snippets {ms : Microservice} {before after : List Implementation} {i : Implementation}
      {l r : List (String × SnippetPaths)} {key : String} {paths : SnippetPaths} :
      ms.implementations = before ++ i :: after → i.targetSnippets = l ++ (key, paths) :: r →
      key ≠ label →
      Drops label ms
        { ms with implementations := before ++ { i with targetSnippets := l ++ r } :: after }

variable {fs : FileSystem} {templates : Path} {paths : SnippetPaths} {label : String}
  {ms ms' : Microservice} {template : List Char} {file : Path × IoError}

section Failing

theorem content_eq_error (h : unreadable? fs templates paths.contentPath = some file) :
    content fs templates paths = .error (contentError file) := by
  unfold unreadable? at h
  unfold content
  rcases hg : given paths.contentPath with _ | relative
  · rw [hg] at h
    cases h
  · rw [hg, Option.bind_some] at h
    dsimp only
    rcases hr : fs.readText (Version.underTemplates templates relative) with e | text
    · rw [hr] at h
      cases h
      rfl
    · rw [hr] at h
      cases h

theorem contentReadable_of_unreadable? (h : unreadable? fs templates paths.contentPath = none) :
    ContentReadable fs templates paths := by
  intro relative hg
  rw [unreadable?, hg, Option.bind_some] at h
  rcases hr : fs.readText (Version.underTemplates templates relative) with e | text
  · rw [hr] at h
    cases h
  · exact ⟨text, rfl⟩

theorem imports_snd (fs : FileSystem) (templates : Path) (paths : SnippetPaths) :
    (imports fs templates paths).2 =
      ((unreadable? fs templates paths.importsPath).map importsWarning).toList := by
  unfold imports unreadable?
  rcases given paths.importsPath with _ | relative
  · rfl
  · rw [Option.bind_some]
    dsimp only
    rcases fs.readText (Version.underTemplates templates relative) with e | text
    · cases e <;> rfl
    · rfl

theorem apply_eq_error (h : unreadable? fs templates paths.contentPath = some file)
    (template : List Char) :
    apply fs templates paths template = (.error (contentError file), []) := by
  unfold apply
  rw [content_eq_error h]

theorem exists_apply_eq (h : unreadable? fs templates paths.contentPath = none)
    (template : List Char) : ∃ filled, apply fs templates paths template =
      (.ok filled, ((unreadable? fs templates paths.importsPath).map importsWarning).toList) := by
  unfold apply
  rw [content_eq (contentReadable_of_unreadable? h), ← imports_snd]
  exact ⟨_, rfl⟩

/-- The implementations before the first one whose content cannot be read. -/
def readable (fs : FileSystem) (templates : Path) (label : String) (is : List Implementation) :
    List Implementation :=
  is.takeWhile fun i => (contentError? fs templates label i).isNone

/-- The implementations with snippets for the target are gone through in order, up to the first one
whose content cannot be read. -/
theorem applyAll_spec (fs : FileSystem) (templates : Path) (label : String)
    (is : List Implementation) (template : List Char) :
    (∀ e, (applyAll fs templates (is.filterMap (·.targetSnippets.lookup label)) template).1 =
        .error e ↔ is.findSome? (contentError? fs templates label) = some e) ∧
      (applyAll fs templates (is.filterMap (·.targetSnippets.lookup label)) template).2 =
        (readable fs templates label is).filterMap (importsWarning? fs templates label) := by
  induction is generalizing template with
  | nil => exact ⟨by simp [applyAll], rfl⟩
  | cons i is ih =>
    rcases hi : i.targetSnippets.lookup label with _ | paths
    · have herror : contentError? fs templates label i = none := by simp [contentError?, hi]
      have hwarning : importsWarning? fs templates label i = none := by simp [importsWarning?, hi]
      simpa [readable, hi, herror, hwarning] using ih template
    · rcases hc : unreadable? fs templates paths.contentPath with _ | file
      · have herror : contentError? fs templates label i = none := by simp [contentError?, hi, hc]
        have hwarning : importsWarning? fs templates label i =
            (unreadable? fs templates paths.importsPath).map importsWarning := by
          simp [importsWarning?, hi]
        obtain ⟨filled, happly⟩ := exists_apply_eq hc template
        obtain ⟨hfail, hwarn⟩ := ih filled
        have hcons : (i :: is).filterMap (·.targetSnippets.lookup label) =
            paths :: is.filterMap (·.targetSnippets.lookup label) := List.filterMap_cons_some hi
        simp only [hcons, applyAll, happly, ← hwarning]
        refine ⟨fun e => (hfail e).trans (by simp [herror]), ?_⟩
        have hreadable : readable fs templates label (i :: is) =
            i :: readable fs templates label is :=
          List.takeWhile_cons_of_pos (by simp [herror])
        rw [hwarn, hreadable]
        rcases hw : importsWarning? fs templates label i with _ | w
        · rw [List.filterMap_cons_none hw]
          rfl
        · rw [List.filterMap_cons_some hw]
          rfl
      · have herror : contentError? fs templates label i = some (contentError file) := by
          simp [contentError?, hi, hc]
        simp [readable, hi, herror, applyAll, apply_eq_error hc, eq_comm]

end Failing

section Dropping

theorem forTarget_eq_filterMap (label : String) (ms : Option Microservice) :
    forTarget label ms = (implementationsOf ms).filterMap (·.targetSnippets.lookup label) := by
  cases ms <;> rfl

theorem Drops.forTarget_eq (h : Drops label ms ms') :
    forTarget label (some ms') = forTarget label (some ms) := by
  cases h with
  | implementation hms hi => simp [forTarget, hms, hi]
  | @snippets before after i l r key paths hms hi hkey =>
    have hlookup : (l ++ r).lookup label = i.targetSnippets.lookup label := by
      rw [hi, List.lookup_append, List.lookup_append, List.lookup_cons]
      simp [beq_false_of_ne hkey.symm]
    simp [forTarget, hms, List.filterMap_cons, hlookup]

theorem forTarget_eq_of_drops (h : Relation.ReflTransGen (Drops label) ms ms') :
    forTarget label (some ms') = forTarget label (some ms) := by
  induction h with
  | refl => rfl
  | tail _ hd ih => exact hd.forTarget_eq.trans ih

end Dropping

/-- Injection fails if and only if the content of some implementation cannot be read, with the error
for the first one. It reports the imports that cannot be read, once for each implementation before
that one. What is not for the target makes no difference. -/
theorem inject_fails_at_first_unreadable (fs : FileSystem) (templates : Path) (label : String)
    (ms : Option Microservice) (template : List Char) :
    (∀ e, (inject fs templates label ms template).1 = .error e ↔
      (implementationsOf ms).findSome? (contentError? fs templates label) = some e) ∧
    (inject fs templates label ms template).2 =
      (readable fs templates label (implementationsOf ms)).filterMap
        (importsWarning? fs templates label) ∧
    ∀ m ∈ ms, ∀ m', Relation.ReflTransGen (Drops label) m m' →
      inject fs templates label (some m') template = inject fs templates label ms template := by
  have hspec := applyAll_spec fs templates label (implementationsOf ms) template
  rw [← forTarget_eq_filterMap] at hspec
  refine ⟨fun e => ?_, hspec.2, ?_⟩
  · rw [← hspec.1 e]
    unfold inject
    rcases applyAll fs templates (forTarget label ms) template with ⟨_ | filled, ws⟩
    · simp [Except.map]
    · simp [Except.map]
  · rintro m hm m' hdrops
    obtain rfl : ms = some m := hm
    unfold inject
    rw [forTarget_eq_of_drops hdrops]

section Sample

def incompleteFiles : FileSystem where
  entries := [(["t"], .dir 0o755), (["t", "one"], .file 0o644 "first;".toUTF8)]
  workingDir := []

def implementedFor (label content imports : String) : Implementation where
  function := { name := "F" }
  targetSnippets := [(label, { contentPath := some content, importsPath := some imports })]

def incomplete (implementations : List Implementation) : Microservice where
  label := "ms"
  primaryModel := { name := "M" }
  implementations := implementations

/-- Of the implementations for the target, the first lacks its imports and the second its
content. -/
def incompleteService : Microservice :=
  incomplete [implementedFor "ts" "missing" "missing", implementedFor "go" "one" "none",
    implementedFor "go" "ghost" "none"]

theorem inject_fails_at_first_unreadable_sample :
    inject incompleteFiles (.ofString "t") "go" (some incompleteService) [] =
      (.error (.snippetNotFound (.ofString "t/ghost") .notFound), [.importsNotFound "t/none"]) ∧
    inject incompleteFiles (.ofString "t") "go"
        (some (incomplete [implementedFor "go" "one" "none", implementedFor "go" "ghost" "none"]))
        [] =
      inject incompleteFiles (.ofString "t") "go" (some incompleteService) [] := by
  obtain ⟨hfail, hwarn, hdrops⟩ := inject_fails_at_first_unreadable incompleteFiles
    (.ofString "t") "go" (some incompleteService) []
  have hwarnings : (inject incompleteFiles (.ofString "t") "go" (some incompleteService) []).2 =
      [.importsNotFound "t/none"] := hwarn.trans (by decide +kernel)
  refine ⟨Prod.ext ((hfail _).mpr rfl) hwarnings, hdrops incompleteService rfl _ (.single ?_)⟩
  have hfirst : incompleteService.implementations =
      [] ++ implementedFor "ts" "missing" "missing" :: [implementedFor "go" "one" "none",
        implementedFor "go" "ghost" "none"] := rfl
  exact .implementation hfirst rfl

/-- Imports that cannot be read are not reported where injection fails, and more than once where
several implementations share them. -/
theorem not_unreadable_imports_reported_once :
    (¬ ∀ (fs : FileSystem) (templates : Path) (label : String) (ms : Option Microservice)
      (template : List Char), ∀ i ∈ implementationsOf ms,
      ∀ w ∈ importsWarning? fs templates label i,
        (inject fs templates label ms template).2.count w = 1) ∧
    ¬ ∀ (fs : FileSystem) (templates : Path) (label : String) (ms : Option Microservice)
      (template : List Char), (inject fs templates label ms template).1.isOk = true →
      ∀ i ∈ implementationsOf ms, ∀ w ∈ importsWarning? fs templates label i,
        (inject fs templates label ms template).2.count w = 1 := by
  constructor
  · intro h
    have hcount := h incompleteFiles (.ofString "t") "go"
      (some (incomplete [implementedFor "go" "ghost" "none"])) [] _ List.mem_cons_self
      (.importsNotFound "t/none") rfl
    exact absurd hcount (by decide +kernel)
  · intro h
    have hcount := h incompleteFiles (.ofString "t") "go"
      (some (incomplete [implementedFor "go" "one" "none", implementedFor "go" "" "none"])) []
      (by decide +kernel) _ List.mem_cons_self (.importsNotFound "t/none") rfl
    exact absurd hcount (by decide +kernel)

end Sample

end Stencil.Snippet
