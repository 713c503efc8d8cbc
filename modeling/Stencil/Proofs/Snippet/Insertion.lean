import Stencil.Snippet
import Stencil.Proofs.Snippet.Layout

/-! # Insertion in one step

Snippets are put in front of markers implementation after implementation, and for each of them kind
after kind. If the markers of the template stand in braces and the snippets close no comments, this
is the same as one pass over the template that puts all snippets of a marker in front of it at once.
-/

namespace Stencil

namespace Marker

def findAny? (cs : List Char) : Option (Marker × Found) :=
  [hook, implementations, imports].findSome? fun m => (m.find? cs).map (m, ·)

variable {m : Marker} {found : Found} {c : Char} {cs rest : List Char} {b : Braced} {l : Layout}
  {f : Marker → String → List Char}

theorem find?_of_findAny? (h : findAny? cs = some (m, found)) : m.find? cs = some found := by
  obtain ⟨m', -, h⟩ := List.exists_of_findSome?_eq_some h
  obtain ⟨found', hf, he⟩ := Option.map_eq_some_iff.mp h
  obtain ⟨rfl, rfl⟩ := Prod.mk.inj he
  exact hf

theorem findAny?_eq_none_iff : findAny? cs = none ↔ ∀ m : Marker, m.find? cs = none := by
  simp only [findAny?, List.findSome?_eq_none_iff, Option.map_eq_none_iff]
  constructor
  · intro h m
    cases m <;> exact h _ (by simp)
  · exact fun h m _ => h m

/-- Puts a text in front of every marker of a text, in one pass. -/
def insertAll (f : Marker → String → List Char) : List Char → List Char
  | [] => []
  | c :: cs =>
    match _h : findAny? (c :: cs) with
    | some (m, found) => f m found.name ++ (found.text ++ insertAll f found.rest)
    | none => c :: insertAll f cs
termination_by cs => cs.length
decreasing_by
  · exact (eq_append_of_find? (find?_of_findAny? _h)).2
  · exact Nat.lt_succ_self _

theorem insertAll_of_findAny?_eq_none (h : findAny? (c :: cs) = none) :
    insertAll f (c :: cs) = c :: insertAll f cs := by
  rw [insertAll]
  split
  · simp_all
  · rfl

theorem insertAll_of_findAny?_eq_some (h : findAny? cs = some (m, found)) :
    insertAll f cs = f m found.name ++ (found.text ++ insertAll f found.rest) := by
  have hl := (eq_append_of_find? (find?_of_findAny? h)).2
  cases cs with
  | nil => cases hl
  | cons c cs =>
    rw [insertAll]
    split
    · next m' found' h' =>
      obtain ⟨rfl, rfl⟩ := Prod.mk.inj (Option.some.inj (h.symm.trans h'))
      rfl
    · simp_all

theorem insertAll_append_of_find?_eq_none
    (h : ∀ (m : Marker) s, s ≠ [] → s <:+ cs → m.find? (s ++ rest) = none) :
    insertAll f (cs ++ rest) = cs ++ insertAll f rest := by
  induction cs with
  | nil => rfl
  | cons c cs ih =>
    have hhere : findAny? (c :: (cs ++ rest)) = none :=
      findAny?_eq_none_iff.mpr fun m => h m (c :: cs) (List.cons_ne_nil c cs) (List.suffix_refl _)
    rw [List.cons_append, insertAll_of_findAny?_eq_none hhere]
    exact congrArg (c :: ·) (ih fun m s hs hsuf => h m s hs (hsuf.trans (List.suffix_cons c cs)))

theorem Braced.findAny?_text (b : Braced) (rest : List Char) :
    findAny? (b.text ++ rest) = some (b.kind, ⟨b.text, String.ofList b.name, rest⟩) := by
  have hown := b.find?_text rest
  have hother : ∀ m ≠ b.kind, m.find? (b.text ++ rest) = none := by
    obtain ⟨cs, hcs⟩ := b.exists_text_eq
    exact fun m hm => b.find?_eq_none hm (by simp [hcs]) (List.suffix_refl _) rest
  unfold findAny?
  generalize b.kind = kind at hown hother
  cases kind <;> simp [hown, hother]

theorem Layout.insertAll_text (hl : l.Calm) :
    insertAll f l.text = (l.insert fun b => f b.kind (String.ofList b.name)).text := by
  induction l with
  | plain cs =>
    have h : insertAll f (cs ++ []) = cs ++ insertAll f [] :=
      insertAll_append_of_find?_eq_none fun m s hs hsuf =>
        find?_eq_none_of_free hl hs hsuf (.inl rfl)
    rw [List.append_nil, insertAll, List.append_nil] at h
    exact h
  | marked before b rest ih =>
    obtain ⟨hfree, -, hrest⟩ := hl
    have hbefore : ∀ (m : Marker) s, s ≠ [] → s <:+ before →
        m.find? (s ++ (b.text ++ rest.text)) = none :=
      fun m s hs hsuf => find?_eq_none_of_free hfree hs hsuf (.inr (b.braces_prefix rest.text))
    rw [text, insertAll_append_of_find?_eq_none hbefore,
      insertAll_of_findAny?_eq_some (b.findAny?_text rest.text)]
    simp only [ih hrest, insert, text, List.append_assoc]

end Marker

namespace Snippet

open Marker

/-- The text of a file, or none if it cannot be read. -/
def fileText (fs : FileSystem) (path : Path) : List Char :=
  match fs.readText path with
  | .ok text => text.toList
  | .error _ => []

/-- The text of a file below the templates directory, or none if no path is given. -/
def pathText (fs : FileSystem) (templates : Path) (path : Option String) : List Char :=
  match given path with
  | some relative => fileText fs (Version.underTemplates templates relative)
  | none => []

def contribution (fs : FileSystem) (templates : Path) (paths : SnippetPaths) :
    Marker → String → List Char
  | .implementations, _ => pathText fs templates paths.contentPath
  | .imports, _ => pathText fs templates paths.importsPath
  | .hook, name =>
    match given paths.hooksDirectory with
    | some dir => fileText fs ((Version.underTemplates templates dir).join (.ofString name))
    | none => []

variable {fs : FileSystem} {templates : Path} {paths : SnippetPaths} {label : String}
  {ms : Option Microservice} {template : List Char} {l : Layout}

/-- The content of an implementation can be read, if a path is given. -/
def ContentReadable (fs : FileSystem) (templates : Path) (paths : SnippetPaths) : Prop :=
  ∀ relative, given paths.contentPath = some relative →
    ∃ text, fs.readText (Version.underTemplates templates relative) = .ok text

theorem content_eq (h : ContentReadable fs templates paths) :
    content fs templates paths = .ok (pathText fs templates paths.contentPath) := by
  unfold content pathText fileText
  rcases hg : given paths.contentPath with _ | relative
  · rfl
  · obtain ⟨text, ht⟩ := h relative hg
    simp only [ht]

theorem contentReadable_iff :
    ContentReadable fs templates paths ↔ (content fs templates paths).isOk = true := by
  constructor
  · intro h
    rw [content_eq h]
    rfl
  · intro h relative hg
    unfold content at h
    simp only [hg] at h
    rcases ht : fs.readText (Version.underTemplates templates relative) with e | text
    · simp only [ht] at h
      cases h
    · exact ⟨text, rfl⟩

instance (fs : FileSystem) (templates : Path) (paths : SnippetPaths) :
    Decidable (ContentReadable fs templates paths) :=
  decidable_of_iff _ contentReadable_iff.symm

theorem imports_fst (fs : FileSystem) (templates : Path) (paths : SnippetPaths) :
    (imports fs templates paths).1 = pathText fs templates paths.importsPath := by
  unfold imports pathText fileText
  rcases given paths.importsPath with _ | relative
  · rfl
  · dsimp only
    rcases fs.readText (Version.underTemplates templates relative) with e | text
    · cases e <;> rfl
    · rfl

def contributionOf (fs : FileSystem) (templates : Path) (paths : SnippetPaths) (m : Marker)
    (b : Braced) : List Char :=
  if b.kind = m then contribution fs templates paths m (String.ofList b.name) else []

theorem contribution_eq_append (b : Braced) :
    contribution fs templates paths b.kind (String.ofList b.name) =
      contributionOf fs templates paths .hook b ++
        contributionOf fs templates paths .implementations b ++
        contributionOf fs templates paths .imports b := by
  unfold contributionOf
  cases b.kind <;> simp

theorem closed_contributionOf {b : Braced}
    (h : Closed (contribution fs templates paths b.kind (String.ofList b.name))) (m : Marker) :
    Closed (contributionOf fs templates paths m b) := by
  unfold contributionOf
  split
  · next hm => exact hm ▸ h
  · exact closed_nil

def hooked (fs : FileSystem) (templates : Path) (paths : SnippetPaths) (template : List Char) :
    List Char :=
  match given paths.hooksDirectory with
  | some dir => insertHooks fs (Version.underTemplates templates dir) template
  | none => template

theorem apply_fst (h : ContentReadable fs templates paths) (template : List Char) :
    (apply fs templates paths template).1 =
      .ok (Marker.imports.insertBefore (pathText fs templates paths.importsPath)
        (Marker.implementations.insertBefore (pathText fs templates paths.contentPath)
          (hooked fs templates paths template))) := by
  unfold apply hooked
  rcases given paths.hooksDirectory with _ | dir
  · simp only [content_eq h, imports_fst]
  · simp only [content_eq h, imports_fst]

theorem hooked_text (hl : l.Calm) : hooked fs templates paths l.text =
    (l.insert (contributionOf fs templates paths .hook)).text := by
  unfold hooked contributionOf contribution
  rcases given paths.hooksDirectory with _ | dir
  · simp only [ite_self, Layout.insert_nil]
  · exact Layout.replace_text hl .hook fun name =>
      fileText fs ((Version.underTemplates templates dir).join (.ofString name))

/-- The snippets of one implementation are put in front of the markers, each where it belongs. -/
theorem apply_text (hl : l.Calm) (hread : ContentReadable fs templates paths)
    (hclosed : ∀ b ∈ l.markers,
      Closed (contribution fs templates paths b.kind (String.ofList b.name))) :
    (apply fs templates paths l.text).1 = .ok
      (l.insert fun b => contribution fs templates paths b.kind (String.ofList b.name)).text := by
  have hhooked := hl.insert fun b hb => closed_contributionOf (hclosed b hb) .hook
  have hfilled := hhooked.insert fun b hb =>
    closed_contributionOf (hclosed b (Layout.markers_insert ▸ hb)) .implementations
  have hcontent := Layout.replace_text hhooked .implementations fun _ =>
    pathText fs templates paths.contentPath
  have himports := Layout.replace_text hfilled .imports fun _ =>
    pathText fs templates paths.importsPath
  rw [apply_fst hread, hooked_text hl]
  refine congrArg Except.ok ((congrArg _ hcontent).trans (himports.trans (congrArg _ ?_)))
  change ((l.insert (contributionOf fs templates paths .hook)).insert
    (contributionOf fs templates paths .implementations)).insert
      (contributionOf fs templates paths .imports) = _
  rw [Layout.insert_insert, Layout.insert_insert]
  refine Layout.insert_congr fun b _ => ?_
  rw [contribution_eq_append, List.append_assoc]

theorem applyAll_text (implementations : List SnippetPaths) (hl : l.Calm)
    (hread : ∀ paths ∈ implementations, ContentReadable fs templates paths)
    (hclosed : ∀ paths ∈ implementations, ∀ b ∈ l.markers,
      Closed (contribution fs templates paths b.kind (String.ofList b.name))) :
    (applyAll fs templates implementations l.text).1 =
      .ok (l.insert fun b => implementations.flatMap fun paths =>
        contribution fs templates paths b.kind (String.ofList b.name)).text := by
  induction implementations generalizing l with
  | nil =>
    simp only [applyAll, List.flatMap_nil, Layout.insert_nil]
  | cons paths rest ih =>
    have hfirst := hclosed paths List.mem_cons_self
    have happly := apply_text hl (hread paths List.mem_cons_self) hfirst
    have hrest := ih (hl.insert hfirst) (fun p hp => hread p (List.mem_cons_of_mem paths hp))
      fun p hp b hb => hclosed p (List.mem_cons_of_mem paths hp) b (Layout.markers_insert ▸ hb)
    rw [Layout.insert_insert] at hrest
    unfold applyAll
    rcases ha : apply fs templates paths l.text with ⟨result, ws⟩
    rw [ha] at happly
    obtain rfl : result = _ := happly
    simp only [hrest, List.flatMap_cons]

/-- Injection puts all snippets for a marker, in the order of the implementations, in front of it
and collapses the markers then, if all markers of the template stand in braces, not directly behind
a `*`, and no snippet for them closes a comment. -/
theorem inject_eq_collapse_insertAll (hbraces : InBraces template)
    (hread : ∀ paths ∈ forTarget label ms, ContentReadable fs templates paths)
    (hclosed : ∀ paths ∈ forTarget label ms, ∀ m name mark, IsComment m name mark →
      mark <:+: template → Closed (contribution fs templates paths m (String.ofList name))) :
    (inject fs templates label ms template).1 =
      .ok (collapse (insertAll (fun m name => (forTarget label ms).flatMap fun paths =>
        contribution fs templates paths m name) template)) := by
  obtain ⟨l, rfl, hl⟩ := hbraces.exists_layout
  have hall := applyAll_text (forTarget label ms) hl hread fun paths hp b hb =>
    hclosed paths hp b.kind b.name b.mark b.isComment (Layout.mark_infix_text hb)
  rw [Layout.insertAll_text hl]
  unfold inject
  rcases ha : applyAll fs templates (forTarget label ms) l.text with ⟨result, ws⟩
  rw [ha] at hall
  obtain rfl : result = _ := hall
  rfl

section Sample

def sampleFiles : FileSystem where
  entries :=
    [ (["one"], .file 0o644 "first;".toUTF8), (["two"], .file 0o644 "second;".toUTF8),
      (["imports"], .file 0o644 "import io;".toUTF8), (["hooks"], .dir 0o755),
      (["hooks", "start"], .file 0o644 "init;".toUTF8) ]
  workingDir := []

/-- Two implementations; the imports of the second are missing. -/
def sampleService : Microservice where
  label := "ms"
  primaryModel := { name := "M" }
  implementations :=
    [ { function := { name := "F" },
        targetSnippets := [("go",
          { contentPath := some "one", importsPath := some "imports",
            hooksDirectory := some "hooks" })] },
      { function := { name := "G" },
        targetSnippets := [("go", { contentPath := some "two", importsPath := some "none" })] } ]

def sampleTemplate : List Char :=
  (r"{{ /* FUNCTION_IMPORTS */ }}|" ++
    r#"{{/* FUNCTION_IMPLEMENTATIONS hook="start" */}}|"# ++
    r"{{ /* FUNCTION_IMPLEMENTATIONS */ }}").toList

theorem inject_sample :
    (inject sampleFiles ⟨[]⟩ "go" (some sampleService) sampleTemplate).1 =
      .ok "import io;|init;|first;second;".toList := by
  have hclosed : ∀ paths ∈ forTarget "go" (some sampleService), ∀ k < sampleTemplate.length,
      ∀ m ∈ [Marker.hook, .implementations, .imports], ∀ found ∈ m.comment? (sampleTemplate.drop k),
        Closed (contribution sampleFiles ⟨[]⟩ paths m (String.ofList found.2)) := by decide +kernel
  have hmarkers : ∀ paths ∈ forTarget "go" (some sampleService), ∀ m name mark,
      IsComment m name mark → mark <:+: sampleTemplate →
        Closed (contribution sampleFiles ⟨[]⟩ paths m (String.ofList name)) := by
    rintro paths hp m name mark hm ⟨before, after, he⟩
    rw [List.append_assoc] at he
    have hall := forall_comment_iff sampleTemplate fun _ m name _ =>
      Closed (contribution sampleFiles ⟨[]⟩ paths m (String.ofList name))
    exact hall.mpr (hclosed paths hp) before m name mark after he.symm hm
  rw [inject_eq_collapse_insertAll (by decide +kernel) (by decide +kernel) hmarkers]
  refine congrArg Except.ok ?_
  decide +kernel

end Sample

end Snippet

end Stencil
