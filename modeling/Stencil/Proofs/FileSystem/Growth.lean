import Stencil.FileSystem

/-! # Growth of file systems

Making directories adds directories where nothing was and touches nothing else, and each new
directory is where the path or an ancestor of it leads.
-/

namespace Stencil

/-- The first path is a proper ancestor of the second. -/
inductive Path.IsAncestor : Path → Path → Prop where
  | parent {q p : Path} : p.parent? = some q → q.IsAncestor p
  | above {q p' p : Path} : q.IsAncestor p' → p.parent? = some p' → q.IsAncestor p

namespace FileSystem

/-- At the place nothing changes, unless a directory is made there for a path of the given kind. -/
def GrowsAt (P : Path → Prop) (fs fs' : FileSystem) (place : Place) : Prop :=
  fs'.node? place = fs.node? place ∨ fs.node? place = none ∧
    fs'.node? place = some (.dir fs.newDirMode) ∧ ∃ q, P q ∧ fs'.locate q = .ok place

/-- The second file system is the first with some more directories, each at a place to which a path
of the given kind leads. -/
structure Grows (P : Path → Prop) (fs fs' : FileSystem) : Prop where
  setting_eq : fs'.toSetting = fs.toSetting
  growsAt : ∀ place, GrowsAt P fs fs' place

def HasDir (fs : FileSystem) (place : Place) : Prop :=
  ∃ mode, fs.node? place = some (.dir mode)

/-- The process may step from the place to what is in it. -/
def Searchable (fs : FileSystem) (place : Place) : Prop :=
  ∃ mode, fs.node? place = some (.dir mode) ∧ fs.allows ownerSearch mode = true

variable {P Q : Path → Prop} {fs fs' fs'' : FileSystem} {place place' last : Place} {n : Node}
  {p q : Path} {name : String} {names : List String} {mode : UInt32} {content : ByteArray}

theorem Searchable.hasDir (h : fs.Searchable place) : fs.HasDir place := by
  obtain ⟨mode, hn, -⟩ := h
  exact ⟨mode, hn⟩

theorem not_hasDir_of_none (h : fs.node? place = none) : ¬ fs.HasDir place := by
  rintro ⟨mode, hn⟩
  cases h.symm.trans hn

theorem not_hasDir_of_file (h : fs.node? place = some (.file mode content)) :
    ¬ fs.HasDir place := by
  rintro ⟨mode', hn⟩
  cases h.symm.trans hn

section Nodes

theorem lookup_filter_ne {β : Type} (l : List (Place × β)) (h : place' ≠ place) :
    (l.filter fun e => e.1 != place).lookup place' = l.lookup place' := by
  induction l with
  | nil => rfl
  | cons e l ih =>
    obtain ⟨k, x⟩ := e
    by_cases hk : k = place
    · subst hk
      simp [List.lookup_cons, ih, beq_false_of_ne h]
    · simp [List.lookup_cons, ih, hk]

theorem node?_put : (fs.put place n).node? place' =
    if place' = place then some n else fs.node? place' := by
  by_cases h : place' = place
  · simp [node?, put, h]
  · have hl : (fs.put place n).entries.lookup place' = fs.entries.lookup place' := by
      simp [put, List.lookup_cons, lookup_filter_ne, beq_false_of_ne h, h]
    rw [if_neg h, node?, hl]
    rfl

end Nodes

section Paths

def namesOf (p : Path) : List String :=
  (p.pieces.filter (!·.isEmpty)).map String.ofList

def start (fs : FileSystem) (p : Path) : Place :=
  if p.isAbsolute then [] else fs.workingDir

def next (place : Place) (name : String) : Place :=
  if name == "." then place else if name == ".." then place.dropLast else place ++ [name]

theorem follow_cons_eq_ok_iff : fs.follow place (name :: names) = .ok last ↔
    fs.Searchable place ∧ name.utf8ByteSize ≤ 255 ∧
      fs.follow (next place name) names = .ok last := by
  unfold Searchable
  rw [follow]
  rcases fs.node? place with _ | mode | ⟨mode, content⟩
  · simp
  · rcases ha : fs.allows ownerSearch mode with _ | _
    · simp [ha]
    · by_cases h : name.utf8ByteSize > 255
      · simp [ha, h, Nat.not_le.mpr h]
      · simp [ha, h, Nat.not_lt.mp h, next]
  · simp

theorem locate_eq_ok_iff : fs.locate p = .ok place ↔
    (p.chars.contains '\x00' = false ∧ p.isEmpty = false ∧ p.text.utf8ByteSize ≤ 4095) ∧
      fs.follow (fs.start p) (namesOf p) = .ok place := by
  unfold locate start namesOf
  rcases p.chars.contains '\x00' with _ | _
  · rcases p.isEmpty with _ | _
    · by_cases h : p.text.utf8ByteSize > 4095
      · simp [h, Nat.not_le.mpr h]
      · simp [h, Nat.not_lt.mp h]
    · simp
  · simp

end Paths

section Keeping

/-- Directories stay directories, and those that can be searched can be searched still. So paths
that lead somewhere lead there still. -/
structure KeepsDirs (fs fs' : FileSystem) : Prop where
  workingDir_eq : fs'.workingDir = fs.workingDir
  hasDir : ∀ place, fs.HasDir place → fs'.HasDir place
  searchable : ∀ place, fs.Searchable place → fs'.Searchable place

namespace KeepsDirs

theorem refl (fs : FileSystem) : KeepsDirs fs fs :=
  ⟨rfl, fun _ => id, fun _ => id⟩

theorem trans (h : KeepsDirs fs fs') (h' : KeepsDirs fs' fs'') : KeepsDirs fs fs'' :=
  ⟨h'.workingDir_eq.trans h.workingDir_eq, fun place hd => h'.hasDir place (h.hasDir place hd),
    fun place hs => h'.searchable place (h.searchable place hs)⟩

theorem of_node?_dir (hs : fs'.toSetting = fs.toSetting)
    (h : ∀ place mode, fs.node? place = some (.dir mode) → fs'.node? place = some (.dir mode)) :
    KeepsDirs fs fs' := by
  refine ⟨congrArg Setting.workingDir hs, fun place ⟨mode, hd⟩ => ⟨mode, h place mode hd⟩, ?_⟩
  rintro place ⟨mode, hd, ha⟩
  refine ⟨mode, h place mode hd, ?_⟩
  rw [allows, hs]
  exact ha

theorem follow_eq (h : KeepsDirs fs fs') (hf : fs.follow place names = .ok last) :
    fs'.follow place names = .ok last := by
  induction names generalizing place with
  | nil => exact hf
  | cons name names ih =>
    obtain ⟨hs, hsize, hrest⟩ := follow_cons_eq_ok_iff.mp hf
    exact follow_cons_eq_ok_iff.mpr ⟨h.searchable place hs, hsize, ih hrest⟩

theorem locate_eq (h : KeepsDirs fs fs') (hl : fs.locate q = .ok place) :
    fs'.locate q = .ok place := by
  rw [locate_eq_ok_iff] at hl ⊢
  rw [start, h.workingDir_eq]
  exact ⟨hl.1, h.follow_eq hl.2⟩

end KeepsDirs

theorem keepsDirs_put (hn : fs.node? place = none) : KeepsDirs fs (fs.put place n) := by
  refine .of_node?_dir rfl fun place' mode hd => ?_
  rw [node?_put, if_neg]
  · exact hd
  · rintro rfl
    cases hn.symm.trans hd

end Keeping

section AsRoot

/-- The files as a process sees them for which no permissions count. -/
def asRoot (fs : FileSystem) : FileSystem :=
  { fs with privileged := true }

theorem searchable_asRoot_iff : fs.asRoot.Searchable place ↔ fs.HasDir place :=
  ⟨Searchable.hasDir, fun ⟨mode, hn⟩ => ⟨mode, hn, rfl⟩⟩

theorem keepsDirs_asRoot_iff : KeepsDirs fs.asRoot fs'.asRoot ↔
    fs'.workingDir = fs.workingDir ∧ ∀ place, fs.HasDir place → fs'.HasDir place := by
  refine ⟨fun h => ⟨h.workingDir_eq, h.hasDir⟩, fun ⟨hw, hd⟩ => ⟨hw, hd, fun place hs => ?_⟩⟩
  rw [searchable_asRoot_iff] at hs ⊢
  exact hd place hs

theorem KeepsDirs.asRoot (h : KeepsDirs fs fs') : KeepsDirs fs.asRoot fs'.asRoot :=
  keepsDirs_asRoot_iff.mpr ⟨h.workingDir_eq, h.hasDir⟩

theorem keepsDirs_to_asRoot (fs : FileSystem) : KeepsDirs fs fs.asRoot :=
  ⟨rfl, fun _ => id, fun _ hs => searchable_asRoot_iff.mpr hs.hasDir⟩

/-- A path leads nowhere else if permissions do not count. -/
theorem locate_asRoot (h : fs.locate p = .ok place) : fs.asRoot.locate p = .ok place :=
  (keepsDirs_to_asRoot fs).locate_eq h

end AsRoot

section Growing

theorem Grows.refl (P : Path → Prop) (fs : FileSystem) : Grows P fs fs :=
  ⟨rfl, fun _ => .inl rfl⟩

theorem Grows.keepsDirs (h : Grows P fs fs') : KeepsDirs fs fs' := by
  refine .of_node?_dir h.setting_eq fun place mode hd => ?_
  rcases h.growsAt place with he | ⟨hn, -⟩
  · rw [he, hd]
  · cases hn.symm.trans hd

theorem Grows.node?_file_iff (h : Grows P fs fs') :
    fs'.node? place = some (.file mode content) ↔ fs.node? place = some (.file mode content) := by
  rcases h.growsAt place with he | ⟨hn, hd, -⟩
  · rw [he]
  · simp [hn, hd]

theorem GrowsAt.mono (h : GrowsAt P fs fs' place) (hpq : ∀ q, P q → Q q) :
    GrowsAt Q fs fs' place := by
  rcases h with he | ⟨hn, hd, q, hq, hl⟩
  · exact .inl he
  · exact .inr ⟨hn, hd, q, hpq q hq, hl⟩

theorem Grows.mono (h : Grows P fs fs') (hpq : ∀ q, P q → Q q) : Grows Q fs fs' :=
  ⟨h.setting_eq, fun place => (h.growsAt place).mono hpq⟩

theorem Grows.newDirMode_eq (h : Grows P fs fs') : fs'.newDirMode = fs.newDirMode := by
  rw [newDirMode, h.setting_eq, newDirMode]

theorem Grows.trans (h : Grows P fs fs') (h' : Grows P fs' fs'') : Grows P fs fs'' := by
  refine ⟨h'.setting_eq.trans h.setting_eq, fun place => ?_⟩
  rcases h'.growsAt place with he' | ⟨hn', hd', q, hq, hl'⟩
  · rcases h.growsAt place with he | ⟨hn, hd, q, hq, hl⟩
    · exact .inl (he'.trans he)
    · exact .inr ⟨hn, he'.trans hd, q, hq, h'.keepsDirs.locate_eq hl⟩
  · rcases h.growsAt place with he | ⟨-, hd, -⟩
    · exact .inr ⟨he ▸ hn', h.newDirMode_eq ▸ hd', q, hq, hl'⟩
    · cases hn'.symm.trans hd

theorem createDir_eq_ok_iff : fs.createDir p = .ok fs' ↔
    ∃ place, fs.locate p = .ok place ∧ fs.node? place = none ∧ fs.device? place = none ∧
      fs.isSealed place = false ∧ fs' = fs.put place (.dir fs.newDirMode) := by
  unfold createDir
  rcases hl : fs.locate p with e | place
  · simp [bind, Except.bind]
  · rcases hn : fs.node? place with _ | n
    · rcases hd : fs.device? place with _ | mode
      · rcases hs : fs.isSealed place with _ | _
        · simpa [bind, Except.bind, hn, hd, hs] using eq_comm
        · simp [bind, Except.bind, hn, hd, hs]
      · simp [bind, Except.bind, hn, hd]
    · simp [bind, Except.bind, hn]

theorem grows_of_createDir (h : fs.createDir p = .ok fs') : Grows (· = p) fs fs' := by
  obtain ⟨place, hl, hn, -, -, rfl⟩ := createDir_eq_ok_iff.mp h
  refine ⟨rfl, fun place' => ?_⟩
  unfold GrowsAt
  rw [node?_put]
  by_cases he : place' = place
  · subst he
    exact .inr ⟨hn, if_pos rfl, p, rfl, (keepsDirs_put hn).locate_eq hl⟩
  · exact .inl (if_neg he)

/-- What holds of each directory that is made, for the path or an ancestor of it, holds of making
them all. -/
theorem createDirsWithin_induction {R : FileSystem → FileSystem → Prop} (hrefl : ∀ fs, R fs fs)
    (htrans : ∀ fs fs' fs'', R fs fs' → R fs' fs'' → R fs fs'') (p : Path)
    (hstep : ∀ fs fs' q, q = p ∨ q.IsAncestor p → fs.createDir q = .ok fs' → R fs fs')
    (fs : FileSystem) (depth : Nat) : R fs (fs.createDirsWithin p depth).2 := by
  induction depth generalizing fs p with
  | zero => exact hrefl fs
  | succ depth ih =>
    unfold createDirsWithin
    split
    · exact hrefl fs
    · split
      · next fs' hc => exact hstep fs fs' p (.inl rfl) hc
      · rcases hp : p.parent? with _ | parent
        · exact hrefl fs
        · have hparent : R fs (fs.createDirsWithin parent depth).2 := by
            refine ih parent (fun fs fs' q hq => hstep fs fs' q (.inr ?_)) fs
            rcases hq with rfl | hq
            · exact .parent hp
            · exact .above hq hp
          rcases hrun : fs.createDirsWithin parent depth with ⟨_ | _, fs'⟩
          · simpa only [hrun] using hparent
          · simp only [hrun] at hparent ⊢
            rcases hc : fs'.createDir p with e | fs''
            · simp only
              split <;> exact hparent
            · exact htrans fs fs' fs'' hparent (hstep fs' fs'' p (.inl rfl) hc)
      · split <;> exact hrefl fs

/-- Making directories only makes directories, each where the path or an ancestor of it leads. -/
theorem grows_createDirsWithin (fs : FileSystem) (p : Path) (depth : Nat) :
    Grows (fun q => q = p ∨ q.IsAncestor p) fs (fs.createDirsWithin p depth).2 := by
  refine createDirsWithin_induction (.refl _) (fun _ _ _ => .trans) p (fun fs fs' q hq hc => ?_) fs
    depth
  refine (grows_of_createDir hc).mono ?_
  rintro _ rfl
  exact hq

end Growing

end FileSystem

end Stencil
