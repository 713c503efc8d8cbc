import Stencil.Proofs.FileSystem.Growth

/-! # Evolution of file systems

In the course of a run directories are made and files are written, and nothing goes away. A path
leads to the same file before and after, unless that file is written, or the path climbs from a
directory that was not there before.
-/

namespace Stencil.FileSystem

variable {fs fs' fs'' other other' : FileSystem} {outs outs' : Place → Prop} {P : Path → Prop}
  {place place' last : Place} {name : String} {names more : List String} {n : Node} {p : Path}
  {mode : UInt32} {content : ByteArray}

section Paths

theorem exists_eq_append_of_follow (h : fs.follow place names = .ok last) (hup : ".." ∉ names) :
    ∃ more, last = place ++ more := by
  induction names generalizing place with
  | nil => exact ⟨[], by simpa [follow] using (Except.ok.inj h).symm⟩
  | cons name names ih =>
    obtain ⟨-, -, hrest⟩ := follow_cons_eq_ok_iff.mp h
    obtain ⟨hname, hnames⟩ : ".." ≠ name ∧ ".." ∉ names := by simpa using hup
    obtain ⟨more, rfl⟩ := ih hrest hnames
    unfold next
    split
    · exact ⟨more, rfl⟩
    · rw [if_neg (by simpa using Ne.symm hname)]
      exact ⟨name :: more, by simp⟩

/-- Without steps to the same place either, it leads where its names say. -/
theorem eq_append_of_follow (h : fs.follow place names = .ok last) (hdot : "." ∉ names)
    (hup : ".." ∉ names) : last = place ++ names := by
  induction names generalizing place with
  | nil => simpa [follow] using (Except.ok.inj h).symm
  | cons name names ih =>
    obtain ⟨-, -, hrest⟩ := follow_cons_eq_ok_iff.mp h
    obtain ⟨hdot, hdots⟩ : "." ≠ name ∧ "." ∉ names := by simpa using hdot
    obtain ⟨hup, hups⟩ : ".." ≠ name ∧ ".." ∉ names := by simpa using hup
    rw [next, if_neg (by simpa using Ne.symm hdot), if_neg (by simpa using Ne.symm hup)] at hrest
    rw [ih hrest hdots hups, List.append_assoc, List.singleton_append]

theorem status_eq_ok_dir_iff : fs.status p = .ok (place, .dir mode) ↔
    fs.locate p = .ok place ∧ fs.node? place = some (.dir mode) := by
  unfold status
  rcases fs.locate p with e | found
  · simp [bind, Except.bind]
  · rcases hn : fs.node? found with _ | _ | ⟨mode, content⟩
    · simp only [bind, Except.bind, hn]
      grind
    · simp only [bind, Except.bind, hn]
      grind
    · simp only [bind, Except.bind, hn]
      grind

theorem status_eq_ok_file_iff : fs.status p = .ok (place, .file mode content) ↔
    fs.locate p = .ok place ∧ fs.node? place = some (.file mode content) ∧
      endsInSlash p = false := by
  unfold status
  rcases fs.locate p with e | found
  · simp [bind, Except.bind]
  · rcases hn : fs.node? found with _ | _ | ⟨mode, content⟩
    · simp only [bind, Except.bind, hn]
      grind
    · simp only [bind, Except.bind, hn]
      grind
    · simp only [bind, Except.bind, hn]
      grind

theorem has_of_status_ok (h : fs.status p = .ok (place, n)) : fs.has p = true := by
  simp [has, h, Except.isOk, Except.toBool]

theorem has_of_status_error {e : IoError} (h : fs.status p = .error e)
    (hd : fs.deviceAt? p = none) : fs.has p = false := by
  rw [has, h, hd]
  rfl

theorem isDir_iff : fs.isDir p = true ↔ ∃ place, fs.locate p = .ok place ∧ fs.HasDir place := by
  have hiff : fs.isDir p = true ↔ ∃ place mode, fs.status p = .ok (place, .dir mode) := by
    unfold isDir
    rcases fs.status p with e | ⟨place, mode | ⟨mode, content⟩⟩ <;> simp
  simp only [hiff, status_eq_ok_dir_iff, HasDir, exists_and_left]

theorem isFile_iff : fs.isFile p = true ↔
    ∃ place mode content, fs.status p = .ok (place, .file mode content) := by
  unfold isFile
  rcases fs.status p with e | ⟨place, mode | ⟨mode, content⟩⟩ <;> simp

theorem deviceAt?_of_status_ok (h : fs.status p = .ok (place, n)) : fs.deviceAt? p = none := by
  unfold status at h
  unfold deviceAt?
  rcases hl : fs.locate p with e | found
  · rfl
  · rcases hn : fs.node? found with _ | n'
    · simp [hl, hn, bind, Except.bind] at h
    · simp [Except.toOption, device?, hn]

theorem readBytes_eq_ok_iff : fs.readBytes p = .ok content ↔
    ∃ place mode, fs.status p = .ok (place, .file mode content) ∧
      fs.allows ownerRead mode = true := by
  unfold readBytes
  rcases hs : fs.status p with e | ⟨place, mode | ⟨mode, old⟩⟩
  · rcases fs.deviceAt? p with _ | device <;> simp [bind, Except.bind]
  · simp [deviceAt?_of_status_ok hs, bind, Except.bind]
  · rcases ha : fs.allows ownerRead mode with _ | _
    · simp only [deviceAt?_of_status_ok hs, bind, Except.bind]
      grind
    · simp only [deviceAt?_of_status_ok hs, bind, Except.bind]
      grind

theorem readText_eq_ok_iff {text : String} : fs.readText p = .ok text ↔
    ∃ content, fs.readBytes p = .ok content ∧ String.fromUTF8? content = some text := by
  unfold readText
  rcases fs.readBytes p with e | content
  · simp [bind, Except.bind]
  · rcases hu : String.fromUTF8? content with _ | read <;> simp [bind, Except.bind, hu]

theorem fromUTF8?_toUTF8 (text : String) : String.fromUTF8? text.toUTF8 = some text :=
  dif_pos text.isValidUTF8

theorem KeepsDirs.isDir (h : KeepsDirs fs fs') (hd : fs.isDir p = true) : fs'.isDir p = true := by
  obtain ⟨place, hl, hn⟩ := isDir_iff.mp hd
  exact isDir_iff.mpr ⟨place, h.locate_eq hl, h.hasDir place hn⟩

end Paths

section Trees

/-- What is somewhere is in a directory, and the places where paths begin are directories. -/
structure IsTree (fs : FileSystem) : Prop where
  root : fs.HasDir []
  workingDir : fs.HasDir fs.workingDir
  parent : ∀ place name, fs.node? (place ++ [name]) ≠ none → fs.HasDir place

/-- The place is a directory or in one. -/
def Anchored (fs : FileSystem) (place : Place) : Prop :=
  fs.HasDir place ∨ ∃ up name, place = up ++ [name] ∧ fs.HasDir up

/-- One node is new or another, and nothing else changes. -/
structure Written (fs fs' : FileSystem) (place : Place) (n : Node) : Prop where
  setting_eq : fs'.toSetting = fs.toSetting
  node?_eq : ∀ place', fs'.node? place' = if place' = place then some n else fs.node? place'

theorem written_put (fs : FileSystem) (place : Place) (n : Node) :
    Written fs (fs.put place n) place n :=
  ⟨rfl, fun _ => node?_put⟩

theorem Written.trans {n' : Node} (h : Written fs fs' place n) (h' : Written fs' fs'' place n') :
    Written fs fs'' place n' := by
  refine ⟨h'.setting_eq.trans h.setting_eq, fun pl => ?_⟩
  rw [h'.node?_eq, h.node?_eq]
  split <;> rfl

theorem Written.node?_self (h : Written fs fs' place n) : fs'.node? place = some n := by
  rw [h.node?_eq, if_pos rfl]

theorem Written.keepsDirs (h : Written fs fs' place n) (hn : ¬ fs.HasDir place) :
    KeepsDirs fs fs' := by
  refine .of_node?_dir h.setting_eq fun pl mode hd => ?_
  rw [h.node?_eq, if_neg]
  · exact hd
  · rintro rfl
    exact hn ⟨mode, hd⟩

namespace IsTree

/-- A file system is a tree if everything listed is in a directory, and so are the directories that
are always there. -/
theorem of_entries
    (hw : ∀ dir ∈ fs.fixedDirs, ∀ place, place <+: dir → fs.HasDir place)
    (he : ∀ e ∈ fs.entries, fs.HasDir e.1.dropLast) : IsTree fs := by
  have hworking : fs.workingDir ∈ fs.fixedDirs := List.mem_cons_self
  refine ⟨hw _ hworking [] List.nil_prefix, hw _ hworking _ (List.prefix_refl _),
    fun place name hne => ?_⟩
  rcases hl : fs.entries.lookup (place ++ [name]) with _ | n
  · obtain ⟨dir, hdir, hprefix⟩ : ∃ dir ∈ fs.fixedDirs, place ++ [name] <+: dir := by
      refine Classical.byContradiction fun hnone => hne ?_
      have hany : fs.fixedDirs.any (place ++ [name]).isPrefixOf = false := by
        simpa using hnone
      simp [node?, hl, hany]
    exact hw dir hdir place ((List.prefix_append place [name]).trans hprefix)
  · obtain ⟨before, after, hsplit, -⟩ := List.lookup_eq_some_iff.mp hl
    have hmem : (place ++ [name], n) ∈ fs.entries := by simp [hsplit]
    simpa using he _ hmem

theorem node?_append (h : IsTree fs) (hn : fs.node? place = none) (more : List String) :
    fs.node? (place ++ more) = none := by
  induction more generalizing place with
  | nil => simpa using hn
  | cons name more ih =>
    have hname : fs.node? (place ++ [name]) = none := by
      rcases hnode : fs.node? (place ++ [name]) with _ | n
      · rfl
      · exact absurd (h.parent place name (by simp [hnode])) (not_hasDir_of_none hn)
    simpa using ih hname

theorem dropLast (h : IsTree fs) (hd : fs.HasDir place) : fs.HasDir place.dropLast := by
  rcases List.eq_nil_or_concat place with rfl | ⟨up, name, rfl⟩
  · exact hd
  · obtain ⟨mode, hn⟩ := hd
    rw [List.concat_eq_append] at hn
    rw [List.concat_eq_append, List.dropLast_concat]
    exact h.parent up name (by simp [hn])

theorem anchored_follow (h : IsTree fs) (ha : fs.Anchored place)
    (hf : fs.follow place names = .ok last) : fs.Anchored last := by
  induction names generalizing place with
  | nil => exact Except.ok.inj hf ▸ ha
  | cons name names ih =>
    obtain ⟨hs, -, hrest⟩ := follow_cons_eq_ok_iff.mp hf
    refine ih ?_ hrest
    unfold next
    split
    · exact .inl hs.hasDir
    · split
      · exact .inl (h.dropLast hs.hasDir)
      · exact .inr ⟨place, name, rfl, hs.hasDir⟩

theorem anchored_locate (h : IsTree fs) (hl : fs.locate p = .ok place) : fs.Anchored place := by
  refine h.anchored_follow (.inl ?_) (locate_eq_ok_iff.mp hl).2
  unfold start
  split
  · exact h.root
  · exact h.workingDir

theorem of_written (h : IsTree fs) (hw : Written fs fs' place n) (ha : fs.Anchored place)
    (hn : ¬ fs.HasDir place) : IsTree fs' := by
  have hkeeps := hw.keepsDirs hn
  refine ⟨hkeeps.hasDir _ h.root, ?_, fun pl name hne => hkeeps.hasDir pl ?_⟩
  · rw [hkeeps.workingDir_eq]
    exact hkeeps.hasDir _ h.workingDir
  · rw [hw.node?_eq] at hne
    split at hne
    · next heq =>
      rcases ha with hd | ⟨up, name', rfl, hup⟩
      · exact absurd hd hn
      · rw [(List.append_inj' heq rfl).1]
        exact hup
    · exact h.parent pl name hne

end IsTree

end Trees

section Directories

theorem isTree_of_createDir (h : IsTree fs) (hc : fs.createDir p = .ok fs') : IsTree fs' := by
  obtain ⟨place, hl, hn, -, -, rfl⟩ := createDir_eq_ok_iff.mp hc
  exact h.of_written (written_put fs place _) (h.anchored_locate hl) (not_hasDir_of_none hn)

theorem isDir_of_createDir (hc : fs.createDir p = .ok fs') : fs'.isDir p = true := by
  obtain ⟨place, hl, hn, -, -, rfl⟩ := createDir_eq_ok_iff.mp hc
  exact isDir_iff.mpr
    ⟨place, (keepsDirs_put hn).locate_eq hl, _, (written_put fs place _).node?_self⟩

theorem isTree_createDirsWithin (h : IsTree fs) (p : Path) (depth : Nat) :
    IsTree (fs.createDirsWithin p depth).2 :=
  createDirsWithin_induction (R := fun fs fs' => IsTree fs → IsTree fs') (fun _ => id)
    (fun _ _ _ h h' => h' ∘ h) p (fun _ _ _ _ hc h => isTree_of_createDir h hc) fs depth h

/-- Where making directories has not failed, the path is one. -/
theorem isDir_of_createDirsWithin {depth : Nat} (h : (fs.createDirsWithin p depth).1 = .ok ()) :
    p.isEmpty = true ∨ (fs.createDirsWithin p depth).2.isDir p = true := by
  revert h
  cases depth with
  | zero => simp [createDirsWithin]
  | succ depth =>
    unfold createDirsWithin
    split
    · exact fun _ => .inl ‹_›
    · split
      · next fs' hc => exact fun _ => .inr (isDir_of_createDir hc)
      · rcases p.parent? with _ | parent
        · simp
        · rcases hrun : fs.createDirsWithin parent depth with ⟨_ | _, fs'⟩ <;> simp only [hrun]
          · simp
          · rcases hc : fs'.createDir p with e | fs''
            · simp only
              split
              · exact fun _ => .inr ‹_›
              · simp
            · exact fun _ => .inr (isDir_of_createDir hc)
      · split
        · exact fun _ => .inr ‹_›
        · simp

theorem createDirs_of_isDir (hd : fs.isDir p = true) : fs.createDirs p = (.ok (), fs) := by
  obtain ⟨place, hl, mode, hn⟩ := isDir_iff.mp hd
  have hc : fs.createDir p = .error .alreadyExists := by
    simp [createDir, hl, hn, bind, Except.bind]
  unfold createDirs createDirsWithin
  split
  · rfl
  · simp only [hc]

end Directories

section Evolution

/-- The second file system comes after the first: only at the given places files are written, and
elsewhere at most directories are new. -/
structure Evolves (outs : Place → Prop) (fs fs' : FileSystem) : Prop where
  setting_eq : fs'.toSetting = fs.toSetting
  node?_cases : ∀ place, fs'.node? place = fs.node? place ∨
    fs.node? place = none ∧ fs'.HasDir place ∨
      outs place ∧ ¬ fs.HasDir place ∧
        ∃ mode content, fs'.node? place = some (.file mode content)

namespace Evolves

theorem refl (outs : Place → Prop) (fs : FileSystem) : Evolves outs fs fs :=
  ⟨rfl, fun _ => .inl rfl⟩

theorem of_grows (h : Grows P fs fs') : Evolves outs fs fs' := by
  refine ⟨h.setting_eq, fun place => ?_⟩
  rcases h.growsAt place with he | ⟨hn, hd, -⟩
  · exact .inl he
  · exact .inr (.inl ⟨hn, _, hd⟩)

theorem of_written (h : Written fs fs' place (.file mode content)) (hn : ¬ fs.HasDir place) :
    Evolves (· = place) fs fs' := by
  refine ⟨h.setting_eq, fun pl => ?_⟩
  rw [h.node?_eq]
  split
  · next he => exact .inr (.inr ⟨he, he ▸ hn, mode, content, rfl⟩)
  · exact .inl rfl

theorem mono (h : Evolves outs fs fs') (hsub : ∀ place, outs place → outs' place) :
    Evolves outs' fs fs' := by
  refine ⟨h.setting_eq, fun place => ?_⟩
  rcases h.node?_cases place with he | hmade | ⟨ho, hn, hfile⟩
  · exact .inl he
  · exact .inr (.inl hmade)
  · exact .inr (.inr ⟨hsub place ho, hn, hfile⟩)

theorem keepsDirs (h : Evolves outs fs fs') : KeepsDirs fs fs' := by
  refine .of_node?_dir h.setting_eq fun place mode hd => ?_
  rcases h.node?_cases place with he | ⟨hn, -⟩ | ⟨-, hn, -⟩
  · rw [he, hd]
  · cases hn.symm.trans hd
  · exact absurd ⟨mode, hd⟩ hn

theorem node?_eq_none (h : Evolves outs fs fs') (hn : fs'.node? place = none) :
    fs.node? place = none := by
  rcases h.node?_cases place with he | ⟨hn', -⟩ | ⟨-, -, mode, content, hfile⟩
  · rw [← he, hn]
  · exact hn'
  · cases hn.symm.trans hfile

theorem exists_file (h : Evolves outs fs fs') (hf : fs.node? place = some (.file mode content)) :
    ∃ mode' content', fs'.node? place = some (.file mode' content') := by
  rcases h.node?_cases place with he | ⟨hn, -⟩ | ⟨-, -, hfile⟩
  · exact ⟨mode, content, he.trans hf⟩
  · cases hn.symm.trans hf
  · exact hfile

theorem trans (h : Evolves outs fs fs') (h' : Evolves outs fs' fs'') : Evolves outs fs fs'' := by
  refine ⟨h'.setting_eq.trans h.setting_eq, fun place => ?_⟩
  rcases h'.node?_cases place with he | ⟨hn, hd⟩ | ⟨ho, hn, hfile⟩
  · unfold HasDir
    rw [he]
    exact h.node?_cases place
  · exact .inr (.inl ⟨h.node?_eq_none hn, hd⟩)
  · exact .inr (.inr ⟨ho, fun hd => hn (h.keepsDirs.hasDir place hd), hfile⟩)

end Evolves

/-- The path leads to the same file in both file systems, if it leads to a file in either, and
reading it is allowed in both or in neither. -/
structure SameFile (fs fs' : FileSystem) (p : Path) : Prop where
  privileged_eq : fs'.privileged = fs.privileged
  status_iff : ∀ place mode content,
    fs.status p = .ok (place, .file mode content) ↔ fs'.status p = .ok (place, .file mode content)

theorem SameFile.trans (h : SameFile fs fs' p) (h' : SameFile fs' fs'' p) : SameFile fs fs'' p :=
  ⟨h'.privileged_eq.trans h.privileged_eq,
    fun place mode content =>
      (h.status_iff place mode content).trans (h'.status_iff place mode content)⟩

/-- In the second file system the path leads to a file, on the way entering a directory that is not
in the first one and stepping up after that. -/
def ClimbsToFile (fs fs' : FileSystem) (p : Path) : Prop :=
  fs'.isFile p = true ∧ ∃ before after place, namesOf p = before ++ after ∧ ".." ∈ after ∧
    fs'.follow (fs'.start p) before = .ok place ∧ fs.node? place = none

theorem ClimbsToFile.of_earlier (h : ClimbsToFile fs' fs'' p) (he : Evolves outs fs fs') :
    ClimbsToFile fs fs'' p := by
  obtain ⟨hfile, before, after, place, hnames, hup, hf, hn⟩ := h
  exact ⟨hfile, before, after, place, hnames, hup, hf, he.node?_eq_none hn⟩

/-- A path that leads to something old without climbing from new directories has led there
before. -/
theorem Evolves.follow_eq (h : Evolves outs fs fs') (ht : fs.IsTree)
    (hf : fs'.follow place names = .ok last) (hl : fs.node? last ≠ none)
    (hc : ∀ before after mid, names = before ++ after → fs'.follow place before = .ok mid →
      fs.node? mid = none → ".." ∉ after) :
    fs.follow place names = .ok last := by
  induction names generalizing place with
  | nil => exact hf
  | cons name names ih =>
    obtain ⟨hs', hsize, hrest⟩ := follow_cons_eq_ok_iff.mp hf
    rcases h.node?_cases place with he | ⟨hn, -⟩ | ⟨-, -, mode, content, hfile⟩
    · have hs : fs.Searchable place := by
        obtain ⟨mode, hd, ha⟩ := hs'
        rw [allows, h.setting_eq] at ha
        exact ⟨mode, he ▸ hd, ha⟩
      refine follow_cons_eq_ok_iff.mpr ⟨hs, hsize, ih hrest ?_⟩
      intro before after mid hnames hmid
      refine hc (name :: before) after mid (by simp [hnames]) ?_
      exact follow_cons_eq_ok_iff.mpr ⟨hs', hsize, hmid⟩
    · obtain ⟨more, rfl⟩ := exists_eq_append_of_follow hf (hc [] _ place rfl rfl hn)
      exact absurd (ht.node?_append hn more) hl
    · exact absurd hs'.hasDir (not_hasDir_of_file hfile)

theorem Evolves.sameFile (h : Evolves outs fs fs') (ht : fs.IsTree)
    (ho : ∀ place, fs'.locate p = .ok place → ¬ outs place) (hc : ¬ ClimbsToFile fs fs' p) :
    SameFile fs fs' p := by
  refine ⟨congrArg Setting.privileged h.setting_eq, fun place mode content => ?_⟩
  have hstart : fs'.start p = fs.start p := by rw [start, h.keepsDirs.workingDir_eq, start]
  constructor
  · intro hs
    obtain ⟨hl, hn, hslash⟩ := status_eq_ok_file_iff.mp hs
    have hl' := h.keepsDirs.locate_eq hl
    rcases h.node?_cases place with he | ⟨hnone, -⟩ | ⟨hout, -⟩
    · exact status_eq_ok_file_iff.mpr ⟨hl', he.trans hn, hslash⟩
    · cases hnone.symm.trans hn
    · exact absurd hout (ho place hl')
  · intro hs
    obtain ⟨hl', hn', hslash⟩ := status_eq_ok_file_iff.mp hs
    have hn : fs.node? place = some (.file mode content) := by
      rcases h.node?_cases place with he | ⟨-, hd⟩ | ⟨hout, -⟩
      · rw [← he, hn']
      · exact absurd hd (not_hasDir_of_file hn')
      · exact absurd hout (ho place hl')
    obtain ⟨htext, hf⟩ := locate_eq_ok_iff.mp hl'
    refine status_eq_ok_file_iff.mpr ⟨locate_eq_ok_iff.mpr ⟨htext, ?_⟩, hn, hslash⟩
    rw [hstart] at hf
    refine h.follow_eq ht hf (by simp [hn]) ?_
    intro before after mid hnames hmid hnone hup
    have hfile := isFile_iff.mpr ⟨place, mode, content, hs⟩
    refine hc ⟨hfile, before, after, mid, hnames, hup, ?_, hnone⟩
    rw [hstart]
    exact hmid

end Evolution

section Mirrors

/-- While the first file system evolves to the second in one run, the other one is that of a later
run at the same point: it is the second already, but for files that are still to be written again
and are as they were in the first at this point. -/
structure Mirrors (outs : Place → Prop) (fs fs' other : FileSystem) : Prop where
  setting_eq : other.toSetting = fs'.toSetting
  node?_cases : ∀ place, other.node? place = fs'.node? place ∨
    outs place ∧ ∃ mode content, other.node? place = some (.file mode content) ∧
      fs.node? place = some (.file mode content)

namespace Mirrors

theorem of_node?_eq (hs : other.toSetting = fs'.toSetting)
    (hn : ∀ place, other.node? place = fs'.node? place) : Mirrors outs fs fs' other :=
  ⟨hs, fun place => .inl (hn place)⟩

theorem node?_eq (h : Mirrors outs fs' fs' other) (place : Place) :
    other.node? place = fs'.node? place := by
  rcases h.node?_cases place with he | ⟨-, mode, content, hother, hfs⟩
  · exact he
  · rw [hother, hfs]

/-- The later run has at each point what the first one has, and what it makes after that. -/
theorem evolves (h : Mirrors outs fs fs' other) (he : Evolves outs fs fs') :
    Evolves outs fs other := by
  refine ⟨h.setting_eq.trans he.setting_eq, fun place => ?_⟩
  rcases h.node?_cases place with heq | ⟨-, mode, content, hother, hfs⟩
  · unfold HasDir
    rw [heq]
    exact he.node?_cases place
  · exact .inl (hother.trans hfs.symm)

theorem keepsDirs_symm (h : Mirrors outs fs fs' other) : KeepsDirs other fs' := by
  refine .of_node?_dir h.setting_eq.symm fun place mode hd => ?_
  rcases h.node?_cases place with he | ⟨-, mode, content, hother, -⟩
  · rw [← he, hd]
  · cases hd.symm.trans hother

theorem keepsDirs (h : Mirrors outs fs fs' other) (he : Evolves outs fs fs') :
    KeepsDirs fs' other := by
  refine .of_node?_dir h.setting_eq fun place mode hd => ?_
  rcases h.node?_cases place with heq | ⟨-, mode, content, -, hfs⟩
  · rw [heq, hd]
  · obtain ⟨mode', content', hfile⟩ := he.exists_file hfs
    cases hd.symm.trans hfile

theorem exists_file (h : Mirrors outs fs fs' other)
    (hf : fs'.node? place = some (.file mode content)) :
    ∃ mode' content', other.node? place = some (.file mode' content') := by
  rcases h.node?_cases place with he | ⟨-, mode', content', hother, -⟩
  · exact ⟨mode, content, he.trans hf⟩
  · exact ⟨mode', content', hother⟩

theorem sameFile (h : Mirrors outs fs fs' other) (he : Evolves outs fs fs')
    (ho : ∀ place, fs'.locate p = .ok place → ¬ outs place) : SameFile fs' other p := by
  refine ⟨congrArg Setting.privileged h.setting_eq, fun place mode content => ?_⟩
  simp only [status_eq_ok_file_iff]
  constructor
  · rintro ⟨hl, hn, hslash⟩
    rcases h.node?_cases place with heq | ⟨hout, -⟩
    · exact ⟨(h.keepsDirs he).locate_eq hl, heq.trans hn, hslash⟩
    · exact absurd hout (ho place hl)
  · rintro ⟨hl, hn, hslash⟩
    have hl' := h.keepsDirs_symm.locate_eq hl
    rcases h.node?_cases place with heq | ⟨hout, -⟩
    · exact ⟨hl', heq.symm.trans hn, hslash⟩
    · exact absurd hout (ho place hl')

theorem grows {fs₁ : FileSystem} (h : Mirrors outs fs fs' other) (hg : Grows P fs fs₁) :
    Mirrors outs fs₁ fs' other :=
  ⟨h.setting_eq, fun place => (h.node?_cases place).imp_right fun ⟨hout, mode, content, ho, hfs⟩ =>
    ⟨hout, mode, content, ho, hg.node?_file_iff.mpr hfs⟩⟩

theorem written {fs₁ : FileSystem} (h : Mirrors outs fs fs' other)
    (hw : Written fs fs₁ place (.file mode content))
    (hw' : Written other other' place (.file mode content)) (ho : outs place) :
    Mirrors outs fs₁ fs' other' := by
  refine ⟨hw'.setting_eq.trans h.setting_eq, fun pl => ?_⟩
  rw [hw.node?_eq, hw'.node?_eq]
  split
  · next he => exact .inr ⟨he ▸ ho, mode, content, rfl, rfl⟩
  · exact h.node?_cases pl

end Mirrors

end Mirrors

end Stencil.FileSystem
