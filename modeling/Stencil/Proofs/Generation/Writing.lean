import Stencil.Proofs.FileSystem.Permissions
import Stencil.Proofs.Generation.Action

/-! # Writing files again

A file is written wherever its path leads to no directory, and afterwards it has the content and the
permissions that it was written with, whatever was there before. Where a file has been written, the
directories above it need not be made.
-/

namespace Stencil

/-- The directory of a file: what stands before its name, or else the working directory. -/
def Path.directory (p : Path) : Path :=
  match p.parent? with
  | some parent => if parent.isEmpty then .ofString "." else parent
  | none => .ofString "."

namespace FileWriter

open FileSystem

variable {path : Path} {fs fs' other : FileSystem} {place : Place} {mode : UInt32}
  {n : Node} {content : ByteArray} {text : String} {w : FileWriter}

/-- The directory of the file is there. -/
def HasParent (fs : FileSystem) (path : Path) : Prop :=
  ∀ parent, path.parent? = some parent → parent.isEmpty = true ∨ fs.isDir parent = true

/-- The path leads to a place where a file is or can be. -/
structure Writable (fs : FileSystem) (path : Path) (place : Place) : Prop where
  locate_eq : fs.locate path = .ok place
  endsInSlash_eq : endsInSlash path = false
  not_hasDir : ¬ fs.HasDir place
  device?_eq : fs.device? place = none
  isSealed_eq : fs.node? place = none → fs.isSealed place = false

/-- A file can be opened there as it is: its own permissions do not stand in the way. -/
structure Openable (fs : FileSystem) (path : Path) (place : Place) : Prop
    extends Writable fs path place where
  allows_eq : ∀ mode content, fs.node? place = some (.file mode content) →
    fs.allows ownerWrite mode = true

/-- A file that is there can be written, once it is unlocked. -/
theorem Writable.of_file (hl : fs.locate path = .ok place) (hslash : endsInSlash path = false)
    (hn : fs.node? place = some (.file mode content)) : Writable fs path place where
  locate_eq := hl
  endsInSlash_eq := hslash
  not_hasDir := not_hasDir_of_file hn
  device?_eq := device?_eq_none hn
  isSealed_eq hnone := nomatch hnone.symm.trans hn

theorem Writable.openable_of_none (h : Writable fs path place) (hn : fs.node? place = none) :
    Openable fs path place :=
  ⟨h, fun _ _ hf => nomatch hn.symm.trans hf⟩

theorem HasParent.mono (h : HasParent fs path) (hk : KeepsDirs fs fs') : HasParent fs' path :=
  fun parent hp => (h parent hp).imp_right hk.isDir

theorem Writable.isDir_eq (h : Writable fs path place) : fs.isDir path = false := by
  rw [Bool.eq_false_iff]
  intro hd
  obtain ⟨place', hl, hn⟩ := isDir_iff.mp hd
  obtain rfl : place = place' := Except.ok.inj (h.locate_eq.symm.trans hl)
  exact h.not_hasDir hn

theorem Writable.deviceAt?_eq (h : Writable fs path place) : fs.deviceAt? path = none := by
  rcases hd : fs.deviceAt? path with _ | ⟨found, mode⟩
  · rfl
  · obtain ⟨hl, hdevice, -⟩ := deviceAt?_eq_some_iff.mp hd
    obtain rfl : place = found := Except.ok.inj (h.locate_eq.symm.trans hl)
    cases h.device?_eq.symm.trans hdevice

theorem isDir_of_isEmpty {p : Path} (h : p.isEmpty = true) : fs.isDir p = false := by
  rw [Bool.eq_false_iff]
  intro hd
  obtain ⟨place, hl, -⟩ := isDir_iff.mp hd
  have hne := (locate_eq_ok_iff.mp hl).1.2.1
  simp [h] at hne

/-- Where the directory of the file is there, commands run in it. -/
theorem commandDir_of_hasParent (h : HasParent fs path) :
    Plugin.commandDir fs path = path.directory := by
  unfold Plugin.commandDir Path.directory
  rcases hp : path.parent? with _ | parent
  · rfl
  · rcases h parent hp with he | hd
    · simp [isDir_of_isEmpty he, he]
    · have he : parent.isEmpty = false := by
        rw [Bool.eq_false_iff]
        intro he
        cases (isDir_of_isEmpty he).symm.trans hd
      simp [hd, he]

/-- Where it is not, they run in the working directory. -/
theorem commandDir_of_not_hasParent (h : ¬ HasParent fs path) :
    Plugin.commandDir fs path = .ofString "." := by
  unfold Plugin.commandDir
  rcases hp : path.parent? with _ | parent
  · rfl
  · refine if_neg fun hd => h fun parent' hp' => .inr ?_
    obtain rfl := Option.some.inj (hp.symm.trans hp')
    exact hd

/-- Commands run in the same directory before two file systems that both have it. -/
theorem commandDir_eq (h : HasParent fs path) (h' : HasParent other path) :
    Plugin.commandDir fs path = Plugin.commandDir other path :=
  (commandDir_of_hasParent h).trans (commandDir_of_hasParent h').symm

section Prepare

theorem run_prepare_eq (path : Path) (fs : FileSystem) : (prepare path).run fs =
    if fs.isDir path = true then (.error (.outputIsDirectory path), fs)
    else match path.parent? with
      | none => (.ok (), fs)
      | some parent =>
        if parent.isEmpty = true then (.ok (), fs)
        else ((fs.createDirs parent).1.mapError (.io parent), (fs.createDirs parent).2) := by
  unfold prepare
  rw [run_bind_ok (rfl : (get : FileAction FileSystem).run fs = (.ok fs, fs))]
  by_cases hd : fs.isDir path = true
  · rw [if_pos hd, if_pos hd]
    rfl
  · rw [if_neg hd, if_neg hd]
    rcases path.parent? with _ | parent
    · rfl
    · by_cases he : parent.isEmpty = true
      · simp only [he]
        rfl
      · simp only [he, Bool.false_eq_true, if_false]
        unfold attempt
        rcases fs.createDirs parent with ⟨_ | _, fs'⟩ <;> rfl

theorem run_prepare_of_isDir (h : fs.isDir path = true) :
    (prepare path).run fs = (.error (.outputIsDirectory path), fs) := by
  rw [run_prepare_eq, if_pos h]

theorem grows_run_prepare (path : Path) (fs : FileSystem) :
    Grows (·.IsAncestor path) fs ((prepare path).run fs).2 := by
  rw [run_prepare_eq]
  split
  · exact .refl _ fs
  · rcases hp : path.parent? with _ | parent
    · exact .refl _ fs
    · dsimp only
      split
      · exact .refl _ fs
      · refine (grows_createDirsWithin fs parent (parent.chars.length + 2)).mono ?_
        rintro q (rfl | hq)
        · exact .parent hp
        · exact .above hq hp

theorem isTree_run_prepare (ht : fs.IsTree) (path : Path) : ((prepare path).run fs).2.IsTree := by
  rw [run_prepare_eq]
  split
  · exact ht
  · rcases path.parent? with _ | parent
    · exact ht
    · dsimp only
      split
      · exact ht
      · exact isTree_createDirsWithin ht parent (parent.chars.length + 2)

/-- Before a file is written, the directory of the file is made. -/
theorem hasParent_of_run_prepare (h : (prepare path).run fs = (.ok (), fs')) :
    HasParent fs' path := by
  intro parent hp
  rw [run_prepare_eq, hp] at h
  dsimp only at h
  split at h
  · cases h
  · split at h
    · exact .inl ‹_›
    · obtain ⟨hok, rfl⟩ := Prod.mk.inj h
      refine isDir_of_createDirsWithin ?_
      change (fs.createDirs parent).1 = _
      rcases hc : (fs.createDirs parent).1 with e | ⟨⟩
      · rw [hc] at hok
        cases hok
      · rfl

theorem run_prepare_of_hasParent (hd : fs.isDir path = false) (hp : HasParent fs path) :
    (prepare path).run fs = (.ok (), fs) := by
  rw [run_prepare_eq, if_neg (by simp [hd])]
  rcases hparent : path.parent? with _ | parent
  · rfl
  · dsimp only
    rcases hp parent hparent with he | hdir
    · rw [if_pos he]
    · rw [createDirs_of_isDir hdir]
      split <;> rfl

end Prepare

section Overwrite

theorem run_changeMode (path : Path) (mode : UInt32) (fs : FileSystem) :
    (changeMode none path mode).run fs = match fs.setMode path mode with
      | .ok fs' => (.ok (), fs')
      | .error e => (.error (.io path e), fs) := by
  unfold changeMode
  rw [run_bind_ok (rfl : (get : FileAction FileSystem).run fs = (.ok fs, fs))]
  unfold attempt orKeep
  rcases fs.setMode path mode with e | fs' <;> rfl

theorem run_fill (path : Path) (content : ByteArray) (fs : FileSystem) :
    (fill none path content).run fs = match fs.store path content with
      | .ok fs' => (.ok (), fs')
      | .error e => (.error (.io path e), fs) := by
  unfold fill
  rw [run_bind_ok (rfl : (get : FileAction FileSystem).run fs = (.ok fs, fs))]
  unfold attempt orKeep
  dsimp only
  rcases fs.store path content with e | fs' <;> rfl

theorem setMode_of_status (h : fs.status path = .ok (place, n)) (mode' : UInt32) :
    fs.setMode path mode' = .ok (fs.put place (n.withMode (mode' &&& 0o7777))) := by
  simp [setMode, deviceAt?_of_status_ok h, h, bind, Except.bind]

theorem setMode_of_deviceAt? (h : fs.deviceAt? path = some (place, mode)) (mode' : UInt32) :
    fs.setMode path mode' = .ok (fs.setDevice place (mode' &&& 0o7777)) := by
  simp [setMode, h]

theorem store_of_openable (h : Openable fs path place) (content : ByteArray) :
    fs.store path content =
      .ok (fs.put place (.file ((fs.modeAt? place).getD fs.newFileMode) content)) := by
  unfold store modeAt?
  rw [h.locate_eq, h.endsInSlash_eq]
  rcases hn : fs.node? place with _ | mode | ⟨mode, old⟩
  · simp [bind, Except.bind, hn, h.device?_eq, h.isSealed_eq hn]
  · exact absurd ⟨mode, hn⟩ h.not_hasDir
  · simp [bind, Except.bind, hn, h.allows_eq mode old hn, Node.fileMode?]

theorem openable_of_store (h : fs.store path content = .ok fs') :
    ∃ place, Openable fs path place := by
  unfold store at h
  rcases hl : fs.locate path with e | place
  · simp [hl, bind, Except.bind] at h
  · rcases hs : endsInSlash path with _ | _
    · rcases hn : fs.node? place with _ | mode | ⟨mode, old⟩
      · rcases hd : fs.device? place with _ | mode
        · rcases hsealed : fs.isSealed place with _ | _
          · have hw : Writable fs path place :=
              ⟨hl, hs, not_hasDir_of_none hn, hd, fun _ => hsealed⟩
            exact ⟨place, hw.openable_of_none hn⟩
          · simp [hl, hs, hn, hd, hsealed, bind, Except.bind] at h
        · simp [hl, hs, hn, hd, bind, Except.bind] at h
      · simp [hl, hs, hn, bind, Except.bind] at h
      · rcases ha : fs.allows ownerWrite mode with _ | _
        · simp [hl, hs, hn, ha, bind, Except.bind] at h
        · refine ⟨place, .of_file hl hs hn, fun mode' content' hf => ?_⟩
          cases hn.symm.trans hf
          exact ha
    · simp [hl, hs, bind, Except.bind] at h

theorem allows_writableMode (fs : FileSystem) :
    fs.allows ownerWrite (writableMode &&& 0o7777) = true := by
  unfold allows
  rw [Bool.or_eq_true]
  exact .inr (by decide)

theorem Writable.put (h : Writable fs path place) :
    Writable (fs.put place (.file mode content)) path place :=
  .of_file (((written_put fs place _).keepsDirs h.not_hasDir).locate_eq h.locate_eq)
    h.endsInSlash_eq (written_put fs place _).node?_self

theorem Writable.openable_put (h : Writable fs path place) (content : ByteArray) :
    Openable (fs.put place (.file (writableMode &&& 0o7777) content)) path place := by
  refine ⟨h.put, fun mode old hf => ?_⟩
  cases (written_put fs place _).node?_self.symm.trans hf
  exact allows_writableMode fs

theorem Writable.status_put (h : Writable fs path place) :
    (fs.put place (.file mode content)).status path = .ok (place, .file mode content) :=
  status_eq_ok_file_iff.mpr ⟨h.put.locate_eq, by simp [node?_put], h.endsInSlash_eq⟩

def complete (w : FileWriter) (path : Path) (text : String) : FileAction Unit := do
  fill none path text.toUTF8
  changeMode none path w.mode

/-- What is done to write a file once its directory is there. -/
def overwrite (w : FileWriter) (path : Path) (text : String) : FileAction Unit := do
  if (← get).has path then changeMode none path writableMode
  w.complete path text

theorem write_eq (w : FileWriter) (path : Path) (text : String) :
    w.write path text = prepare path >>= fun _ => w.overwrite path text := rfl

theorem run_overwrite_eq (w : FileWriter) (path : Path) (text : String) (fs : FileSystem) :
    (w.overwrite path text).run fs =
      if fs.has path = true then
        (changeMode none path writableMode >>= fun _ => w.complete path text).run fs
      else (w.complete path text).run fs := by
  unfold overwrite
  rw [run_bind_ok (rfl : (get : FileAction FileSystem).run fs = (.ok fs, fs))]
  split <;> rfl

theorem run_complete (h : Openable fs path place) (w : FileWriter) (text : String) :
    ∃ fs', (w.complete path text).run fs = (.ok (), fs') ∧
      Written fs fs' place (.file (w.mode &&& 0o7777) text.toUTF8) := by
  have hfill := run_fill path text.toUTF8 fs
  rw [store_of_openable h] at hfill
  generalize (fs.modeAt? place).getD fs.newFileMode = mode at hfill
  have hmode := run_changeMode path w.mode (fs.put place (.file mode text.toUTF8))
  rw [setMode_of_status h.status_put] at hmode
  have hfirst := written_put fs place (.file mode text.toUTF8)
  refine ⟨_, ?_, hfirst.trans (written_put _ place (.file (w.mode &&& 0o7777) text.toUTF8))⟩
  unfold complete
  rw [run_bind_ok hfill, hmode]
  rfl

theorem run_complete_error {e : IoError} (h : fs.store path text.toUTF8 = .error e)
    (w : FileWriter) : (w.complete path text).run fs = (.error (.io path e), fs) := by
  have hfill := run_fill path text.toUTF8 fs
  rw [h] at hfill
  exact run_bind_error hfill

/-- A file can be written wherever the path leads to no directory, since it is unlocked before. -/
theorem run_overwrite (h : Writable fs path place) (w : FileWriter) (text : String) :
    ∃ fs', (w.overwrite path text).run fs = (.ok (), fs') ∧
      Written fs fs' place (.file (w.mode &&& 0o7777) text.toUTF8) := by
  rw [run_overwrite_eq]
  rcases hn : fs.node? place with _ | mode | ⟨mode, content⟩
  · have hs : ∃ e, fs.status path = .error e := by
      rcases hs : fs.status path with e | ⟨place', mode | ⟨mode, content⟩⟩
      · exact ⟨e, rfl⟩
      · obtain ⟨hl, hd⟩ := status_eq_ok_dir_iff.mp hs
        cases h.locate_eq.symm.trans hl
        cases hn.symm.trans hd
      · obtain ⟨hl, hf, -⟩ := status_eq_ok_file_iff.mp hs
        cases h.locate_eq.symm.trans hl
        cases hn.symm.trans hf
    obtain ⟨e, hs⟩ := hs
    rw [has_of_status_error hs h.deviceAt?_eq, if_neg Bool.false_ne_true]
    exact run_complete (h.openable_of_none hn) w text
  · exact absurd ⟨mode, hn⟩ h.not_hasDir
  · have hs : fs.status path = .ok (place, .file mode content) :=
      status_eq_ok_file_iff.mpr ⟨h.locate_eq, hn, h.endsInSlash_eq⟩
    have hmode := run_changeMode path writableMode fs
    rw [setMode_of_status hs] at hmode
    obtain ⟨fs', hrun, hw⟩ := run_complete (h.openable_put content) w text
    rw [if_pos (has_of_status_ok hs), run_bind_ok hmode]
    exact ⟨fs', hrun, (written_put _ _ _).trans hw⟩

/-- What a write that fails has done to the place of its path: nothing, unless there is a directory
or a device, which has been made writable for nothing. -/
inductive Unlocked (path : Path) (fs : FileSystem) : FileSystem → Prop where
  | nothing : Unlocked path fs fs
  | dir {place : Place} {mode : UInt32} :
      fs.locate path = .ok place → fs.node? place = some (.dir mode) →
      Unlocked path fs (fs.put place (.dir writableMode))
  | device {place : Place} {mode : UInt32} : fs.deviceAt? path = some (place, mode) →
      Unlocked path fs (fs.setDevice place writableMode)

theorem writableMode_and : writableMode &&& 0o7777 = writableMode := by decide

/-- A directory that is made writable can be searched by no more processes than before. -/
theorem keepsDirs_of_put_dir (hn : fs.node? place = some (.dir mode)) :
    KeepsDirs (fs.put place (.dir writableMode)) fs := by
  have hother {pl : Place} (hne : pl ≠ place) :
      (fs.put place (.dir writableMode)).node? pl = fs.node? pl := by
    rw [node?_put, if_neg hne]
  refine ⟨rfl, fun pl hd => ?_, fun pl hs => ?_⟩
  · by_cases he : pl = place
    · exact he ▸ ⟨mode, hn⟩
    · rw [HasDir, hother he] at hd
      exact hd
  · by_cases he : pl = place
    · obtain ⟨mode', hd, ha⟩ := hs
      rw [he, (written_put fs place _).node?_self] at hd
      cases hd
      refine he ▸ ⟨mode, hn, ?_⟩
      rw [allows, Bool.or_eq_true] at ha ⊢
      exact .inl (ha.resolve_right (by decide))
    · rw [Searchable, hother he] at hs
      exact hs

theorem store_put_dir (hl : fs.locate path = .ok place) (hn : fs.node? place = some (.dir mode))
    (content : ByteArray) :
    ∃ e, (fs.put place (.dir writableMode)).store path content = .error e := by
  rcases hs : (fs.put place (.dir writableMode)).store path content with e | fs'
  · exact ⟨e, rfl⟩
  · obtain ⟨place', hw⟩ := openable_of_store hs
    have hl' := (keepsDirs_of_put_dir hn).locate_eq hw.locate_eq
    obtain rfl : place = place' := Except.ok.inj (hl.symm.trans hl')
    exact absurd ⟨_, (written_put fs place _).node?_self⟩ hw.not_hasDir

/-- Where no file can be, the write fails, and at most something else has been unlocked. -/
theorem run_overwrite_error (h : ¬ ∃ place, Writable fs path place) (w : FileWriter)
    (text : String) :
    ∃ e fs', (w.overwrite path text).run fs = (.error e, fs') ∧ Unlocked path fs fs' := by
  have hmode := run_changeMode path writableMode fs
  rw [run_overwrite_eq]
  rcases hd : fs.deviceAt? path with _ | ⟨place, mode⟩
  · rcases hs : fs.status path with e | ⟨place, mode | ⟨mode, content⟩⟩
    · obtain ⟨e, hstore⟩ : ∃ e, fs.store path text.toUTF8 = .error e := by
        rcases hstore : fs.store path text.toUTF8 with e | fs'
        · exact ⟨e, rfl⟩
        · obtain ⟨place, hw⟩ := openable_of_store hstore
          exact absurd ⟨place, hw.toWritable⟩ h
      rw [has_of_status_error hs hd, if_neg Bool.false_ne_true]
      exact ⟨_, fs, run_complete_error hstore w, .nothing⟩
    · obtain ⟨hl, hn⟩ := status_eq_ok_dir_iff.mp hs
      obtain ⟨e, hstore⟩ := store_put_dir hl hn text.toUTF8
      rw [setMode_of_status hs, Node.withMode, writableMode_and] at hmode
      rw [if_pos (has_of_status_ok hs), run_bind_ok hmode]
      exact ⟨_, _, run_complete_error hstore w, .dir hl hn⟩
    · obtain ⟨hl, hn, hslash⟩ := status_eq_ok_file_iff.mp hs
      exact absurd ⟨place, .of_file hl hslash hn⟩ h
  · rw [setMode_of_deviceAt? hd, writableMode_and] at hmode
    rw [if_pos (has_of_deviceAt? hd), run_bind_ok hmode]
    exact ⟨_, _, run_complete_error (store_of_deviceAt? (deviceAt?_setDevice hd)) w, .device hd⟩

theorem writable_of_run_overwrite (h : (w.overwrite path text).run fs = (.ok (), fs')) :
    ∃ place, Writable fs path place := by
  refine Classical.byContradiction fun hw => ?_
  obtain ⟨e, fs₁, hrun, -⟩ := run_overwrite_error hw w text
  cases h.symm.trans hrun

/-- What is written: the directories above the file are made, and then the file. -/
theorem exists_written_of_run_write (h : (w.write path text).run fs = (.ok (), fs')) :
    ∃ fs₁ place, (prepare path).run fs = (.ok (), fs₁) ∧ Writable fs₁ path place ∧
      Written fs₁ fs' place (.file (w.mode &&& 0o7777) text.toUTF8) := by
  rw [write_eq] at h
  obtain ⟨⟨⟩, fs₁, hprep, hover⟩ := exists_of_run_bind_ok h
  obtain ⟨place, hw⟩ := writable_of_run_overwrite hover
  obtain ⟨fs₂, hover', hwritten⟩ := run_overwrite hw w text
  obtain rfl : fs' = fs₂ := congrArg Prod.snd (hover.symm.trans hover')
  exact ⟨fs₁, place, hprep, hw, hwritten⟩

theorem readText_of_run_write (h : (w.write path text).run fs = (.ok (), fs')) :
    fs'.asRoot.readText path = .ok text := by
  obtain ⟨fs₁, place, -, hw, hwritten⟩ := exists_written_of_run_write h
  have hlocate := (hwritten.keepsDirs hw.not_hasDir).locate_eq hw.locate_eq
  have hstatus : fs'.asRoot.status path = .ok (place, _) :=
    status_eq_ok_file_iff.mpr ⟨locate_asRoot hlocate, hwritten.node?_self, hw.endsInSlash_eq⟩
  have hread : fs'.asRoot.readBytes path = .ok text.toUTF8 :=
    readBytes_eq_ok_iff.mpr ⟨place, _, hstatus, rfl⟩
  exact readText_eq_ok_iff.mpr ⟨_, hread, fromUTF8?_toUTF8 text⟩

end Overwrite

end FileWriter

end Stencil
