import Stencil.Proofs.Output.Sequence

/-! # Failing writes

When a step of a write fails, the write ends there and what it has done stays: what was at the path
and has been made writable is left so, and a new file is left with the permissions that new files
have. Neither is what the write is for, which is to leave a file that nobody may write to.
-/

namespace Stencil.FileWriter

open FileSystem

variable {path : Path} {fs fs₁ fs₂ fs' : FileSystem} {place : Place} {mode mode' : UInt32}
  {content : ByteArray} {text : String} {w : FileWriter} {fault : Option WriteFault}
  {e : GenerationError}

section Steps

/-- The path leads to the place, and asks for no directory there. -/
structure LeadsTo (fs : FileSystem) (path : Path) (place : Place) : Prop where
  locate_eq : fs.locate path = .ok place
  endsInSlash_eq : endsInSlash path = false

theorem LeadsTo.unique {place' : Place} (h : LeadsTo fs path place)
    (h' : LeadsTo fs path place') : place = place' :=
  Except.ok.inj (h.locate_eq.symm.trans h'.locate_eq)

theorem LeadsTo.mono (h : LeadsTo fs path place) (hk : KeepsDirs fs fs') :
    LeadsTo fs' path place :=
  ⟨hk.locate_eq h.locate_eq, h.endsInSlash_eq⟩

/-- One file or device is given permissions, or is new with them. -/
structure SetsMode (fs fs' : FileSystem) (place : Place) (mode : UInt32) : Prop where
  keepsDirs : KeepsDirs fs fs'
  modeAt?_eq : ∀ place', fs'.modeAt? place' =
    if place' = place then some mode else fs.modeAt? place'

theorem SetsMode.modeAt?_self (h : SetsMode fs fs' place mode) : fs'.modeAt? place = some mode := by
  rw [h.modeAt?_eq, if_pos rfl]

theorem SetsMode.trans (h : SetsMode fs fs₁ place mode) (h' : SetsMode fs₁ fs' place mode') :
    SetsMode fs fs' place mode' := by
  refine ⟨h.keepsDirs.trans h'.keepsDirs, fun place' => ?_⟩
  rw [h'.modeAt?_eq, h.modeAt?_eq]
  split <;> rfl

theorem setsMode_put (h : ¬ fs.HasDir place) :
    SetsMode fs (fs.put place (.file mode content)) place mode :=
  ⟨(written_put fs place _).keepsDirs h, fun _ => modeAt?_put⟩

theorem exists_setMode (h : fs.has path = true) (mode : UInt32) :
    ∃ fs', fs.setMode path mode = .ok fs' ∧
      ((∃ place, fs.locate path = .ok place ∧ fs.HasDir place ∧
        fs' = fs.put place (.dir (mode &&& 0o7777))) ∨
      ∃ place, LeadsTo fs path place ∧ fs.modeAt? place ≠ none ∧
        SetsMode fs fs' place (mode &&& 0o7777)) := by
  rcases hd : fs.deviceAt? path with _ | ⟨place, old⟩
  · rcases hs : fs.status path with e | ⟨place, old | ⟨old, content⟩⟩
    · cases h.symm.trans (has_of_status_error hs hd)
    · obtain ⟨hl, hn⟩ := status_eq_ok_dir_iff.mp hs
      exact ⟨_, setMode_of_status hs mode, .inl ⟨place, hl, ⟨old, hn⟩, rfl⟩⟩
    · obtain ⟨hl, hn, hslash⟩ := status_eq_ok_file_iff.mp hs
      refine ⟨_, setMode_of_status hs mode, .inr ⟨place, ⟨hl, hslash⟩, ?_, setsMode_put ?_⟩⟩
      · simp [modeAt?_of_node? hn, Node.fileMode?]
      · exact not_hasDir_of_file hn
  · obtain ⟨hl, hdevice, hslash⟩ := deviceAt?_eq_some_iff.mp hd
    refine ⟨_, setMode_of_deviceAt? hd mode, .inr ⟨place, ⟨hl, hslash⟩, ?_, ?_⟩⟩
    · simp [modeAt?_of_device? hdevice]
    · exact ⟨keepsDirs_setDevice, fun _ => modeAt?_setDevice hdevice⟩

theorem keepsModes_run_prepare (path : Path) (fs : FileSystem) :
    KeepsModes fs ((prepare path).run fs).2 := by
  rw [run_prepare_eq]
  split
  · exact .refl fs
  · rcases path.parent? with _ | parent
    · exact .refl fs
    · dsimp only
      split
      · exact .refl fs
      · exact keepsModes_createDirsWithin fs parent (parent.chars.length + 2)

end Steps

section Complete

/-- Gives a file that is writable its content and its permissions, where each step may fail. -/
def completeWith (fault : Option WriteFault) (w : FileWriter) (path : Path) (text : String) :
    FileAction Unit := do
  fill fault path text.toUTF8
  changeMode (match fault with
    | some (.mode e) => some e
    | _ => none) path w.mode

def IsLate : Option WriteFault → Prop
  | some (.content ..) | some (.mode _) => True
  | _ => False

theorem IsLate.ne_unlock (h : IsLate fault) (e₀ : IoError) : fault ≠ some (.unlock e₀) := by
  rintro rfl
  exact h

theorem exists_of_store (h : fs.store path content = .ok fs') : ∃ place, Openable fs path place ∧
    ∃ kept, fs' = fs.put place (.file ((fs.modeAt? place).getD fs.newFileMode) kept) := by
  obtain ⟨place, hw⟩ := openable_of_store h
  exact ⟨place, hw, content, Except.ok.inj (h.symm.trans (store_of_openable hw content))⟩

theorem not_openable_of_store_error {e : IoError} (h : fs.store path content = .error e)
    (place : Place) : ¬ Openable fs path place :=
  fun hw => nomatch h.symm.trans (store_of_openable hw content)

theorem eq_of_complete_error (h : (w.complete path text).run fs = (.error e, fs')) : fs' = fs := by
  rcases hstore : fs.store path text.toUTF8 with e' | fs₁
  · exact congrArg Prod.snd (h.symm.trans (run_complete_error hstore w))
  · obtain ⟨place, hw⟩ := openable_of_store hstore
    obtain ⟨fs₂, hrun, -⟩ := run_complete hw w text
    cases h.symm.trans hrun

theorem run_fill_content (kept : Nat) (e₀ : IoError) (path : Path) (content : ByteArray)
    (fs : FileSystem) : ∃ e, (fill (some (.content kept e₀)) path content).run fs =
      (.error e, (orKeep fs (fs.store path (content.extract 0 kept))).2) := by
  unfold fill
  rw [run_bind_ok (rfl : (get : FileAction FileSystem).run fs = (.ok fs, fs))]
  unfold attempt orKeep
  dsimp only
  rcases fs.store path (content.extract 0 kept) with e | fs'
  · exact ⟨.io path e, rfl⟩
  · exact ⟨.io path e₀, rfl⟩

/-- A failure that comes late leaves the file, if it could be opened, with the permissions that it
had or those of a new file. -/
theorem completeWith_error (h : (w.completeWith fault path text).run fs = (.error e, fs')) :
    fs' = fs ∧ (¬ IsLate fault ∨ ∀ place, ¬ Openable fs path place) ∨
      IsLate fault ∧ ∃ place, Openable fs path place ∧
        ∃ kept, fs' = fs.put place (.file ((fs.modeAt? place).getD fs.newFileMode) kept) := by
  rcases fault with _ | e₀ | e₀ | ⟨kept, e₀⟩ | e₀
  · exact .inl ⟨eq_of_complete_error h, .inl id⟩
  · exact .inl ⟨eq_of_complete_error h, .inl id⟩
  · exact .inl ⟨(congrArg Prod.snd h).symm, .inl id⟩
  · obtain ⟨e', hfill⟩ := run_fill_content kept e₀ path text.toUTF8 fs
    obtain rfl := congrArg Prod.snd (h.symm.trans (run_bind_error hfill))
    rcases hstore : fs.store path (text.toUTF8.extract 0 kept) with e' | fs₁
    · exact .inl ⟨rfl, .inr (not_openable_of_store_error hstore)⟩
    · exact .inr ⟨trivial, exists_of_store hstore⟩
  · have hfill := run_fill path text.toUTF8 fs
    rcases hstore : fs.store path text.toUTF8 with e' | fs₁
    · rw [hstore] at hfill
      obtain rfl := congrArg Prod.snd (h.symm.trans (run_bind_error hfill))
      exact .inl ⟨rfl, .inr (not_openable_of_store_error hstore)⟩
    · rw [hstore] at hfill
      obtain rfl := congrArg Prod.snd (h.symm.trans (run_bind_ok hfill))
      exact .inr ⟨trivial, exists_of_store hstore⟩

end Complete

section Overwrite

/-- What is done to write a file once its directory is there, where each step may fail. -/
def overwriteWith (fault : Option WriteFault) (w : FileWriter) (path : Path) (text : String) :
    FileAction Unit := do
  if (← get).has path then
    changeMode (match fault with
      | some (.unlock e) => some e
      | _ => none) path writableMode
  w.completeWith fault path text

theorem writeWith_eq (fault : Option WriteFault) (w : FileWriter) (path : Path) (text : String) :
    w.writeWith fault path text = prepare path >>= fun _ => w.overwriteWith fault path text := rfl

theorem run_overwriteWith_eq (fault : Option WriteFault) (w : FileWriter) (path : Path)
    (text : String) (fs : FileSystem) : (w.overwriteWith fault path text).run fs =
      if fs.has path = true then
        (changeMode (match fault with
          | some (.unlock e) => some e
          | _ => none) path writableMode >>= fun _ => w.completeWith fault path text).run fs
      else (w.completeWith fault path text).run fs := by
  unfold overwriteWith
  rw [run_bind_ok (rfl : (get : FileAction FileSystem).run fs = (.ok fs, fs))]
  split <;> rfl

theorem modeAt?_of_not_has (hl : LeadsTo fs path place) (h : fs.has path = false) :
    fs.modeAt? place = none := by
  rcases hn : fs.node? place with _ | mode | ⟨mode, content⟩
  · rcases hd : fs.device? place with _ | mode
    · rw [modeAt?, hn, hd]
    · have hat := deviceAt?_eq_some_iff.mpr ⟨hl.locate_eq, hd, hl.endsInSlash_eq⟩
      cases h.symm.trans (has_of_deviceAt? hat)
  · rw [modeAt?_of_node? hn, Node.fileMode?]
  · have hs := status_eq_ok_file_iff.mpr ⟨hl.locate_eq, hn, hl.endsInSlash_eq⟩
    cases h.symm.trans (has_of_status_ok hs)

theorem modeAt?_of_hasDir (h : fs.HasDir place) : fs.modeAt? place = none := by
  obtain ⟨mode, hn⟩ := h
  rw [modeAt?_of_node? hn, Node.fileMode?]

theorem node?_eq_none_of_modeAt? (hd : ¬ fs.HasDir place) (h : fs.modeAt? place = none) :
    fs.node? place = none := by
  rcases hn : fs.node? place with _ | mode | ⟨mode, content⟩
  · rfl
  · exact absurd ⟨mode, hn⟩ hd
  · cases h.symm.trans (modeAt?_of_node? hn)

theorem keepsModes_put_dir (h : fs.HasDir place) : KeepsModes fs (fs.put place (.dir mode)) := by
  intro place'
  rw [modeAt?_put]
  by_cases he : place' = place
  · rw [if_pos he, he, modeAt?_of_hasDir h, Node.fileMode?]
  · rw [if_neg he]

theorem Writable.leadsTo (h : Writable fs path place) : LeadsTo fs path place :=
  ⟨h.locate_eq, h.endsInSlash_eq⟩

/-- A new file does not change whether files can be made in its directory. -/
theorem Writable.isSealed_put (h : Writable fs path place) (hn : fs.node? place = none) :
    (fs.put place (.file mode content)).isSealed place = false := by
  have hsealed := h.isSealed_eq hn
  unfold isSealed at hsealed ⊢
  rw [node?_put]
  by_cases he : place.dropLast = place
  · rw [if_pos he]
  · rw [if_neg he]
    exact hsealed

/-- Where a path leads to nothing a file can be made, unless the directory admits none. -/
theorem LeadsTo.openable_or (hl : LeadsTo fs path place) (hnew : fs.modeAt? place = none) :
    Openable fs path place ∨ fs.HasDir place ∨ fs.isSealed place = true := by
  unfold modeAt? at hnew
  rcases hn : fs.node? place with _ | mode | ⟨mode, content⟩
  · rw [hn] at hnew
    rcases hsealed : fs.isSealed place with _ | _
    · have hw : Writable fs path place :=
        ⟨hl.locate_eq, hl.endsInSlash_eq, not_hasDir_of_none hn, hnew, fun _ => hsealed⟩
      exact .inl (hw.openable_of_none hn)
    · exact .inr (.inr rfl)
  · exact .inr (.inl ⟨mode, hn⟩)
  · rw [hn] at hnew
    cases hnew

/-- What a failure leaves. Nothing is done to what stays locked, nor where no file is, unless one
can be made there and the failure comes late. What is opened has the permissions with which it can
be written, or is new. -/
inductive Left (fault : Option WriteFault) (path : Path) (fs fs' : FileSystem) : Prop where
  | locked {e₀ : IoError} : fault = some (.unlock e₀) → fs' = fs → Left fault path fs fs'
  | absent : (∀ place, LeadsTo fs path place → fs.modeAt? place = none ∧
      (¬ IsLate fault ∨ fs'.HasDir place ∨ fs'.isSealed place = true)) →
      KeepsModes fs fs' → Left fault path fs fs'
  | unlocked {place : Place} : (∀ e₀, fault ≠ some (.unlock e₀)) → LeadsTo fs path place →
      fs.modeAt? place ≠ none → SetsMode fs fs' place writableMode → Left fault path fs fs'
  | new {place : Place} : IsLate fault → LeadsTo fs path place → fs.modeAt? place = none →
      fs'.isSealed place = false → SetsMode fs fs' place fs.newFileMode → Left fault path fs fs'

/-- Where something is, the write fails at once if it stays locked, and else once it is unlocked. -/
theorem overwriteWith_error_of_has (hhas : fs.has path = true)
    (hmode : fs.setMode path writableMode = .ok fs₁)
    (h : (w.overwriteWith fault path text).run fs = (.error e, fs')) :
    (∃ e₀, fault = some (.unlock e₀)) ∧ fs' = fs ∨
      (∀ e₀, fault ≠ some (.unlock e₀)) ∧
        (w.completeWith fault path text).run fs₁ = (.error e, fs') := by
  rw [run_overwriteWith_eq, if_pos hhas] at h
  by_cases hf : ∃ e₀, fault = some (.unlock e₀)
  · obtain ⟨e₀, rfl⟩ := hf
    exact .inl ⟨⟨e₀, rfl⟩, (congrArg Prod.snd h).symm⟩
  · have hrun := run_changeMode path writableMode fs
    rw [hmode] at hrun
    refine .inr ⟨fun e₀ he => hf ⟨e₀, he⟩, ?_⟩
    rw [← h]
    split
    · exact absurd ⟨_, rfl⟩ hf
    · rw [run_bind_ok hrun]

/-- Where a file is to be new, it is if the failure comes when it is open. -/
theorem left_of_absent (hhas : fs.has path = false)
    (h : (w.completeWith fault path text).run fs = (.error e, fs')) : Left fault path fs fs' := by
  rcases completeWith_error h with ⟨rfl, hfault⟩ | ⟨hlate, place, hw, kept, hput⟩
  · refine .absent (fun place hl => ?_) (.refl fs')
    have hnone := modeAt?_of_not_has hl hhas
    refine ⟨hnone, ?_⟩
    rcases hl.openable_or hnone with hw | hother
    · exact .inl (hfault.resolve_right fun hnot => hnot place hw)
    · exact .inr hother
  · have hnew := modeAt?_of_not_has hw.leadsTo hhas
    rw [hnew] at hput
    subst hput
    have hnone := node?_eq_none_of_modeAt? hw.not_hasDir hnew
    exact .new hlate hw.leadsTo hnew (hw.isSealed_put hnone) (setsMode_put hw.not_hasDir)

/-- To a directory nothing is written, whatever its permissions are now. -/
theorem left_of_dir (hl : fs.locate path = .ok place) (hd : fs.HasDir place)
    (h : (w.completeWith fault path text).run (fs.put place (.dir writableMode)) =
      (.error e, fs')) :
    Left fault path fs fs' := by
  rcases completeWith_error h with ⟨rfl, -⟩ | ⟨-, place', hw, -⟩
  · refine .absent (fun place' hl' => ?_) (keepsModes_put_dir hd)
    obtain rfl : place = place' := Except.ok.inj (hl.symm.trans hl'.locate_eq)
    exact ⟨modeAt?_of_hasDir hd, .inr (.inl ⟨_, (written_put fs place _).node?_self⟩)⟩
  · obtain ⟨mode, hn⟩ := hd
    have hl' := (keepsDirs_of_put_dir hn).locate_eq hw.locate_eq
    obtain rfl : place = place' := Except.ok.inj (hl.symm.trans hl')
    exact absurd ⟨_, (written_put fs place _).node?_self⟩ hw.not_hasDir

theorem left_of_overwriteWith (h : (w.overwriteWith fault path text).run fs = (.error e, fs')) :
    Left fault path fs fs' := by
  rcases hhas : fs.has path with _ | _
  · rw [run_overwriteWith_eq, hhas, if_neg Bool.false_ne_true] at h
    exact left_of_absent hhas h
  · obtain ⟨fs₁, hmode, hcases⟩ := exists_setMode hhas writableMode
    rw [writableMode_and] at hcases
    rcases overwriteWith_error_of_has hhas hmode h with ⟨⟨e₀, hf⟩, rfl⟩ | ⟨hf, hcomplete⟩
    · exact .locked hf rfl
    · rcases hcases with ⟨place, hl, hd, rfl⟩ | ⟨place, hl, hold, hset⟩
      · exact left_of_dir hl hd hcomplete
      · refine .unlocked hf hl hold ?_
        rcases completeWith_error hcomplete with ⟨rfl, -⟩ | ⟨-, place', hw, kept, rfl⟩
        · exact hset
        · obtain rfl := (hl.mono hset.keepsDirs).unique hw.leadsTo
          rw [hset.modeAt?_self]
          exact hset.trans (setsMode_put hw.not_hasDir)

end Overwrite

section Failure

def writeBits : UInt32 := 0o222

/-- Whoever can write with the first permissions can do so with the second. -/
def AllowsNoMore (mode mode' : UInt32) : Prop :=
  mode &&& writeBits &&& mode' = mode &&& writeBits

instance (mode mode' : UInt32) : Decidable (AllowsNoMore mode mode') :=
  inferInstanceAs (Decidable (_ = _))

theorem AllowsNoMore.refl (mode : UInt32) : AllowsNoMore mode mode := by
  rw [AllowsNoMore, UInt32.and_comm, ← UInt32.and_assoc, UInt32.and_self]

/-- What the path leads to can be written to by no more users than before or, if it is new, than
with the permissions that it is meant to get. -/
def GainsNoWriter (w : FileWriter) (path : Path) (fs fs' : FileSystem) : Prop :=
  ∀ place mode, LeadsTo fs' path place → fs'.modeAt? place = some mode →
    AllowsNoMore mode ((fs.modeAt? place).getD w.mode)

/-- The write comes to open the file at the place: the directory of the file is there, and the file
is not left locked. -/
def Opens (fault : Option WriteFault) (path : Path) (fs : FileSystem) (place : Place) : Prop :=
  (∀ e₀, fault ≠ some (.unlock e₀)) ∧
    ∃ fs₁, (prepare path).run fs = (.ok (), fs₁) ∧ LeadsTo fs₁ path place

theorem Opens.leadsTo (h : Opens fault path fs place)
    (hprep : (prepare path).run fs = (.ok (), fs₁)) : LeadsTo fs₁ path place := by
  obtain ⟨-, fs₂, hprep', hl⟩ := h
  obtain rfl := congrArg Prod.snd (hprep.symm.trans hprep')
  exact hl

/-- What is done where the write comes to open a file: something old has the permissions with which
it can be written, and something new is there with those of new files if the failure comes late,
unless a directory is there or the one above it admits no new file. -/
inductive OpenedModes (fault : Option WriteFault) (fs fs' : FileSystem) (place : Place) : Prop where
  | old : fs.modeAt? place ≠ none → fs'.modeAt? place = some writableMode →
      OpenedModes fault fs fs' place
  | new : fs.modeAt? place = none → IsLate fault → fs'.isSealed place = false →
      fs'.modeAt? place = some fs.newFileMode → OpenedModes fault fs fs' place
  | none : fs.modeAt? place = none →
      (¬ IsLate fault ∨ fs'.HasDir place ∨ fs'.isSealed place = true) →
      fs'.modeAt? place = none → OpenedModes fault fs fs' place

/-- Nothing but what the write comes to open gets other permissions. -/
theorem modeAt?_of_error (h : (w.writeWith fault path text).run fs = (.error e, fs')) :
    (∀ place, ¬ Opens fault path fs place → fs'.modeAt? place = fs.modeAt? place) ∧
    ∀ place, Opens fault path fs place →
      OpenedModes fault fs fs' place ∧ (fs'.modeAt? place ≠ none → LeadsTo fs' path place) := by
  have hkept := keepsModes_run_prepare path fs
  have hmode : ((prepare path).run fs).2.newFileMode = fs.newFileMode := by
    rw [newFileMode, (grows_run_prepare path fs).setting_eq, newFileMode]
  rw [writeWith_eq] at h
  rcases hprep : (prepare path).run fs with ⟨e' | ⟨⟩, fs₁⟩ <;> rw [hprep] at hkept hmode
  · obtain rfl := congrArg Prod.snd (h.symm.trans (run_bind_error hprep))
    refine ⟨fun place _ => hkept place, fun place ⟨_, fs₂, hprep', _⟩ => ?_⟩
    cases hprep.symm.trans hprep'
  · rw [run_bind_ok hprep] at h
    cases left_of_overwriteWith h with
    | locked hf hfs =>
      subst hfs
      exact ⟨fun place _ => hkept place, fun place ho => absurd hf (ho.1 _)⟩
    | absent hnone hkept' =>
      refine ⟨fun place _ => (hkept.trans hkept') place, fun place ho => ?_⟩
      obtain ⟨hn, hfault⟩ := hnone place (ho.leadsTo hprep)
      have hn' := (hkept' place).trans hn
      exact ⟨.none ((hkept place).symm.trans hn) hfault hn', fun hne => absurd hn' hne⟩
    | unlocked hf hl hold hset =>
      refine ⟨fun other ho => ?_, fun other ho => ?_⟩
      · have hne : other ≠ _ := fun he => ho (he ▸ ⟨hf, fs₁, hprep, hl⟩)
        rw [hset.modeAt?_eq, if_neg hne, hkept]
      · obtain rfl := (ho.leadsTo hprep).unique hl
        exact ⟨.old (hkept other ▸ hold) hset.modeAt?_self, fun _ => hl.mono hset.keepsDirs⟩
    | new hlate hl hnew hsealed hset =>
      refine ⟨fun other ho => ?_, fun other ho => ?_⟩
      · have hne : other ≠ _ := fun he => ho (he ▸ ⟨hlate.ne_unlock, fs₁, hprep, hl⟩)
        rw [hset.modeAt?_eq, if_neg hne, hkept]
      · obtain rfl := (ho.leadsTo hprep).unique hl
        have hm := hmode ▸ hset.modeAt?_self
        exact ⟨.new (hkept other ▸ hnew) hlate hsealed hm, fun _ => hl.mono hset.keepsDirs⟩

theorem allowsNoMore_iff_of_openedModes (h : OpenedModes fault fs fs' place) :
    (∀ mode, fs'.modeAt? place = some mode →
      AllowsNoMore mode ((fs.modeAt? place).getD w.mode)) ↔
    match fs.modeAt? place with
    | some mode => AllowsNoMore writableMode mode
    | none => ¬ IsLate fault ∨ fs'.HasDir place ∨ fs'.isSealed place = true ∨
        AllowsNoMore fs.newFileMode w.mode := by
  cases h with
  | old hold hm =>
    obtain ⟨mode, hold⟩ := Option.ne_none_iff_exists'.mp hold
    simp [hold, hm]
  | new hnew hlate hsealed hm =>
    have hdir : ¬ fs'.HasDir place := fun hd => nomatch hm.symm.trans (modeAt?_of_hasDir hd)
    simp [hnew, hm, hlate, hdir, hsealed]
  | none hnew hfault hm =>
    rw [hnew]
    exact ⟨fun _ => hfault.imp_right (.imp_right .inl), fun _ mode he => nomatch hm.symm.trans he⟩

/-- What a write that fails leaves: nothing but what it has come to open has other permissions than
before, and that has those of `OpenedModes`. So the write makes nothing writable that was not or is
not meant to be, just if what was there could be written to by all before, and where nothing was,
the failure comes before the file is opened, or a directory is there, or the one above it admits no
new file, or the owner is meant to write to the file. -/
theorem failed_write_permissions
    (h : (w.writeWith fault path text).run fs = (.error e, fs')) :
    (∀ place, ¬ Opens fault path fs place → fs'.modeAt? place = fs.modeAt? place) ∧
    (∀ place, Opens fault path fs place → OpenedModes fault fs fs' place) ∧
    (GainsNoWriter w path fs fs' ↔ ∀ place, Opens fault path fs place →
      match fs.modeAt? place with
      | some mode => AllowsNoMore writableMode mode
      | none => ¬ IsLate fault ∨ fs'.HasDir place ∨ fs'.isSealed place = true ∨
          AllowsNoMore fs.newFileMode w.mode) := by
  obtain ⟨hothers, hopened⟩ := modeAt?_of_error h
  refine ⟨hothers, fun place ho => (hopened place ho).1, fun hgains place ho => ?_,
    fun hall place mode hl hm => ?_⟩
  · obtain ⟨hmodes, hl⟩ := hopened place ho
    exact (allowsNoMore_iff_of_openedModes hmodes).mp fun mode hm =>
      hgains place mode (hl (hm ▸ Option.some_ne_none mode)) hm
  · by_cases ho : Opens fault path fs place
    · exact (allowsNoMore_iff_of_openedModes (hopened place ho).1).mpr (hall place ho) mode hm
    · rw [← hothers place ho, hm]
      exact .refl mode

section Sample

def lockedFiles : FileSystem where
  entries := [(["out"], .dir 0o755), (["out", "f"], .file 0o444 "old".toUTF8)]
  workingDir := []
  privileged := false
  devices := [(["dev", "tty"], 0o444)]

def readOnly : FileWriter :=
  ofMode 0

theorem failed_write_permissions_sample : ∃ e fs',
    (readOnly.writeWith (some (.opening .denied)) (.ofString "out/f") "new").run lockedFiles =
      (.error e, fs') ∧
    fs'.modeAt? ["out", "f"] = some writableMode ∧
    fs'.modeAt? ["dev", "tty"] = some 0o444 ∧
    ¬ GainsNoWriter readOnly (.ofString "out/f") lockedFiles fs' := by
  obtain ⟨e, hrun⟩ := exists_error_of_toOption
    (p := (readOnly.writeWith (some (.opening .denied)) (.ofString "out/f") "new").run lockedFiles)
    (by decide +kernel)
  have hprep : (prepare (.ofString "out/f")).run lockedFiles =
      (.ok (), ((prepare (.ofString "out/f")).run lockedFiles).2) :=
    eq_mk_of_toOption (by decide +kernel)
  have hl : LeadsTo ((prepare (.ofString "out/f")).run lockedFiles).2 (.ofString "out/f")
      ["out", "f"] :=
    ⟨eq_ok_of_toOption (by decide +kernel), by decide +kernel⟩
  have ho : Opens (some (.opening .denied)) (.ofString "out/f") lockedFiles ["out", "f"] :=
    ⟨nofun, _, hprep, hl⟩
  have hother : ¬ Opens (some (.opening .denied)) (.ofString "out/f") lockedFiles ["dev", "tty"] :=
    fun h => absurd ((h.leadsTo hprep).unique hl) (by decide)
  obtain ⟨hothers, hopened, hgains⟩ := failed_write_permissions hrun
  have hold : lockedFiles.modeAt? ["out", "f"] = some 0o444 := by decide +kernel
  have hdevice : lockedFiles.modeAt? ["dev", "tty"] = some 0o444 := by decide +kernel
  refine ⟨e, _, hrun, ?_, (hothers _ hother).trans hdevice, fun h => ?_⟩
  · cases hopened _ ho with
    | old _ hm => exact hm
    | new hnew => cases hold.symm.trans hnew
    | none hnew => cases hold.symm.trans hnew
  · have hless := hgains.mp h _ ho
    rw [hold] at hless
    exact absurd hless (by decide)

/-- A device stays writable when its opening fails, and a new file when its content cannot be
written. -/
theorem not_gains_no_writer :
    (¬ ∀ (fault : Option WriteFault) (w : FileWriter) (path : Path) (text : String)
      (fs fs' : FileSystem) (e : GenerationError), fs.has path = true →
        (w.writeWith fault path text).run fs = (.error e, fs') → GainsNoWriter w path fs fs') ∧
    ¬ ∀ (fault : Option WriteFault) (w : FileWriter) (path : Path) (text : String)
      (fs fs' : FileSystem) (e : GenerationError), fs.has path = false →
        (w.writeWith fault path text).run fs = (.error e, fs') → GainsNoWriter w path fs fs' := by
  constructor
  · intro hall
    obtain ⟨e, hrun⟩ := exists_error_of_toOption
      (p := (readOnly.writeWith none (.ofString "/dev/tty") "x").run lockedFiles)
      (by decide +kernel)
    have hless := hall _ _ _ _ _ _ e (by decide +kernel) hrun ["dev", "tty"] 0o666
      ⟨eq_ok_of_toOption (by decide +kernel), by decide +kernel⟩ (by decide +kernel)
    exact absurd hless (by decide +kernel)
  · intro hall
    obtain ⟨e, hrun⟩ := exists_error_of_toOption
      (p := (readOnly.writeWith (some (.content 1 .denied)) (.ofString "out/g") "x").run
        lockedFiles)
      (by decide +kernel)
    have hless := hall _ _ _ _ _ _ e (by decide +kernel) hrun ["out", "g"] 0o644
      ⟨eq_ok_of_toOption (by decide +kernel), by decide +kernel⟩ (by decide +kernel)
    exact absurd hless (by decide +kernel)

end Sample

end Failure

end Stencil.FileWriter
