import Stencil.Proofs.Generation.Writing
import Stencil.Proofs.Path.Parent

/-! # Sequences of writes

A write that fails makes at most directories above its file, and gives a directory or device to
which its path leads the permissions of a file that is unlocked. One that succeeds makes the file as
well, or gives it its content and permissions anew. After a sequence of writes, some of which may
fail, each file that was written is as the last of the writes that have led to it made it.
-/

namespace Stencil.FileWriter

open FileSystem

variable {path : Path} {fs fs₁ fs₂ fs' : FileSystem} {place : Place} {mode : UInt32}
  {content : ByteArray} {text : String} {e : GenerationError}

section Write

theorem run_write_cases (w : FileWriter) (path : Path) (text : String) (fs : FileSystem) :
    ∃ fs₁, Grows (·.IsAncestor path) fs fs₁ ∧
      ((∃ e fs', (w.write path text).run fs = (.error e, fs') ∧ Unlocked path fs₁ fs') ∨
        ∃ fs' place, (w.write path text).run fs = (.ok (), fs') ∧ Writable fs₁ path place ∧
          Written fs₁ fs' place (.file (w.mode &&& 0o7777) text.toUTF8)) := by
  have hgrows := grows_run_prepare path fs
  rw [write_eq]
  rcases hprep : (prepare path).run fs with ⟨e | ⟨⟩, fs₁⟩ <;> rw [hprep] at hgrows
  · exact ⟨fs₁, hgrows, .inl ⟨e, fs₁, run_bind_error hprep, .nothing⟩⟩
  · rw [run_bind_ok hprep]
    refine ⟨fs₁, hgrows, ?_⟩
    by_cases hw : ∃ place, Writable fs₁ path place
    · obtain ⟨place, hw⟩ := hw
      obtain ⟨fs', hrun, hwritten⟩ := run_overwrite hw w text
      exact .inr ⟨fs', place, hrun, hw, hwritten⟩
    · exact .inl (run_overwrite_error hw w text)

theorem run_write_of_isDir (h : fs.isDir path = true) (w : FileWriter) (text : String) :
    (w.write path text).run fs = (.error (.outputIsDirectory path), fs) := by
  rw [write_eq, run_bind_error (run_prepare_of_isDir h)]

theorem Unlocked.node?_file_iff (h : Unlocked path fs fs') :
    fs'.node? place = some (.file mode content) ↔ fs.node? place = some (.file mode content) := by
  cases h with
  | nothing => rfl
  | @dir found old _ hn =>
    rw [node?_put]
    by_cases he : place = found
    · simp [he, hn]
    · rw [if_neg he]
  | device => rw [node?_setDevice]

theorem node?_file_iff_of_run_write {w : FileWriter}
    (h : (w.write path text).run fs = (.error e, fs')) :
    fs'.node? place = some (.file mode content) ↔ fs.node? place = some (.file mode content) := by
  obtain ⟨fs₁, hgrows, ⟨e', fs₂, hrun, hunlocked⟩ | ⟨fs₂, _, hrun, -⟩⟩ :=
    run_write_cases w path text fs
  · obtain rfl : fs' = fs₂ := congrArg Prod.snd (h.symm.trans hrun)
    exact hunlocked.node?_file_iff.trans hgrows.node?_file_iff
  · cases h.symm.trans hrun

/-- A file to which the path leads can be written again, whatever its permissions are. -/
theorem run_write_of_isFile (h : fs.isFile path = true) (w : FileWriter) (text : String) :
    ∃ fs', (w.write path text).run fs = (.ok (), fs') := by
  obtain ⟨place, mode, content, hs⟩ := isFile_iff.mp h
  obtain ⟨hl, hn, hslash⟩ := status_eq_ok_file_iff.mp hs
  have hw : Writable fs path place := .of_file hl hslash hn
  obtain ⟨fs', hrun, -⟩ := run_overwrite hw w text
  have hparent : HasParent fs path := fun parent => isDir_parent_of_isFile h
  refine ⟨fs', ?_⟩
  rw [write_eq, run_bind_ok (run_prepare_of_hasParent hw.isDir_eq hparent), hrun]

end Write

/-- A file to be written with the permissions that are configured for it. -/
structure Call where
  mode : UInt32
  path : Path
  text : String
  deriving DecidableEq

namespace Call

def write (c : Call) : FileAction Unit :=
  (ofMode c.mode).write c.path c.text

/-- What is at the place of a file once it is written. -/
def node (c : Call) : Node :=
  .file ((ofMode c.mode).mode &&& 0o7777) c.text.toUTF8

/-- The files after all the calls have been made, those that fail among them. -/
def after (fs : FileSystem) : List Call → FileSystem
  | [] => fs
  | c :: cs => after (c.write.run fs).2 cs

/-- The calls that succeed when all of them are made. -/
def successes (fs : FileSystem) : List Call → List Call
  | [] => []
  | c :: cs =>
    match c.write.run fs with
    | (.ok _, fs') => c :: successes fs' cs
    | (.error _, fs') => successes fs' cs

/-- The path of one of the calls leads to the place, permissions aside. -/
def Reaches (cs : List Call) (fs : FileSystem) (place : Place) : Prop :=
  ∃ c ∈ cs, fs.asRoot.locate c.path = .ok place

/-- A path above one that is to be written leads to the place, permissions aside. -/
def ReachesAbove (cs : List Call) (fs : FileSystem) (place : Place) : Prop :=
  ∃ c ∈ cs, ∃ q : Path, q.IsAncestor c.path ∧ fs.asRoot.locate q = .ok place

/-- The call is the last one whose path leads to the place. -/
def IsLastAt (fs : FileSystem) (cs : List Call) (place : Place) (c : Call) : Prop :=
  ∃ before later, cs = before ++ c :: later ∧ fs.asRoot.locate c.path = .ok place ∧
    ¬ Reaches later fs place

/-- A directory is new above a path that is to be written, or the path of a call leads to a
directory, which then is given the permissions of a file that is unlocked. -/
structure TouchesDir (cs : List Call) (fs fs' : FileSystem) (place : Place) (mode : UInt32) : Prop
    where
  node?_eq : fs'.node? place = some (.dir mode)
  old_or_above : fs.HasDir place ∨ fs.node? place = none ∧ ReachesAbove cs fs' place
  new_or_unlocked : fs.node? place = none ∧ mode = fs.newDirMode ∨
    Reaches cs fs' place ∧ mode = writableMode

/-- At the place nothing changes but a directory. -/
def Spares (cs : List Call) (fs fs' : FileSystem) (place : Place) : Prop :=
  fs'.node? place = fs.node? place ∨ ∃ mode, TouchesDir cs fs fs' place mode

/-- A device stays as it is, unless the path of a call leads to it. -/
def SparesDevice (cs : List Call) (fs fs' : FileSystem) (place : Place) : Prop :=
  fs'.devices.lookup place = fs.devices.lookup place ∨ Reaches cs fs' place ∧
    fs.devices.lookup place ≠ none ∧ fs'.devices.lookup place = some writableMode

/-- What calls come to, if those in `done` are the ones that succeed. The path of each of these
leads to a file, which is as the last of them there has written it. No other file changes, and no
other is new. -/
structure Outcome (cs done : List Call) (fs fs' : FileSystem) : Prop where
  setting_eq : fs'.toSetting = { fs.toSetting with devices := fs'.devices }
  keepsDirs : KeepsDirs fs.asRoot fs'.asRoot
  last : ∀ c ∈ done, ∃ place d, IsLastAt fs' done place d ∧
    fs'.asRoot.status c.path = .ok (place, d.node)
  others : ∀ place, ¬ Reaches done fs' place → Spares cs fs fs' place
  devices : ∀ place, SparesDevice cs fs fs' place

variable {c d : Call} {cs done : List Call}

section Effects

theorem Reaches.mono (h : Reaches cs fs place) (hk : KeepsDirs fs.asRoot fs'.asRoot) :
    Reaches cs fs' place := by
  obtain ⟨c, hc, hl⟩ := h
  exact ⟨c, hc, hk.locate_eq hl⟩

theorem Reaches.of_subset {cs' : List Call} (h : Reaches cs fs place) (hsub : cs ⊆ cs') :
    Reaches cs' fs place := by
  obtain ⟨c, hc, hl⟩ := h
  exact ⟨c, hsub hc, hl⟩

theorem ReachesAbove.mono (h : ReachesAbove cs fs place) (hk : KeepsDirs fs.asRoot fs'.asRoot) :
    ReachesAbove cs fs' place := by
  obtain ⟨c, hc, q, hq, hl⟩ := h
  exact ⟨c, hc, q, hq, hk.locate_eq hl⟩

theorem ReachesAbove.of_subset {cs' : List Call} (h : ReachesAbove cs fs place)
    (hsub : cs ⊆ cs') : ReachesAbove cs' fs place := by
  obtain ⟨c, hc, hq⟩ := h
  exact ⟨c, hsub hc, hq⟩

/-- A directory is touched by what is done first or by what is done then, or by both. -/
theorem Spares.trans (h : Spares cs fs fs₁ place) (h' : Spares cs fs₁ fs' place)
    (hmode : fs₁.newDirMode = fs.newDirMode) (hk : KeepsDirs fs₁.asRoot fs'.asRoot) :
    Spares cs fs fs' place := by
  rcases h with he | ⟨mode, hd, hold, hnew⟩
  · rcases h' with he' | ⟨mode', hd', hold', hnew'⟩
    · exact .inl (he'.trans he)
    · rw [HasDir, he] at hold'
      rw [he, hmode] at hnew'
      exact .inr ⟨mode', hd', hold', hnew'⟩
  · have hold₁ : fs.HasDir place ∨ fs.node? place = none ∧ ReachesAbove cs fs' place :=
      hold.imp_right (And.imp_right fun ha => ha.mono hk)
    rcases h' with he' | ⟨mode', hd', -, ⟨hnone, -⟩ | hunlocked⟩
    · have hnew₁ := hnew.imp_right (And.imp_left fun hr => Reaches.mono hr hk)
      exact .inr ⟨mode, he'.trans hd, hold₁, hnew₁⟩
    · cases hd.symm.trans hnone
    · exact .inr ⟨mode', hd', hold₁, .inr hunlocked⟩

theorem SparesDevice.trans (h : SparesDevice cs fs fs₁ place)
    (h' : SparesDevice cs fs₁ fs' place) (hk : KeepsDirs fs₁.asRoot fs'.asRoot) :
    SparesDevice cs fs fs' place := by
  rcases h with he | ⟨hr, hne, hd⟩
  · rw [SparesDevice, ← he]
    exact h'
  · rcases h' with he' | ⟨hr', -, hd'⟩
    · exact .inr ⟨hr.mono hk, hne, he'.trans hd⟩
    · exact .inr ⟨hr', hne, hd'⟩

end Effects

namespace Outcome

theorem nil (fs : FileSystem) : Outcome [] [] fs fs where
  setting_eq := rfl
  keepsDirs := .refl fs.asRoot
  last _ hc := absurd hc List.not_mem_nil
  others _ _ := .inl rfl
  devices _ := .inl rfl

theorem newDirMode_eq (h : Outcome cs done fs fs') : fs'.newDirMode = fs.newDirMode := by
  rw [newDirMode, h.setting_eq, newDirMode]

theorem of_subset {cs' : List Call} (h : Outcome cs done fs fs') (hsub : cs ⊆ cs') :
    Outcome cs' done fs fs' where
  setting_eq := h.setting_eq
  keepsDirs := h.keepsDirs
  last := h.last
  others place hplace := (h.others place hplace).imp_right fun ⟨mode, hd, hold, hnew⟩ =>
    ⟨mode, hd, hold.imp_right fun ⟨hn, ha⟩ => ⟨hn, ha.of_subset hsub⟩,
      hnew.imp_right fun ⟨hr, hm⟩ => ⟨hr.of_subset hsub, hm⟩⟩
  devices place := (h.devices place).imp_right fun ⟨hr, hd⟩ => ⟨hr.of_subset hsub, hd⟩

theorem trans (h : Outcome cs [] fs fs₁) (h' : Outcome cs done fs₁ fs') :
    Outcome cs done fs fs' where
  setting_eq := by rw [h'.setting_eq, h.setting_eq]
  keepsDirs := h.keepsDirs.trans h'.keepsDirs
  last := h'.last
  others place hplace :=
    (h.others place fun ⟨_, hc, _⟩ => absurd hc List.not_mem_nil).trans (h'.others place hplace)
      h.newDirMode_eq h'.keepsDirs
  devices place := (h.devices place).trans (h'.devices place) h'.keepsDirs

theorem of_grows (hg : Grows (·.IsAncestor c.path) fs fs') : Outcome [c] [] fs fs' where
  setting_eq := by rw [hg.setting_eq]
  keepsDirs := hg.keepsDirs.asRoot
  last _ hc := absurd hc List.not_mem_nil
  others place _ := by
    rcases hg.growsAt place with he | ⟨hn, hd, q, hq, hl⟩
    · exact .inl he
    · exact .inr ⟨_, hd, .inr ⟨hn, c, List.mem_cons_self, q, hq, locate_asRoot hl⟩, .inl ⟨hn, rfl⟩⟩
  devices place := .inl (by rw [hg.setting_eq])

theorem of_unlocked (h : Unlocked c.path fs fs') : Outcome [c] [] fs fs' := by
  cases h with
  | nothing => exact (nil fs).of_subset (List.nil_subset [c])
  | @dir found old hl hn =>
    have hkeeps : KeepsDirs fs.asRoot (fs.put found (.dir writableMode)).asRoot := by
      refine keepsDirs_asRoot_iff.mpr ⟨rfl, fun place hd => ?_⟩
      rw [HasDir, node?_put]
      split
      · exact ⟨writableMode, rfl⟩
      · exact hd
    refine ⟨rfl, hkeeps, fun _ hc => absurd hc List.not_mem_nil, fun place _ => ?_,
      fun _ => .inl rfl⟩
    by_cases he : place = found
    · subst he
      exact .inr ⟨writableMode, (written_put fs place _).node?_self, .inl ⟨old, hn⟩,
        .inr ⟨⟨c, List.mem_cons_self, hkeeps.locate_eq (locate_asRoot hl)⟩, rfl⟩⟩
    · exact .inl (by rw [node?_put, if_neg he])
  | @device found old hd =>
    have hkeeps : KeepsDirs fs.asRoot (fs.setDevice found writableMode).asRoot :=
      keepsDirs_setDevice.asRoot
    obtain ⟨hl, hdevice, -⟩ := deviceAt?_eq_some_iff.mp hd
    refine ⟨rfl, hkeeps, fun _ hc => absurd hc List.not_mem_nil,
      fun _ _ => .inl node?_setDevice, fun place => ?_⟩
    have hlookup : (fs.setDevice found writableMode).devices.lookup place =
        if place = found then (fs.devices.lookup found).map fun _ => writableMode
        else fs.devices.lookup place := lookup_map_ite fs.devices
    by_cases he : place = found
    · subst he
      have hold := (device?_eq_some_iff.mp hdevice).2
      rw [if_pos rfl, hold] at hlookup
      have hreaches := hkeeps.locate_eq (locate_asRoot hl)
      exact .inr ⟨⟨c, List.mem_cons_self, hreaches⟩, by simp [hold], hlookup⟩
    · rw [if_neg he] at hlookup
      exact .inl hlookup

/-- What a call has written stays until a later call writes to the same place. -/
theorem exists_last_of_located (h : Outcome cs done fs fs')
    (hl : fs'.asRoot.locate c.path = .ok place) (hslash : endsInSlash c.path = false)
    (hn : fs.node? place = some c.node) :
    ∃ d, IsLastAt fs' (c :: done) place d ∧ fs'.asRoot.status c.path = .ok (place, d.node) := by
  by_cases hlater : Reaches done fs' place
  · obtain ⟨d, hd, hld⟩ := hlater
    obtain ⟨pl, last, ⟨before, later, hsplit, hlast⟩, hstatus⟩ := h.last d hd
    obtain ⟨hpl, hne, -⟩ := status_eq_ok_file_iff.mp hstatus
    obtain rfl : place = pl := Except.ok.inj (hld.symm.trans hpl)
    exact ⟨last, ⟨c :: before, later, by rw [hsplit, List.cons_append], hlast⟩,
      status_eq_ok_file_iff.mpr ⟨hl, hne, hslash⟩⟩
  · have hnode : fs'.node? place = some c.node := by
      rcases h.others place hlater with heq | ⟨mode, -, ⟨old, hd⟩ | ⟨hnew, -⟩, -⟩
      · exact heq.trans hn
      · cases hd.symm.trans hn
      · cases hnew.symm.trans hn
    exact ⟨c, ⟨[], done, rfl, hl, hlater⟩, status_eq_ok_file_iff.mpr ⟨hl, hnode, hslash⟩⟩

/-- A call writes a file, and others come after it. -/
theorem of_written (hw : Writable fs c.path place) (hwritten : Written fs fs₁ place c.node)
    (h : Outcome cs done fs₁ fs') : Outcome (c :: cs) (c :: done) fs fs' := by
  have hfirst : KeepsDirs fs fs₁ := hwritten.keepsDirs hw.not_hasDir
  have hl : fs'.asRoot.locate c.path = .ok place :=
    h.keepsDirs.locate_eq (locate_asRoot (hfirst.locate_eq hw.locate_eq))
  have hafter := h.of_subset (List.subset_cons_self c cs)
  refine ⟨by rw [h.setting_eq, hwritten.setting_eq], hfirst.asRoot.trans h.keepsDirs,
    fun d hd => ?_, fun pl hpl => ?_, fun pl => ?_⟩
  · rcases List.mem_cons.mp hd with rfl | hd
    · exact ⟨place, h.exists_last_of_located hl hw.endsInSlash_eq hwritten.node?_self⟩
    · obtain ⟨pl, last, ⟨before, later, hsplit, hlast⟩, hstatus⟩ := h.last d hd
      exact ⟨pl, last, ⟨c :: before, later, by rw [hsplit, List.cons_append], hlast⟩, hstatus⟩
  · have hne : pl ≠ place := by
      rintro rfl
      exact hpl ⟨c, List.mem_cons_self, hl⟩
    have hkept : Spares (c :: cs) fs fs₁ pl := .inl (by rw [hwritten.node?_eq, if_neg hne])
    refine hkept.trans (hafter.others pl fun hr => hpl (hr.of_subset ?_)) ?_ h.keepsDirs
    · exact List.subset_cons_self c done
    · rw [newDirMode, hwritten.setting_eq, newDirMode]
  · have hkept : SparesDevice (c :: cs) fs fs₁ pl := .inl (by rw [hwritten.setting_eq])
    exact hkept.trans (hafter.devices pl) h.keepsDirs

end Outcome

/-- What a sequence of calls comes to, by what each of them does. -/
theorem outcome (cs : List Call) (fs : FileSystem) :
    Outcome cs (successes fs cs) fs (after fs cs) := by
  induction cs generalizing fs with
  | nil => exact .nil fs
  | cons c cs ih =>
    have hone : [c] ⊆ c :: cs := List.cons_subset_cons c (List.nil_subset cs)
    -- directories are made first; then a failure has unlocked something, or a file is written
    obtain ⟨fs₁, hgrows, ⟨e, fs', hrun, hunlocked⟩ | ⟨fs', place, hrun, hw, hwritten⟩⟩ :=
      run_write_cases (ofMode c.mode) c.path c.text fs
    · have hwrite : c.write.run fs = (.error e, fs') := hrun
      rw [successes, after, hwrite]
      exact (((Outcome.of_grows hgrows).trans (.of_unlocked hunlocked)).of_subset hone).trans
        ((ih fs').of_subset (List.subset_cons_self c cs))
    · have hwrite : c.write.run fs = (.ok (), fs') := hrun
      rw [successes, after, hwrite]
      exact ((Outcome.of_grows hgrows).of_subset hone).trans (.of_written hw hwritten (ih fs'))

/-- A write to a directory is refused and changes nothing, one that fails leaves every file as it
is, and one to a file to which its path leads succeeds. When writes are made one after the other,
the path of each that succeeds leads to what the last of those that have led to the same file has
written; elsewhere directories above the files are new, and directories and devices to which a path
led have the permissions with which files are unlocked. -/
theorem sequence_keeps_last_writes (fs : FileSystem) :
    (∀ c : Call, fs.isDir c.path = true →
      c.write.run fs = (.error (.outputIsDirectory c.path), fs)) ∧
    (∀ (c : Call) (e : GenerationError) (fs' : FileSystem), c.write.run fs = (.error e, fs') →
      ∀ place mode content, fs'.node? place = some (.file mode content) ↔
        fs.node? place = some (.file mode content)) ∧
    (∀ c : Call, fs.isFile c.path = true → ∃ fs', c.write.run fs = (.ok (), fs')) ∧
    ∀ cs : List Call, Outcome cs (successes fs cs) fs (after fs cs) :=
  ⟨fun c hd => run_write_of_isDir hd (ofMode c.mode) c.text,
    fun _ _ _ hrun _ _ _ => node?_file_iff_of_run_write hrun,
    fun c hf => run_write_of_isFile hf (ofMode c.mode) c.text, fun cs => outcome cs fs⟩

section Sample

def call (mode : UInt32) (path text : String) : Call :=
  ⟨mode, .ofString path, text⟩

/-- The files of an ordinary user, one of them locked. -/
def sampleFiles : FileSystem where
  entries := [(["out"], .dir 0o755), (["out", "f"], .file 0o444 "old".toUTF8)]
  workingDir := []
  privileged := false
  devices := [(["dev", "tty"], 0o444)]

def sampleCalls : List Call :=
  [call 0 "out/f" "new", call 0 "out" "x", call 0o755 "out/d/g" "g", call 0 "out/f/h" "x"]

theorem sequence_keeps_last_writes_sample :
    (call 0 "out" "x").write.run sampleFiles =
      (.error (.outputIsDirectory (.ofString "out")), sampleFiles) ∧
    (∀ place mode content,
      ((call 0 "out/f/h" "x").write.run sampleFiles).2.node? place =
        some (.file mode content) ↔ sampleFiles.node? place = some (.file mode content)) ∧
    (∃ fs', (call 0 "out/f" "new").write.run sampleFiles = (.ok (), fs')) ∧
    Outcome sampleCalls (successes sampleFiles sampleCalls) sampleFiles
      (after sampleFiles sampleCalls) := by
  obtain ⟨hdir, herror, hfile, hsequence⟩ := sequence_keeps_last_writes sampleFiles
  refine ⟨hdir (call 0 "out" "x") (by decide +kernel), ?_,
    hfile (call 0 "out/f" "new") (by decide +kernel), hsequence sampleCalls⟩
  have hfails : ((call 0 "out/f/h" "x").write.run sampleFiles).1.toOption = none := by
    decide +kernel
  rcases hrun : (call 0 "out/f/h" "x").write.run sampleFiles with ⟨e | ⟨⟩, fs'⟩
  · exact herror _ e fs' hrun
  · rw [hrun] at hfails
    cases hfails

def emptyFiles : FileSystem where
  entries := []
  workingDir := []

def aliasedCalls : List Call :=
  [call 0 "out/f" "A", call 0 "./out/f" "B"]

/-- A path that enters a directory made for it and leaves it again, so that it leads to the
directory above. -/
def climbingCalls : List Call :=
  [call 0 "out/new/.." "x"]

/-- Whether a call fails because its path is a directory. -/
def isRefused (c : Call) (fs : FileSystem) : Bool :=
  match (c.write.run fs).1 with
  | .error (.outputIsDirectory _) => true
  | _ => false

/-- What is written under a path is lost to a later write under another path to the same file, and
of the configured permissions a file has no more than its own bits. A write that fails can change
the permissions of a device, and those of a directory, so that no path leads through it any more. -/
theorem not_path_keeps_own_write :
    (¬ ∀ (fs : FileSystem) (cs before later : List Call) (c : Call),
      successes fs cs = before ++ c :: later → (∀ d ∈ later, d.path ≠ c.path) →
        ∃ place, (after fs cs).status c.path = .ok (place, c.node)) ∧
    (¬ ∀ (fs fs' : FileSystem) (c : Call), c.write.run fs = (.ok (), fs') →
      ∃ place, fs'.status c.path = .ok (place, .file (ofMode c.mode).mode c.text.toUTF8)) ∧
    (¬ ∀ (fs fs' : FileSystem) (c : Call) (e : GenerationError),
      c.write.run fs = (.error e, fs') → ∀ place, fs'.device? place = fs.device? place) ∧
    (¬ ∀ (fs : FileSystem) (cs : List Call) (c : Call), (after fs cs).asRoot.isFile c.path = true →
      ∃ fs', c.write.run (after fs cs) = (.ok (), fs')) ∧
    ¬ ∀ (fs : FileSystem) (cs : List Call) (c : Call), (after fs cs).asRoot.isDir c.path = true →
      c.write.run (after fs cs) = (.error (.outputIsDirectory c.path), after fs cs) := by
  refine ⟨fun hall => ?_, fun hall => ?_, fun hall => ?_, fun hall => ?_, fun hall => ?_⟩
  · have hsuccesses : successes emptyFiles aliasedCalls = [] ++ aliasedCalls := by decide +kernel
    obtain ⟨place, hstatus⟩ := hall emptyFiles aliasedCalls [] _ _ hsuccesses (by decide +kernel)
    have hread : (after emptyFiles aliasedCalls).readText (.ofString "out/f") = .ok "A" :=
      readText_eq_ok_iff.mpr ⟨_, readBytes_eq_ok_iff.mpr ⟨place, _, hstatus, by decide +kernel⟩,
        fromUTF8?_toUTF8 "A"⟩
    have hlast : ((after emptyFiles aliasedCalls).readText (.ofString "out/f")).toOption =
        some "B" := by decide +kernel
    rw [hread] at hlast
    exact absurd (Option.some.inj hlast) (by decide)
  · have hrun : (call 0o10644 "f" "A").write.run emptyFiles =
        (.ok (), ((call 0o10644 "f" "A").write.run emptyFiles).2) :=
      eq_mk_of_toOption (by decide +kernel)
    obtain ⟨place, hstatus⟩ := hall _ _ _ hrun
    obtain ⟨hl, hn, -⟩ := status_eq_ok_file_iff.mp hstatus
    obtain ⟨fs₁, written, -, hw, hwritten⟩ := exists_written_of_run_write hrun
    have hl' := (hwritten.keepsDirs hw.not_hasDir).locate_eq hw.locate_eq
    obtain rfl : place = written := Except.ok.inj (hl.symm.trans hl')
    have hmode := (Node.file.inj (Option.some.inj (hn.symm.trans hwritten.node?_self))).1
    exact absurd hmode (by decide)
  · obtain ⟨e, hrun⟩ := exists_error_of_toOption
      (p := (call 0 "/dev/tty" "x").write.run sampleFiles) (by decide +kernel)
    have hmode := hall _ _ _ e hrun ["dev", "tty"]
    revert hmode
    decide +kernel
  · obtain ⟨fs', hrun⟩ := hall sampleFiles climbingCalls (call 0 "out/f" "A") (by decide +kernel)
    have hdenied : ((call 0 "out/f" "A").write.run (after sampleFiles climbingCalls)).1.toOption =
        none := by decide +kernel
    rw [hrun] at hdenied
    cases hdenied
  · have hrun := hall sampleFiles climbingCalls (call 0 "out/new" "A") (by decide +kernel)
    have hother : isRefused (call 0 "out/new" "A") (after sampleFiles climbingCalls) = false := by
      decide +kernel
    rw [isRefused, hrun] at hother
    cases hother

end Sample

end Call

end Stencil.FileWriter
