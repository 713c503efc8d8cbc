import Stencil.Proofs.FileSystem.Evolution

/-! # Permissions

Files and devices have permissions. Making directories leaves them as they are, and everything else
changes those of one file or device at most. A device is never written to: all that can be changed
of it are its permissions.
-/

namespace Stencil

def Node.fileMode? : Node → Option UInt32
  | .dir _ => none
  | .file mode _ => some mode

namespace FileSystem

variable {fs fs' fs'' : FileSystem} {P : Path → Prop} {place place' : Place} {n : Node} {p : Path}
  {mode old : UInt32} {content : ByteArray} {device : Place × UInt32}

section Devices

theorem device?_eq_some_iff : fs.device? place = some mode ↔
    fs.node? place = none ∧ fs.devices.lookup place = some mode := by
  unfold device?
  rcases fs.node? place with _ | n <;> simp

theorem device?_eq_none (h : fs.node? place = some n) : fs.device? place = none := by
  simp [device?, h]

theorem deviceAt?_eq_some_iff : fs.deviceAt? p = some (place, mode) ↔
    fs.locate p = .ok place ∧ fs.device? place = some mode ∧ endsInSlash p = false := by
  unfold deviceAt?
  rcases fs.locate p with e | found
  · simp [Except.toOption]
  · rcases hd : fs.device? found with _ | old <;> simp only [Except.toOption] <;> grind

theorem has_of_deviceAt? (h : fs.deviceAt? p = some device) :
    fs.has p = true := by
  simp [has, h]

theorem fixedDirs_setDevice : (fs.setDevice place mode).fixedDirs = fs.fixedDirs := by
  simp only [fixedDirs, setDevice, List.map_map]
  congr 1
  refine List.map_congr_left fun d _ => ?_
  by_cases h : d.1 = place <;> simp [h]

@[simp]
theorem node?_setDevice : (fs.setDevice place mode).node? place' = fs.node? place' := by
  rw [node?, fixedDirs_setDevice]
  rfl

theorem keepsDirs_setDevice : KeepsDirs fs (fs.setDevice place mode) := by
  refine ⟨rfl, fun pl ⟨old, hn⟩ => ⟨old, ?_⟩, fun pl ⟨old, hn, ha⟩ => ⟨old, ?_, ha⟩⟩
  · rwa [node?_setDevice]
  · rwa [node?_setDevice]

theorem lookup_map_ite (l : List (Place × UInt32)) :
    (l.map fun d => if d.1 == place then (place, mode) else d).lookup place' =
      if place' = place then (l.lookup place).map fun _ => mode else l.lookup place' := by
  induction l with
  | nil => simp
  | cons d l ih =>
    obtain ⟨there, old⟩ := d
    by_cases h : there = place
    · by_cases h' : place' = place
      · simp [h, h']
      · simpa [h, h', List.lookup_cons, beq_false_of_ne h'] using ih
    · by_cases h' : place' = there
      · simp [h, h']
      · simpa [h, List.lookup_cons, beq_false_of_ne h', beq_false_of_ne (Ne.symm h)] using ih

theorem device?_setDevice (h : fs.device? place = some old) :
    (fs.setDevice place mode).device? place' =
      if place' = place then some mode else fs.device? place' := by
  obtain ⟨hn, hl⟩ := device?_eq_some_iff.mp h
  unfold device?
  rw [node?_setDevice, setDevice, lookup_map_ite, hl]
  by_cases he : place' = place
  · simp [he, hn]
  · simp [he]

theorem deviceAt?_setDevice (h : fs.deviceAt? p = some (place, old)) :
    (fs.setDevice place mode).deviceAt? p = some (place, mode) := by
  obtain ⟨hl, hd, hslash⟩ := deviceAt?_eq_some_iff.mp h
  exact deviceAt?_eq_some_iff.mpr
    ⟨keepsDirs_setDevice.locate_eq hl, (device?_setDevice hd).trans (if_pos rfl), hslash⟩

theorem store_of_deviceAt? (h : fs.deviceAt? p = some (place, mode)) :
    fs.store p content = .error (fs.refusal ownerWrite mode .noDevice) := by
  obtain ⟨hl, hd, hslash⟩ := deviceAt?_eq_some_iff.mp h
  have hn := (device?_eq_some_iff.mp hd).1
  simp [store, hl, hd, hn, hslash, bind, Except.bind]

end Devices

section Modes

def modeAt? (fs : FileSystem) (place : Place) : Option UInt32 :=
  match fs.node? place with
  | some n => n.fileMode?
  | none => fs.device? place

/-- Every file and device has the permissions that it had, and none is new. -/
def KeepsModes (fs fs' : FileSystem) : Prop :=
  ∀ place, fs'.modeAt? place = fs.modeAt? place

theorem modeAt?_of_node? (h : fs.node? place = some n) : fs.modeAt? place = n.fileMode? := by
  rw [modeAt?, h]

theorem modeAt?_of_device? (h : fs.device? place = some mode) : fs.modeAt? place = some mode := by
  rw [modeAt?, (device?_eq_some_iff.mp h).1, h]

theorem device?_put : (fs.put place n).device? place' =
    if place' = place then none else fs.device? place' := by
  rw [device?, node?_put]
  by_cases he : place' = place
  · rw [if_pos he, if_pos he]
  · rw [if_neg he, if_neg he]
    rfl

theorem modeAt?_put : (fs.put place n).modeAt? place' =
    if place' = place then n.fileMode? else fs.modeAt? place' := by
  rw [modeAt?, node?_put, device?_put]
  by_cases he : place' = place
  · rw [if_pos he, if_pos he, if_pos he]
  · rw [if_neg he, if_neg he, if_neg he]
    rfl

theorem modeAt?_setDevice (h : fs.device? place = some old) :
    (fs.setDevice place mode).modeAt? place' =
      if place' = place then some mode else fs.modeAt? place' := by
  rw [modeAt?, node?_setDevice, device?_setDevice h]
  by_cases he : place' = place
  · rw [he, (device?_eq_some_iff.mp h).1, if_pos rfl, if_pos rfl]
  · rw [if_neg he, if_neg he]
    rfl

theorem KeepsModes.refl (fs : FileSystem) : KeepsModes fs fs :=
  fun _ => rfl

theorem KeepsModes.trans (h : KeepsModes fs fs') (h' : KeepsModes fs' fs'') : KeepsModes fs fs'' :=
  fun place => (h' place).trans (h place)

theorem keepsModes_of_createDir (h : fs.createDir p = .ok fs') : KeepsModes fs fs' := by
  obtain ⟨place, -, hn, hd, -, rfl⟩ := createDir_eq_ok_iff.mp h
  intro place'
  rw [modeAt?_put]
  by_cases he : place' = place
  · rw [if_pos he, he, modeAt?, hn, hd, Node.fileMode?]
  · rw [if_neg he]

theorem keepsModes_createDirsWithin (fs : FileSystem) (p : Path) (depth : Nat) :
    KeepsModes fs (fs.createDirsWithin p depth).2 :=
  createDirsWithin_induction .refl (fun _ _ _ => .trans) p
    (fun _ _ _ _ hc => keepsModes_of_createDir hc) fs depth

end Modes

end FileSystem

end Stencil
