import Stencil.Proofs.Path.Components

/-! # Extensions of paths

What is appended to a path behind a dot is the extension of what results, whatever dots the path has
itself. Only where a new name would begin it is not: there the dot is the first character of a name.
-/

namespace Stencil.Path

variable {text before name stem ext : List Char}

def AtNameStart (text : List Char) : Prop :=
  text = [] ∨ text.getLast? = some '/'

instance (text : List Char) : Decidable (AtNameStart text) :=
  inferInstanceAs (Decidable (_ ∨ _))

theorem exists_lastName (text : List Char) :
    ∃ before stem, text = before ++ stem ∧ '/' ∉ stem ∧ AtNameStart before := by
  induction text with
  | nil => exact ⟨[], [], rfl, List.not_mem_nil, .inl rfl⟩
  | cons c cs ih =>
    obtain ⟨before, stem, rfl, hstem, hstart⟩ := ih
    by_cases hb : before = []
    · subst hb
      by_cases hc : c = '/'
      · exact ⟨[c], stem, rfl, hstem, .inr (by rw [hc]; rfl)⟩
      · exact ⟨[], c :: stem, rfl, by simp [hstem, Ne.symm hc], .inl rfl⟩
    · refine ⟨c :: before, stem, rfl, hstem, .inr ?_⟩
      rw [List.getLast?_cons_of_ne_nil hb]
      exact hstart.resolve_left hb

theorem atNameStart_append (hstem : '/' ∉ stem) (hstart : AtNameStart before) :
    AtNameStart (before ++ stem) ↔ stem = [] := by
  constructor
  · rintro (h | h)
    · exact (List.append_eq_nil_iff.mp h).2
    · refine Classical.byContradiction fun hne => hstem ?_
      rw [List.getLast?_append, List.getLast?_eq_some_getLast hne] at h
      exact Option.some.inj h ▸ List.getLast_mem hne
  · rintro rfl
    rwa [List.append_nil]

/-- The last name of a path is its file name, unless it is a dot or two. -/
theorem fileName?_append (hstart : AtNameStart before) (hslash : '/' ∉ name) (hne : name ≠ [])
    (hdot : name ≠ ['.']) (hdots : name ≠ ['.', '.']) :
    (Path.mk (before ++ name)).fileName? = some name := by
  have hstep : ∀ leading, isStep name leading = true := by simp [isStep, hne, hdot]
  have hlast : (Path.mk (before ++ name)).steps.getLast? = some name := by
    rcases hstart with rfl | h
    · simp [steps, pieces, splitOnChar_of_notMem hslash, hstep]
    · obtain ⟨above, rfl⟩ := List.getLast?_eq_some_iff.mp h
      rw [List.append_assoc, List.singleton_append, steps_slash, splitOnChar_of_notMem hslash]
      simp [hstep]
  rw [fileName?, hlast]
  simp [hdot, hdots]

theorem extensionOf_append (hdot : '.' ∉ ext) (stem : List Char) :
    extensionOf (stem ++ '.' :: ext) = if stem = [] then none else some ext := by
  have hreverse : (stem ++ '.' :: ext).reverse = ext.reverse ++ '.' :: stem.reverse := by simp
  have hafter : (ext.reverse ++ '.' :: stem.reverse).takeWhile (· != '.') = ext.reverse := by
    rw [List.takeWhile_append_of_pos]
    · simp
    · rintro c hc
      simpa using fun he : c = '.' => hdot (he ▸ List.mem_reverse.mp hc)
  unfold extensionOf
  rw [hreverse, hafter]
  simp

/-- What is appended behind a dot is the extension, unless the dot begins a name. -/
theorem extension?_append (hdot : '.' ∉ ext) (hslash : '/' ∉ ext) (hne : ext ≠ [])
    (text : List Char) :
    (Path.mk (text ++ '.' :: ext)).extension? = if AtNameStart text then none else some ext := by
  obtain ⟨before, stem, rfl, hstem, hstart⟩ := exists_lastName text
  have hname : '/' ∉ stem ++ '.' :: ext := by simp [hstem, hslash]
  have hlast : (stem ++ '.' :: ext).getLast? ≠ some '.' := by
    rw [List.getLast?_append, List.getLast?_cons_of_ne_nil hne, List.getLast?_eq_some_getLast hne]
    exact fun h => hdot (Option.some.inj h ▸ List.getLast_mem hne)
  have hfile : (Path.mk (before ++ (stem ++ '.' :: ext))).fileName? = some (stem ++ '.' :: ext) :=
    fileName?_append hstart hname (by simp) (fun h => hlast (by rw [h]; rfl))
      fun h => hlast (by rw [h]; rfl)
  rw [List.append_assoc, extension?, hfile, Option.bind_some, extensionOf_append hdot]
  simp only [atNameStart_append hstem hstart]

end Stencil.Path
