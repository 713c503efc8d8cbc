import Stencil.Proofs.FileSystem.Evolution
import Stencil.Proofs.Path.Components

/-! # Parents of paths

The parent of a path is the text in front of one of its slashes. A path that leads to a file goes on
with a name behind that slash, so its parent leads to a directory on the way.
-/

namespace Stencil

namespace Path

variable {p q : Path} {pieces : List (List Char)}

theorem trimPieces_suffix (pieces : List (List Char)) : trimPieces pieces <:+ pieces := by
  fun_induction trimPieces with
  | case1 => exact List.suffix_rfl
  | case2 first => exact List.suffix_rfl
  | case3 piece rest hne hstep => exact List.suffix_rfl
  | case4 piece rest hne hstep ih => exact ih.trans (List.suffix_cons piece rest)

theorem trimPieces_ne_nil (h : pieces ≠ []) : trimPieces pieces ≠ [] := by
  fun_induction trimPieces with
  | case1 => exact h
  | case2 first => exact h
  | case3 piece rest hne hstep => exact h
  | case4 piece rest hne hstep ih => exact ih hne

/-- The path of what stands before a slash. Nothing before it is the root. -/
def upTo (before : List Char) : Path :=
  ⟨if before = [] then ['/'] else before⟩

theorem exists_chars_eq_of_suffix {kept : List (List Char)} {piece : List Char}
    {rest : List (List Char)} (hkept : kept <:+ rest) (hne : kept ≠ [])
    (h : piece :: rest <:+ p.pieces.reverse) :
    ∃ after, p.chars = joinWith ['/'] kept.reverse ++ '/' :: after := by
  obtain ⟨between, rfl⟩ := hkept
  obtain ⟨behind, hpieces⟩ := h
  have hsplit : p.pieces = kept.reverse ++ (between.reverse ++ piece :: behind.reverse) := by
    rw [← List.reverse_reverse p.pieces, ← hpieces]
    simp
  refine ⟨joinWith ['/'] (between.reverse ++ piece :: behind.reverse), ?_⟩
  rw [← joinWith_append (by simpa using hne) (by simp), ← hsplit]
  exact (joinWith_splitOnChar '/' p.chars).symm

theorem isAbsolute_upTo (before after : List Char) :
    (upTo before).isAbsolute = (Path.mk (before ++ '/' :: after)).isAbsolute := by
  unfold upTo
  split
  · next h =>
    subst h
    rfl
  · next h => exact (isAbsolute_slash h after).symm

theorem isEmpty_upTo (before : List Char) : (upTo before).isEmpty = false := by
  unfold upTo isEmpty
  split <;> simp [*]

theorem upTo_chars_prefix (before after : List Char) :
    (upTo before).chars <+: before ++ '/' :: after := by
  unfold upTo
  split
  · next h =>
    subst h
    exact List.prefix_append ['/'] after
  · exact List.prefix_append before ('/' :: after)

/-- A parent is empty or what stands before a slash. -/
theorem exists_chars_eq_of_parent? (h : p.parent? = some q) :
    q.isEmpty = true ∨ ∃ before after, p.chars = before ++ '/' :: after ∧ q = upTo before := by
  unfold parent? at h
  split at h
  · cases h
  · split at h
    · cases h
      exact .inl rfl
    · cases h
  · next piece rest hne htrim =>
    obtain ⟨after, hchars⟩ := exists_chars_eq_of_suffix (trimPieces_suffix rest)
      (trimPieces_ne_nil hne) (htrim ▸ trimPieces_suffix p.pieces.reverse)
    split at h
    · next hroot =>
      cases h
      rw [hroot] at hchars
      exact .inr ⟨[], after, hchars, rfl⟩
    · cases h
      by_cases hempty : joinWith ['/'] (trimPieces rest).reverse = []
      · exact .inl (by simp [isEmpty, hempty])
      · exact .inr ⟨_, after, hchars, by rw [upTo, if_neg hempty]⟩

end Path

namespace FileSystem

variable {fs : FileSystem} {place last : Place} {names more : List String} {p q : Path}

theorem exists_follow_of_append (h : fs.follow place (names ++ more) = .ok last) :
    ∃ mid, fs.follow place names = .ok mid ∧ fs.follow mid more = .ok last := by
  induction names generalizing place with
  | nil => exact ⟨place, rfl, h⟩
  | cons name names ih =>
    obtain ⟨hd, hsize, hrest⟩ := follow_cons_eq_ok_iff.mp h
    obtain ⟨mid, hnames, hmore⟩ := ih hrest
    exact ⟨mid, follow_cons_eq_ok_iff.mpr ⟨hd, hsize, hnames⟩, hmore⟩

theorem namesOf_slash (before after : List Char) :
    namesOf ⟨before ++ '/' :: after⟩ = namesOf ⟨before⟩ ++ namesOf ⟨after⟩ := by
  simp [namesOf, Path.pieces, splitOnChar_append_cons]

theorem namesOf_upTo (before : List Char) : namesOf (Path.upTo before) = namesOf ⟨before⟩ := by
  unfold Path.upTo
  split
  · next h =>
    subst h
    rfl
  · rfl

/-- Where a path does not end in a slash, a name follows each of its slashes. -/
theorem namesOf_ne_nil {before after : List Char}
    (h : endsInSlash ⟨before ++ '/' :: after⟩ = false) : namesOf ⟨after⟩ ≠ [] := by
  have hlast : ('/' :: after).getLast? ≠ some '/' := by
    simpa [endsInSlash, List.getLast?_append] using h
  have hne : after ≠ [] := by
    rintro rfl
    exact hlast rfl
  have hc : after.getLast hne ≠ '/' := by
    rw [List.getLast?_cons_of_ne_nil hne, List.getLast?_eq_some_getLast hne] at hlast
    exact fun heq => hlast (congrArg some heq)
  obtain ⟨piece, hpiece, hnonempty⟩ := exists_mem_splitOnChar (List.getLast_mem hne) hc
  have hmem : String.ofList piece ∈ namesOf ⟨after⟩ :=
    List.mem_map_of_mem (List.mem_filter.mpr ⟨hpiece, by simpa using hnonempty⟩)
  exact List.ne_nil_of_mem hmem

/-- What leads to a file leads through a directory, which is where its parent leads. -/
theorem isDir_parent_of_isFile (h : fs.isFile p = true) (hp : p.parent? = some q) :
    q.isEmpty = true ∨ fs.isDir q = true := by
  refine (Path.exists_chars_eq_of_parent? hp).imp_right ?_
  rintro ⟨before, after, hchars, rfl⟩
  obtain ⟨place, mode, content, hstatus⟩ := isFile_iff.mp h
  obtain ⟨hl, -, hslash⟩ := status_eq_ok_file_iff.mp hstatus
  obtain ⟨⟨hnul, -, hsize⟩, hfollow⟩ := locate_eq_ok_iff.mp hl
  obtain ⟨chars⟩ := p
  obtain rfl : chars = before ++ '/' :: after := hchars
  rw [start, namesOf_slash, ← Path.isAbsolute_upTo, ← namesOf_upTo] at hfollow
  obtain ⟨mid, hbefore, hafter⟩ := exists_follow_of_append hfollow
  obtain ⟨name, names, hnames⟩ := List.exists_cons_of_ne_nil (namesOf_ne_nil hslash)
  rw [hnames] at hafter
  obtain ⟨rest, hrest⟩ := Path.upTo_chars_prefix before after
  refine isDir_iff.mpr ⟨mid, locate_eq_ok_iff.mpr
    ⟨⟨?_, Path.isEmpty_upTo before, ?_⟩, hbefore⟩, (follow_cons_eq_ok_iff.mp hafter).1.hasDir⟩
  · rw [← hrest, List.contains_append, Bool.or_eq_false_iff] at hnul
    exact hnul.1
  · rw [Path.text, ← hrest, String.ofList_append, String.utf8ByteSize_append] at hsize
    exact Nat.le_of_add_right_le hsize

end FileSystem

end Stencil
