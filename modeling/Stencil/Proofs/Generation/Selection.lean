import Stencil.Selection
import Stencil.Proofs.Path.Components
import Stencil.Proofs.Text.Trim

/-! # Selections as they are written

A text between blanks is a star or lists labels. The labels are the pieces between its commas, each
without the blanks around it; a piece of blanks is no label.
-/

namespace Stencil

/-- The pieces of a text between the commas in it. -/
structure Pieces (text : List Char) (pieces : List (List Char)) : Prop where
  ne_nil : pieces ≠ []
  joined : joinWith [','] pieces = text
  comma_notMem : ∀ piece ∈ pieces, ',' ∉ piece

/-- The labels that pieces of a text are. -/
inductive Lists : List (List Char) → List String → Prop where
  | nil : Lists [] []
  | blank {piece : List Char} {pieces : List (List Char)} {labels : List String} :
      Trimmed piece [] → Lists pieces labels → Lists (piece :: pieces) labels
  | label {piece name : List Char} {pieces : List (List Char)} {labels : List String} :
      Trimmed piece name → name ≠ [] → Lists pieces labels →
      Lists (piece :: pieces) (String.ofList name :: labels)

/-- What a text asks for. -/
inductive Requests (text : List Char) : Selection → Prop where
  | all : Trimmed text ['*'] → Requests text .all
  | only {pieces : List (List Char)} {labels : List String} :
      ¬ Trimmed text ['*'] → Pieces text pieces → Lists pieces labels →
      Requests text (.only labels)

variable {text : List Char} {pieces : List (List Char)} {labels : List String}

section Split

theorem splitOnChar_eq_of_pieces (h : Pieces text pieces) : splitOnChar ',' text = pieces := by
  obtain ⟨hne, rfl, hcomma⟩ := h
  induction pieces with
  | nil => exact absurd rfl hne
  | cons piece pieces ih =>
    obtain ⟨hpiece, hpieces⟩ := List.forall_mem_cons.mp hcomma
    cases pieces with
    | nil => exact splitOnChar_of_notMem hpiece
    | cons next pieces =>
      have hne : next :: pieces ≠ [] := List.cons_ne_nil next pieces
      rw [joinWith_cons piece hne, splitOnChar_append_cons, splitOnChar_of_notMem hpiece,
        ih hne hpieces]
      rfl

theorem pieces_splitOnChar (text : List Char) : Pieces text (splitOnChar ',' text) :=
  ⟨splitOnChar_ne_nil ',' text, joinWith_splitOnChar ',' text,
    fun _ => notMem_of_mem_splitOnChar⟩

end Split

theorem lists_iff : Lists pieces labels ↔
    ((pieces.map (trimBy isBlank)).filter (!·.isEmpty)).map String.ofList = labels := by
  constructor
  · intro h
    induction h with
    | nil => rfl
    | blank hp _ ih => simpa [trimBy_eq_of_trimmed hp] using ih
    | label hp hne _ ih => simpa [trimBy_eq_of_trimmed hp, hne] using ih
  · rintro rfl
    induction pieces with
    | nil => exact .nil
    | cons piece pieces ih =>
      have hp := trimmed_trimBy piece
      rw [List.map_cons]
      generalize trimBy isBlank piece = name at hp
      cases name with
      | nil => exact .blank hp ih
      | cons c cs => exact .label hp (List.cons_ne_nil c cs) ih

theorem parse_eq_iff {raw : String} {s : Selection} :
    Selection.parse raw = s ↔ Requests raw.toList s := by
  unfold Selection.parse
  dsimp only
  constructor
  · rintro rfl
    split
    next h => exact .all (trimBy_eq_iff.mp h)
    next h =>
      exact .only (mt trimBy_eq_iff.mpr h) (pieces_splitOnChar _) (lists_iff.mpr rfl)
  · intro h
    cases h with
    | all h => rw [if_pos (trimBy_eq_iff.mpr h)]
    | only h hp hl =>
      rw [if_neg (mt trimBy_eq_iff.mp h), splitOnChar_eq_of_pieces hp, lists_iff.mp hl]

end Stencil
