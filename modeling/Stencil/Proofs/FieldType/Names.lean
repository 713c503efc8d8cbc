import Mathlib.Logic.Function.Iterate
import Stencil.Proofs.FieldType.Base
import Stencil.Registry

/-! # Types in the languages

What a type is called in a language depends on its base and on the number of its brackets alone: the
brackets are written around what the base is called.
-/

namespace Stencil

theorem Primitive.head?_keyword (p : Primitive) : p.keyword.head? ≠ some '[' := by
  cases p <;> decide

theorem Primitive.ofKeyword?_array (inner : List Char) :
    ofKeyword? ('[' :: inner ++ [']']) = none := by
  rw [ofKeyword?, List.find?_eq_none]
  intro p _ hp
  refine p.head?_keyword ?_
  rw [of_decide_eq_true hp]
  rfl

namespace FieldType

/-- What a base is called: a primitive type has a name, and `declared` writes a declared one. -/
def baseName (primitive : Primitive → String) (declared : List Char → List Char)
    (base : List Char) : List Char :=
  match Primitive.ofKeyword? base with
  | some p => (primitive p).toList
  | none => declared base

variable {type inner base b : List Char} {n m : ℕ}

theorem element?_array (inner : List Char) : element? ('[' :: inner ++ [']']) = some inner :=
  element?_eq_some_iff.mpr rfl

theorem HasBase.unique (h : HasBase type n base) (h' : HasBase type m b) : m = n ∧ b = base := by
  induction h generalizing m with
  | @bare base hb =>
    cases h' with
    | bare _ => exact ⟨rfl, rfl⟩
    | @array inner _ _ _ => exact absurd rfl (hb inner)
  | @array inner base n _ ih =>
    generalize htype : '[' :: inner ++ [']'] = type at h'
    cases h' with
    | bare hb => exact absurd htype.symm (hb inner)
    | @array inner' _ _ h' =>
      obtain rfl : inner = inner' := by simpa using htype
      obtain ⟨rfl, rfl⟩ := ih h'
      exact ⟨rfl, rfl⟩

section Brackets

theorem iterate_append (mark : List Char) (n : ℕ) (name : List Char) :
    (mark ++ ·)^[n] name = (List.replicate n mark).flatten ++ name := by
  induction n with
  | zero => rfl
  | succ n ih =>
    rw [Function.iterate_succ_apply', ih, List.replicate_succ, List.flatten_cons,
      List.append_assoc]

theorem iterate_brackets (n : ℕ) (name : List Char) :
    (fun t => '[' :: t ++ [']'])^[n] name =
      List.replicate n '[' ++ name ++ List.replicate n ']' := by
  induction n with
  | zero => simp
  | succ n ih =>
    rw [Function.iterate_succ_apply', ih, List.replicate_succ, List.replicate_succ']
    simp only [List.cons_append, List.append_assoc]

end Brackets

section Writing

variable {primitive : Primitive → String} {array declared : List Char → List Char}

theorem write_array (inner : List Char) : write primitive array declared ('[' :: inner ++ [']']) =
    array (write primitive array declared inner) := by
  rw [write, Primitive.ofKeyword?_array]
  dsimp only
  split
  · next inner' he =>
    obtain rfl := Option.some.inj ((element?_array inner).symm.trans he)
    rfl
  · next he => cases (element?_array inner).symm.trans he

theorem write_bare (hb : ∀ inner, base ≠ '[' :: inner ++ [']']) :
    write primitive array declared base = baseName primitive declared base := by
  rw [write, baseName]
  cases Primitive.ofKeyword? base with
  | some p => rfl
  | none =>
    dsimp only
    split
    · next inner he => exact absurd (element?_eq_some_iff.mp he) (hb inner)
    · rfl

theorem write_eq (h : HasBase type n base) :
    write primitive array declared type = array^[n] (baseName primitive declared base) := by
  induction h with
  | bare hb => exact write_bare hb
  | array _ ih => rw [write_array, ih, Function.iterate_succ_apply']

end Writing

theorem goQualified_eq (qualifier : List Char) (h : HasBase type n base) :
    goQualified qualifier type =
      if n = 0 ∧ Primitive.ofKeyword? base = none then qualifier ++ base else go type := by
  cases h with
  | bare hb =>
    have hgo : go type = baseName Primitive.goName id type := write_bare hb
    rw [hgo, goQualified, baseName, element?_eq_none_iff.mpr hb]
    cases Primitive.ofKeyword? type <;> rfl
  | @array inner _ n _ =>
    have hgo : go ('[' :: inner ++ [']']) = "[]".toList ++ go inner := write_array inner
    rw [if_neg (by simp), hgo, goQualified, Primitive.ofKeyword?_array, element?_array]

theorem typescript_eq (h : HasBase type n base) :
    typescript type = if n = 0 then baseName Primitive.typescriptName id base else type := by
  cases h with
  | bare _ => rfl
  | @array inner _ n _ => rw [if_neg (Nat.succ_ne_zero n), typescript, Primitive.ofKeyword?_array]

theorem isPrimitive_eq (h : HasBase type n base) :
    isPrimitive type = (Primitive.ofKeyword? base).isSome := by
  induction h with
  | @bare base hb =>
    rw [isPrimitive]
    cases Primitive.ofKeyword? base with
    | some p => rfl
    | none =>
      dsimp only
      split
      · next inner he => exact absurd (element?_eq_some_iff.mp he) (hb inner)
      · rfl
  | @array inner _ _ _ ih =>
    rw [isPrimitive, Primitive.ofKeyword?_array]
    dsimp only
    split
    · next inner' he =>
      obtain rfl := Option.some.inj ((element?_array inner).symm.trans he)
      exact ih
    · next he => cases (element?_array inner).symm.trans he

/-- Every type is one base in a number of brackets. The maps to the languages write the brackets in
their own notation around what the base is called, and what a type refers to is decided by the base.
-/
theorem mapped_by_base (type : String) : ∃ n base,
    (∀ m b, HasBase type.toList m b ↔ m = n ∧ b = base) ∧
    proto type.toList =
      (List.replicate n "repeated ".toList).flatten ++ baseName Primitive.protoName id base ∧
    go type.toList = (List.replicate n "[]".toList).flatten ++ baseName Primitive.goName id base ∧
    graphql type.toList =
      List.replicate n '[' ++ baseName Primitive.graphqlName id base ++ List.replicate n ']' ∧
    graphqlInput type.toList = List.replicate n '[' ++
      baseName Primitive.graphqlName (· ++ "Input".toList) base ++ List.replicate n ']' ∧
    (∀ qualifier, goQualified qualifier type.toList =
      if n = 0 ∧ Primitive.ofKeyword? base = none then qualifier ++ base else go type.toList) ∧
    typescript type.toList =
      (if n = 0 then baseName Primitive.typescriptName id base else type.toList) ∧
    isPrimitive type.toList = (Primitive.ofKeyword? base).isSome ∧
    ∀ (models : ModelRegistry) (owner : Model) (f : Field),
      Config.fieldResolves models owner { f with type } =
        ((Primitive.ofKeyword? base).isSome || (owner.hasEnum (String.ofList base) ||
          !(models.lookup (String.ofList base)).isSentinel)) := by
  obtain ⟨n, base, h⟩ := exists_hasBase type.toList
  refine ⟨n, base, fun m b => ⟨h.unique, ?_⟩, (write_eq h).trans (iterate_append _ n _),
    (write_eq h).trans (iterate_append _ n _), (write_eq h).trans (iterate_brackets n _),
    (write_eq h).trans (iterate_brackets n _), fun qualifier => goQualified_eq qualifier h,
    typescript_eq h, isPrimitive_eq h, fun models owner f => resolves_eq _ h⟩
  rintro ⟨rfl, rfl⟩
  exact h

end FieldType

end Stencil
