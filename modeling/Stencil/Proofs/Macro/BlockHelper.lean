import Stencil.Proofs.Macro.Shorthand

/-! # Block helpers

An expression that begins with a tag and goes on has the shape of a block helper, and is left to the
renderer. In the other expressions every tag that names a field is replaced.
-/

namespace Stencil.Macro

/-- Apart from trim marks, the body begins with a tag and goes on behind it. -/
def BlockHelper (body : List Char) : Prop :=
  ∃ l tag r, TagAt body l tag r ∧ l.all isTrimMark = true ∧ ¬ r.all isTrimMark = true

variable {c : Char} {model : Option Model}
  {template text body after l tag r name before span new : List Char}

theorem not_blockHelper_cons (hc : isTrimMark c = false) (hh : c ≠ '#') :
    ¬ BlockHelper (c :: body) := by
  rintro ⟨l, tag, r, ht, hl, -⟩
  cases l with
  | nil => exact hh (List.cons.inj ht.eq).1
  | cons d l =>
    obtain ⟨rfl, -⟩ := List.cons.inj ht.eq
    simp [hc] at hl

/-- The body has a first tag, if it has any. -/
theorem Shorthand.exists_first (h : Shorthand body l tag r) :
    ∃ first tag' r', Shorthand body first tag' r' ∧ FirstShorthand body first := by
  cases hp : shorthandPositions body with
  | nil =>
    have hm := mem_shorthandPositions_iff.mpr ⟨l, tag, r, h, rfl⟩
    simp [hp] at hm
  | cons p ps =>
    obtain ⟨first, tag', r', hf, -, hfirst⟩ := firstShorthand_of_positions hp
    exact ⟨first, tag', r', hf, hfirst⟩

/-- Behind a tag that is not the last one an expression goes on. -/
theorem TagAt.not_all_trim {first tag' r' : List Char} (hf : TagAt body first tag' r')
    (h : TagAt body l tag r) (hl : first.length < l.length) : ¬ r'.all isTrimMark = true := by
  intro hr
  obtain ⟨mid, rfl⟩ := hf.prefix_of_lt h hl
  have hr' : r' = mid ++ ('#' :: tag ++ r) := by
    have he := hf.eq.symm.trans h.eq
    simpa using he
  have hc := List.all_eq_true.mp hr '#' (by simp [hr'])
  exact absurd hc (by decide)

theorem not_replacedIn_of_blockHelper (h : BlockHelper body) :
    ¬ ReplacedIn model body before span new := by
  obtain ⟨l, tag, r, ht, hl, hr⟩ := h
  obtain ⟨first, tag', r', hf, hfirst⟩ := (ht.shorthand hl).exists_first
  obtain rfl := hfirst.eq_of_trim ht hl
  rw [replacedIn_iff_whole hfirst ht hl]
  exact fun hs => hr hs.1

/-- An expression that is one tag is replaced by the field that the tag names, if it names one. -/
theorem replacedIn_of_alone (hb : ¬ BlockHelper body) (hs : Shorthand body l tag r)
    (hl : l.all isTrimMark = true) (hn : NamesField model tag name) :
    ReplacedIn model body [] (expression body) name := by
  refine .whole hs.toTagAt hl ?_ hn
  by_cases hr : r.all isTrimMark = true
  · exact hr
  · exact absurd ⟨l, tag, r, hs.toTagAt, hl, hr⟩ hb

/-- In an expression that is no block helper, each other tag is replaced by the field it names. -/
theorem replacedIn_of_not_alone (hb : ¬ BlockHelper body) (hs : Shorthand body l tag r)
    (hl : ¬ l.all isTrimMark = true) (hn : NamesField model tag name) :
    ReplacedIn model body (['{', '{'] ++ l) ('#' :: tag) name := by
  obtain ⟨first, tag', r', hf, hfirst⟩ := hs.exists_first
  refine .inside hfirst (fun hft => ?_) hs hn
  rcases Nat.lt_or_eq_of_le (hfirst.2 _ _ _ hs) with hlt | heq
  · exact hb ⟨first, tag', r', hf.toTagAt, hft, hf.toTagAt.not_all_trim hs.toTagAt hlt⟩
  · exact hl ((hf.toTagAt.unique hs.toTagAt heq).1 ▸ hft)

/-- Outside the expressions with the shape of a block helper, every tag that names a field is
replaced, together with its expression if it is all of it. -/
theorem shorthand_replaced_of_not_blockHelper (hx : ExpressionAt template text body after)
    (hb : ¬ BlockHelper body) (hs : Shorthand body l tag r) (hn : NamesField model tag name) :
    EditedBy template (expandShorthands model template).1 (Replaced model template) ∧
      (l.all isTrimMark = true → Replaced model template text (expression body) name) ∧
      (¬ l.all isTrimMark = true →
        Replaced model template (text ++ (['{', '{'] ++ l)) ('#' :: tag) name) := by
  refine ⟨editedBy_expandShorthands model template, fun hl => ?_, fun hl => ?_⟩
  · exact ⟨text, body, after, [], hx, replacedIn_of_alone hb hs hl hn, (List.append_nil _).symm⟩
  · exact ⟨text, body, after, _, hx, replacedIn_of_not_alone hb hs hl hn, rfl⟩

/-- The fields of a model carry a tag, and one with the name of a block helper. -/
def tagged : Model where
  name := "Invoice"
  fields := [{ name := "ownerId", tags := [{ name := "owner" }] },
    { name := "eachId", tags := [{ name := "each" }] }]

def ownerOfItem : List Char := "item.#owner".toList

def eachField : List Char := "#each Fields".toList

/-- A template that is one expression is cut into it if its body is closed by its braces only. -/
theorem expressionAt_expression (hend : expressionEnd? (body ++ ['}', '}']) = some body.length) :
    ExpressionAt (expression body) [] body [] := by
  have hc := closes_of_expressionEnd? hend
  rw [List.take_left, ← List.drop_drop, List.drop_left] at hc
  exact .first (.at_beginning (by simp [expression])) hc

theorem shorthand_replaced_in_ownerOfItem :
    ¬ BlockHelper ownerOfItem ∧
      EditedBy (expression ownerOfItem) (expandShorthands (some tagged) (expression ownerOfItem)).1
        (Replaced (some tagged) (expression ownerOfItem)) ∧
      Replaced (some tagged) (expression ownerOfItem) (['{', '{'] ++ "item.".toList)
        "#owner".toList "ownerId".toList := by
  have hx : ExpressionAt (expression ownerOfItem) [] ownerOfItem [] :=
    expressionAt_expression (by decide)
  have hb : ¬ BlockHelper ownerOfItem := not_blockHelper_cons (by decide) (by decide)
  have hquotes : "item.".toList.all (!isQuote ·) = true := by decide
  have hreads : Reads none "item.".toList none :=
    reads_of_not_isQuote fun c hc => by simpa using List.all_eq_true.mp hquotes c hc
  have hs : Shorthand ownerOfItem "item.".toList "owner".toList [] :=
    ⟨tagAt_iff.mpr ⟨"owner".toList, rfl, by decide, rfl, rfl⟩, hreads⟩
  have hn : NamesField (some tagged) "owner".toList "ownerId".toList :=
    taggedFieldName?_eq_some_iff.mp (by decide)
  obtain ⟨hedit, -, hinside⟩ := shorthand_replaced_of_not_blockHelper hx hb hs hn
  exact ⟨hb, hedit, hinside (by decide)⟩

theorem shorthand_left_in_eachField :
    (ExpressionAt (expression eachField) [] eachField [] ∧
      Shorthand eachField [] "each".toList " Fields".toList ∧
      NamesField (some tagged) "each".toList "eachId".toList) ∧
    expandShorthands (some tagged) (expression eachField) = (expression eachField, []) := by
  refine ⟨⟨expressionAt_expression (by decide), ?_, ?_⟩, by decide +kernel⟩
  · exact ⟨tagAt_iff.mpr ⟨"each Fields".toList, rfl, by decide, rfl, rfl⟩, .nil none⟩
  · exact taggedFieldName?_eq_some_iff.mp (by decide)

end Stencil.Macro
