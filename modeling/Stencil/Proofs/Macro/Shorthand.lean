import Stencil.Proofs.Macro.Literal
import Stencil.Proofs.Text.Edit
import Stencil.Proofs.Text.Search

/-! # Expansion of shorthands

Expanding the shorthands of a template replaces exactly the stretches that the reading of the
template as text and expressions singles out, and keeps the rest.
-/

namespace Stencil.Macro

variable {model : Option Model} {template before body after tag name l r : List Char}

/-- After `before` stands a `#` with the longest run of word characters behind it, which is not
empty. -/
structure TagAt (text before tag after : List Char) : Prop where
  eq : text = before ++ '#' :: tag ++ after
  ne_nil : tag ≠ []
  word : ∀ c ∈ tag, isWord c = true
  stop : ∀ c ∈ after.head?, isWord c = false

/-- A tag outside the string literals of a body. -/
structure Shorthand (body before tag after : List Char) : Prop extends
    TagAt body before tag after where
  outside : Reads none before none

/-- The first tag outside the string literals of a body stands after `before`. -/
def FirstShorthand (body before : List Char) : Prop :=
  (∃ tag after, Shorthand body before tag after) ∧
    ∀ b tag after, Shorthand body b tag after → before.length ≤ b.length

/-- `name` is the name of the first field of the model that carries the tag. -/
def NamesField (model : Option Model) (tag name : List Char) : Prop :=
  ∃ m fs f rest, model = some m ∧ m.fields = fs ++ f :: rest ∧ f.hasTag (String.ofList tag) = true ∧
    (∀ g ∈ fs, g.hasTag (String.ofList tag) = false) ∧ name = f.name.toList

def expression (body : List Char) : List Char :=
  ['{', '{'] ++ body ++ ['}', '}']

/-- Cutting the template from the left into text and expressions, an expression is found after
`before`. Nothing is found from opening braces on that are never closed. -/
inductive ExpressionAt : (template before body after : List Char) → Prop where
  | first {template before rest body after : List Char} :
      FirstAt ['{', '{'] template before rest → Closes rest body after →
      ExpressionAt template before body after
  | later {template before rest body after b body' after' : List Char} :
      FirstAt ['{', '{'] template before rest → Closes rest body after →
      ExpressionAt after b body' after' →
      ExpressionAt template (before ++ expression body ++ b) body' after'

/-- The stretches of an expression that are replaced: the expression itself, if apart from trim
marks it is one tag, and every tag of an expression that does not begin with its first tag. -/
inductive ReplacedIn (model : Option Model) (body : List Char) :
    (before span new : List Char) → Prop where
  | whole {l tag r name : List Char} :
      TagAt body l tag r → l.all isTrimMark = true → r.all isTrimMark = true →
      NamesField model tag name → ReplacedIn model body [] (expression body) name
  | inside {first l tag r name : List Char} :
      FirstShorthand body first → ¬ first.all isTrimMark = true → Shorthand body l tag r →
      NamesField model tag name → ReplacedIn model body (['{', '{'] ++ l) ('#' :: tag) name

/-- The stretches of a template that are replaced. -/
def Replaced (model : Option Model) (template before span new : List Char) : Prop :=
  ∃ text body after b, ExpressionAt template text body after ∧ ReplacedIn model body b span new ∧
    before = text ++ b

section Tags

theorem not_isWord_hash : isWord '#' = false := by decide

/-- The tag behind a `#` is what the word characters at the beginning of the rest make up. -/
theorem tagAt_iff : TagAt body l tag r ↔
    ∃ rest, body = l ++ '#' :: rest ∧ 0 < wordLength rest ∧ tag = rest.takeWhile isWord ∧
      r = rest.dropWhile isWord := by
  constructor
  · rintro ⟨rfl, hn, hw, hs⟩
    have ht := takeWhile_append_of_stop hw hs
    refine ⟨tag ++ r, by simp, ?_, ht.symm, (dropWhile_append_of_stop hw hs).symm⟩
    rw [wordLength, ht]
    exact List.length_pos_iff.mpr hn
  · rintro ⟨rest, rfl, hp, rfl, rfl⟩
    exact ⟨by simp, List.length_pos_iff.mp hp, List.all_eq_true.mp List.all_takeWhile,
      stop_dropWhile rest⟩

theorem TagAt.unique {l' tag' r' : List Char} (h : TagAt body l tag r) (h' : TagAt body l' tag' r')
    (hl : l.length = l'.length) : l = l' ∧ tag = tag' ∧ r = r' := by
  obtain ⟨rest, rfl, -, rfl, rfl⟩ := tagAt_iff.mp h
  obtain ⟨rest', he, -, rfl, rfl⟩ := tagAt_iff.mp h'
  obtain ⟨rfl, he'⟩ := List.append_inj he hl
  obtain ⟨-, rfl⟩ := List.cons.inj he'
  exact ⟨rfl, rfl, rfl⟩

theorem mem_shorthandPositions_iff {p : Nat} :
    p ∈ shorthandPositions body ↔ ∃ l tag r, Shorthand body l tag r ∧ p = l.length := by
  rw [shorthandPositions, mem_shorthandPositionsFrom_iff]
  constructor
  · rintro ⟨l, _, ⟨he, hr⟩, ⟨rest, rfl, hw⟩, rfl⟩
    exact ⟨l, _, _, ⟨tagAt_iff.mpr ⟨rest, he, hw, rfl, rfl⟩, hr⟩, by simp⟩
  · rintro ⟨l, tag, r, ⟨ht, hr⟩, rfl⟩
    obtain ⟨rest, he, hw, -⟩ := tagAt_iff.mp ht
    exact ⟨l, '#' :: rest, ⟨he, hr⟩, ⟨rest, rfl, hw⟩, by simp⟩

theorem taggedFieldName?_eq_some_iff :
    taggedFieldName? model tag = some name ↔ NamesField model tag name := by
  cases model with
  | none => simp [taggedFieldName?, NamesField]
  | some m =>
    simp only [taggedFieldName?, Option.bind_some, Model.taggedField?, Option.map_eq_some_iff,
      List.find?_eq_some_iff_append]
    constructor
    · rintro ⟨f, ⟨hf, fs, rest, he, hn⟩, rfl⟩
      exact ⟨m, fs, f, rest, rfl, he, hf, by simpa using hn, rfl⟩
    · rintro ⟨m, fs, f, rest, ⟨rfl⟩, he, hf, hn, rfl⟩
      exact ⟨f, ⟨hf, fs, rest, he, by simpa using hn⟩, rfl⟩

/-- A text that is replaced by the name for a tag, if there is one. -/
theorem editedBy_named (model : Option Model) (tag span : List Char) :
    EditedBy span ((taggedFieldName? model tag).getD span) fun before s new =>
      before = [] ∧ s = span ∧ NamesField model tag new := by
  simp only [← taggedFieldName?_eq_some_iff]
  cases h : taggedFieldName? model tag with
  | none => exact (EditedBy.keep _).congr (by simp)
  | some name =>
    refine (EditedBy.replace _ _).congr ?_
    intro before s new
    simp [eq_comm]

end Tags

section Expressions

/-- A `#` is no word character, so a later tag begins behind the word characters of an earlier
one. -/
theorem TagAt.length_le {l' tag' r' : List Char} (h : TagAt body l tag r)
    (h' : TagAt body l' tag' r') (hl : l.length < l'.length) :
    (l ++ '#' :: tag).length ≤ l'.length := by
  have he : (l ++ '#' :: tag) ++ r = l' ++ ('#' :: tag' ++ r') := by
    rw [← h.eq, h'.eq, List.append_assoc]
  rcases List.append_eq_append_iff.mp he with ⟨m, rfl, -⟩ | ⟨m, hm, he'⟩
  · simp
  · cases m with
    | nil => simp [hm]
    | cons c m =>
      obtain ⟨rfl, -⟩ := List.cons.inj he'
      have hc : '#' ∈ tag := by
        rcases List.append_eq_append_iff.mp hm with ⟨m', rfl, hm'⟩ | ⟨m', rfl, -⟩
        · cases m' with
          | nil => simp at hl
          | cons d m' =>
            obtain ⟨-, rfl⟩ := List.cons.inj hm'
            simp
        · rw [List.length_append] at hl
          omega
      exact absurd (h.word _ hc) (by simp [not_isWord_hash])

theorem TagAt.prefix_of_lt {l' tag' r' : List Char} (h : TagAt body l tag r)
    (h' : TagAt body l' tag' r') (hl : l.length < l'.length) : l ++ '#' :: tag <+: l' :=
  List.prefix_of_prefix_length_le ⟨r, h.eq.symm⟩
    ⟨'#' :: tag' ++ r', (List.append_assoc ..).symm.trans h'.eq.symm⟩ (h.length_le h' hl)

/-- The rest of a body of which a part is done, cut at a tag that is not yet done. -/
theorem TagAt.exists_rest_eq {done rest : List Char} (h : TagAt (done ++ rest) l tag r)
    (hd : done.length ≤ l.length) :
    ∃ mid, l = done ++ mid ∧ rest = mid ++ ('#' :: tag ++ r) := by
  have he : done ++ rest = l ++ ('#' :: tag ++ r) := by rw [h.eq, List.append_assoc]
  rcases List.append_eq_append_iff.mp he with ⟨mid, rfl, rfl⟩ | ⟨mid, rfl, hr⟩
  · exact ⟨mid, rfl, rfl⟩
  · rw [List.length_append] at hd
    obtain rfl : mid = [] := List.length_eq_zero_iff.mp (by omega)
    exact ⟨[], by simp, hr.symm⟩

theorem replaceShorthands_cons {mid : List Char} {k : Nat} {ps : List Nat}
    (h : TagAt body l tag r) :
    replaceShorthands model k (mid ++ ('#' :: tag ++ r)) ((k + mid.length) :: ps) =
      let (tail, warnings) := replaceShorthands model (k + mid.length + 1 + tag.length) r ps
      match taggedFieldName? model tag with
      | some name => (mid ++ name ++ tail, warnings)
      | none => (mid ++ '#' :: tag ++ tail, unresolved model tag :: warnings) := by
  have hm : (mid ++ ('#' :: tag ++ r)).take (k + mid.length - k) = mid := by simp
  have hr : (mid ++ ('#' :: tag ++ r)).drop (k + mid.length - k + 1) = tag ++ r := by
    simp [← List.drop_drop]
  have htag := takeWhile_append_of_stop h.word h.stop
  have hrest := dropWhile_append_of_stop h.word h.stop
  cases hn : taggedFieldName? model tag <;> simp only [replaceShorthands, hm, hr, htag, hrest, hn]

theorem replaceShorthands_cons_fst {mid : List Char} {k : Nat} {ps : List Nat}
    (h : TagAt body l tag r) :
    (replaceShorthands model k (mid ++ ('#' :: tag ++ r)) ((k + mid.length) :: ps)).1 =
      mid ++ ((taggedFieldName? model tag).getD ('#' :: tag) ++
        (replaceShorthands model (k + mid.length + 1 + tag.length) r ps).1) := by
  rw [replaceShorthands_cons h]
  cases taggedFieldName? model tag <;> simp

/-- A tag in a body of which a part is done, as an edit of the rest. -/
def EditsRest (model : Option Model) (done rest : List Char) (ps : List Nat)
    (before span new : List Char) : Prop :=
  ∃ tag r, TagAt (done ++ rest) (done ++ before) tag r ∧ (done ++ before).length ∈ ps ∧
    span = '#' :: tag ∧ NamesField model tag new

theorem editsRest_cons_iff {done mid : List Char} {ps : List Nat} {span new : List Char}
    (h : TagAt (done ++ (mid ++ ('#' :: tag ++ r))) (done ++ mid) tag r)
    (hlt : ∀ p ∈ ps, (done ++ mid).length < p) :
    EditsRest model done (mid ++ ('#' :: tag ++ r)) ((done ++ mid).length :: ps) before span new ↔
      (∃ b, before = mid ++ b ∧
        (b = [] ∧ span = '#' :: tag ∧ NamesField model tag new ∨
          ∃ b', b = '#' :: tag ++ b' ∧
            EditsRest model (done ++ mid ++ '#' :: tag) r ps b' span new)) := by
  constructor
  · rintro ⟨tag', r', h', hp, rfl, hn⟩
    rcases List.mem_cons.mp hp with hp | hp
    · obtain ⟨he, rfl, rfl⟩ := h'.unique h hp
      obtain rfl := List.append_cancel_left he
      exact ⟨[], by simp, .inl ⟨rfl, rfl, hn⟩⟩
    · have hle := h.length_le h' (hlt _ hp)
      obtain ⟨b, hb⟩ : done ++ mid ++ '#' :: tag <+: done ++ before :=
        List.prefix_of_prefix_length_le ⟨r, h.eq.symm⟩
          ⟨'#' :: tag' ++ r', (List.append_assoc ..).symm.trans h'.eq.symm⟩ hle
      obtain rfl : before = mid ++ ('#' :: tag ++ b) := by simpa using hb.symm
      refine ⟨_, rfl, .inr ⟨b, rfl, tag', r', ?_, ?_, rfl, hn⟩⟩
      · simpa using h'
      · simpa using hp
  · rintro ⟨b, rfl, ⟨rfl, rfl, hn⟩ | ⟨b', rfl, tag', r', h', hp, rfl, hn⟩⟩
    · exact ⟨tag, r, by simpa using h, by simp, rfl, hn⟩
    · refine ⟨tag', r', by simpa using h', List.mem_cons_of_mem _ ?_, rfl, hn⟩
      simpa using hp

/-- The replacement of shorthands at given positions, in a body of which a part is done. -/
theorem editedBy_replaceShorthands (model : Option Model) {done rest : List Char} {ps : List Nat}
    (hs : ps.Pairwise (· < ·)) (hd : ∀ p ∈ ps, done.length ≤ p)
    (ht : ∀ p ∈ ps, ∃ l tag r, TagAt (done ++ rest) l tag r ∧ p = l.length) :
    EditedBy rest (replaceShorthands model done.length rest ps).1
      (EditsRest model done rest ps) := by
  induction ps generalizing done rest with
  | nil =>
    refine (EditedBy.keep _).congr ?_
    simp [EditsRest]
  | cons p ps ih =>
    obtain ⟨l, tag, r, hl, rfl⟩ := ht p (by simp)
    obtain ⟨mid, rfl, rfl⟩ := hl.exists_rest_eq (hd _ List.mem_cons_self)
    obtain ⟨hlt, hs⟩ := List.pairwise_cons.mp hs
    have htail : EditedBy r (replaceShorthands model (done ++ mid ++ '#' :: tag).length r ps).1
        (EditsRest model (done ++ mid ++ '#' :: tag) r ps) := by
      refine ih hs ?_ ?_
      · intro p hp
        obtain ⟨l', tag', r', hl', rfl⟩ := ht p (List.mem_cons_of_mem _ hp)
        exact hl.length_le hl' (hlt _ hp)
      · intro p hp
        simpa using ht p (List.mem_cons_of_mem _ hp)
    have hlen : (done ++ mid ++ '#' :: tag).length = done.length + mid.length + 1 + tag.length := by
      simp; omega
    have hall := (EditedBy.keep mid).append ((editedBy_named model tag ('#' :: tag)).append htail)
    rw [hlen, ← replaceShorthands_cons_fst hl, ← List.length_append] at hall
    refine hall.congr ?_
    intro before span new
    rw [editsRest_cons_iff hl hlt, false_or]

theorem not_isQuote_of_isTrimMark {c : Char} (hc : isTrimMark c = true) : isQuote c = false := by
  rw [Bool.eq_false_iff]
  intro hq
  simp only [isQuote, Bool.or_eq_true, beq_iff_eq] at hq
  rcases hq with (rfl | rfl) | rfl <;> exact absurd hc (by decide)

theorem reads_of_not_isQuote {cs : List Char} (h : ∀ c ∈ cs, isQuote c = false) :
    Reads none cs none := by
  induction cs with
  | nil => exact .nil none
  | cons c cs ih =>
    exact .plain (h c List.mem_cons_self) (ih fun d hd => h d (List.mem_cons_of_mem c hd))

/-- No literal begins among trim marks, so a tag behind them is outside the literals. -/
theorem TagAt.shorthand (h : TagAt body l tag r) (hl : l.all isTrimMark = true) :
    Shorthand body l tag r :=
  ⟨h, reads_of_not_isQuote fun c hc => not_isQuote_of_isTrimMark (List.all_eq_true.mp hl c hc)⟩

theorem FirstShorthand.unique {first first' : List Char} (h : FirstShorthand body first)
    (h' : FirstShorthand body first') : first = first' := by
  obtain ⟨⟨tag, r, ht⟩, hle⟩ := h
  obtain ⟨⟨tag', r', ht'⟩, hle'⟩ := h'
  exact (ht.toTagAt.unique ht'.toTagAt (Nat.le_antisymm (hle _ _ _ ht') (hle' _ _ _ ht))).1

/-- Only the first tag can stand behind trim marks, since `#` is none. -/
theorem FirstShorthand.eq_of_trim {first : List Char} (h : FirstShorthand body first)
    (ht : TagAt body l tag r) (hl : l.all isTrimMark = true) : first = l := by
  obtain ⟨⟨tag', r', hf⟩, hle⟩ := h
  rcases Nat.lt_or_eq_of_le (hle _ _ _ (ht.shorthand hl)) with hlt | heq
  · have hpre := hf.toTagAt.prefix_of_lt ht hlt
    have hc := List.all_eq_true.mp hl '#' (hpre.subset (by simp))
    exact absurd hc (by decide)
  · exact (hf.toTagAt.unique ht heq).1

theorem firstShorthand_of_positions {p : Nat} {ps : List Nat}
    (h : shorthandPositions body = p :: ps) :
    ∃ l tag r, Shorthand body l tag r ∧ p = l.length ∧ FirstShorthand body l := by
  obtain ⟨l, tag, r, hl, rfl⟩ := mem_shorthandPositions_iff.mp (h ▸ List.mem_cons_self)
  refine ⟨l, tag, r, hl, rfl, ⟨tag, r, hl⟩, fun b tag' r' hb => ?_⟩
  have hm := mem_shorthandPositions_iff.mpr ⟨b, tag', r', hb, rfl⟩
  have hs : (shorthandPositions body).Pairwise (· < ·) := pairwise_shorthandPositionsFrom
  rw [h] at hm hs
  rcases List.mem_cons.mp hm with he | hm
  · exact Nat.le_of_eq he.symm
  · exact Nat.le_of_lt ((List.pairwise_cons.mp hs).1 _ hm)

/-- An expression whose first tag does not stand behind trim marks is replaced inside. -/
theorem replacedIn_iff_inside {first before span new : List Char} (h : FirstShorthand body first)
    (hn : ¬ first.all isTrimMark = true) : ReplacedIn model body before span new ↔
      ∃ b, before = ['{', '{'] ++ b ∧
        EditsRest model [] body (shorthandPositions body) b span new := by
  constructor
  · intro hr
    cases hr with
    | whole ht hl _ _ => exact absurd (h.eq_of_trim ht hl ▸ hl) hn
    | inside hf hnf hs hm =>
      exact ⟨_, rfl, _, _, hs.toTagAt, mem_shorthandPositions_iff.mpr ⟨_, _, _, hs, rfl⟩, rfl, hm⟩
  · rintro ⟨b, rfl, tag, r, ht, hp, rfl, hm⟩
    obtain ⟨l', tag', r', hs, hl⟩ := mem_shorthandPositions_iff.mp hp
    obtain ⟨rfl, rfl, rfl⟩ := hs.toTagAt.unique ht hl.symm
    exact .inside h hn hs hm

/-- An expression whose first tag stands behind trim marks is replaced as a whole or not at all. -/
theorem replacedIn_iff_whole {first before span new : List Char} (h : FirstShorthand body first)
    (ht : TagAt body first tag r) (hl : first.all isTrimMark = true) :
    ReplacedIn model body before span new ↔ r.all isTrimMark = true ∧
      before = [] ∧ span = expression body ∧ NamesField model tag new := by
  constructor
  · intro hr
    cases hr with
    | whole ht' hl' hr' hm =>
      obtain rfl := h.eq_of_trim ht' hl'
      obtain ⟨-, rfl, rfl⟩ := ht.unique ht' rfl
      exact ⟨hr', rfl, rfl, hm⟩
    | inside hf hnf hs hm => exact absurd (h.unique hf ▸ hl) hnf
  · rintro ⟨hr, rfl, rfl, hm⟩
    exact .whole ht hl hr hm

theorem not_replacedIn_of_no_position {before span new : List Char}
    (h : shorthandPositions body = []) : ¬ ReplacedIn model body before span new := by
  have hn : ∀ l tag r, ¬ Shorthand body l tag r := by
    intro l tag r hs
    have hm := mem_shorthandPositions_iff.mpr ⟨l, tag, r, hs, rfl⟩
    simp [h] at hm
  intro hr
  cases hr with
  | whole ht hl _ _ => exact hn _ _ _ (ht.shorthand hl)
  | inside _ _ hs _ => exact hn _ _ _ hs

theorem TagAt.take (h : TagAt body l tag r) : body.take l.length = l := by
  rw [h.eq]
  simp

theorem TagAt.drop (h : TagAt body l tag r) : body.drop (l.length + 1) = tag ++ r := by
  rw [h.eq]
  simp [← List.drop_drop]

theorem editedBy_rewriteExpression (model : Option Model) (body : List Char) :
    EditedBy (expression body) (rewriteExpression model body).1 (ReplacedIn model body) := by
  have hx : ∀ b, r"{{".toList ++ b ++ r"}}".toList = expression b := fun _ => rfl
  simp only [rewriteExpression, hx]
  cases hp : shorthandPositions body with
  | nil => exact (EditedBy.keep _).congr (by simp [not_replacedIn_of_no_position hp])
  | cons p ps =>
    obtain ⟨l, tag, r, hs, rfl, hf⟩ := firstShorthand_of_positions hp
    have ht := hs.toTagAt
    simp only [ht.take, ht.drop, takeWhile_append_of_stop ht.word ht.stop,
      dropWhile_append_of_stop ht.word ht.stop]
    by_cases hl : l.all isTrimMark = true
    · rw [if_pos hl]
      by_cases hr : r.all isTrimMark = true
      · rw [if_pos hr]
        have he := (editedBy_named model tag (expression body)).congr (Q := ReplacedIn model body)
          (by simp [replacedIn_iff_whole hf ht hl, hr])
        cases hn : taggedFieldName? model tag <;> rw [hn] at he <;> exact he
      · rw [if_neg hr]
        exact (EditedBy.keep _).congr (by simp [replacedIn_iff_whole hf ht hl, hr])
    · rw [if_neg hl, ← hp]
      have hps : ∀ p ∈ shorthandPositions body, ∃ l tag r,
          TagAt ([] ++ body) l tag r ∧ p = l.length := by
        intro p hp
        obtain ⟨l, tag, r, hs, rfl⟩ := mem_shorthandPositions_iff.mp hp
        exact ⟨l, tag, r, hs.toTagAt, rfl⟩
      have hsort : (shorthandPositions body).Pairwise (· < ·) := pairwise_shorthandPositionsFrom
      have he := editedBy_replaceShorthands model hsort (by simp) hps
      have hall := (EditedBy.keep ['{', '{']).append (he.append (EditedBy.keep ['}', '}']))
      simp only [← List.append_assoc] at hall
      refine hall.congr ?_
      simp [replacedIn_iff_inside hf hl]

end Expressions

section Templates

theorem not_expressionAt_of_no_opening (h : ¬ ['{', '{'] <:+: template) :
    ¬ ExpressionAt template before body after := by
  intro he
  cases he with
  | first hf _ | later hf _ _ => exact h ⟨_, _, hf.eq.symm⟩

theorem not_expressionAt_of_not_closed {rest : List Char} (hf : FirstAt ['{', '{'] template l rest)
    (h : ∀ body after, ¬ Closes rest body after) : ¬ ExpressionAt template before body after := by
  intro he
  cases he with
  | first hf' hc | later hf' hc _ =>
    obtain ⟨-, rfl⟩ := hf'.unique hf
    exact h _ _ hc

theorem replaced_iff {text rest body after span new : List Char}
    (hf : FirstAt ['{', '{'] template text rest) (hc : Closes rest body after) :
    Replaced model template before span new ↔
      ∃ b, before = text ++ b ∧ (ReplacedIn model body b span new ∨
        ∃ b', b = expression body ++ b' ∧ Replaced model after b' span new) := by
  constructor
  · rintro ⟨text', body', after', b, he, hr, rfl⟩
    cases he with
    | first hf' hc' =>
      obtain ⟨rfl, rfl⟩ := hf'.unique hf
      obtain ⟨rfl, rfl⟩ := hc'.unique hc
      exact ⟨b, rfl, .inl hr⟩
    | later hf' hc' he =>
      obtain ⟨rfl, rfl⟩ := hf'.unique hf
      obtain ⟨rfl, rfl⟩ := hc'.unique hc
      exact ⟨_, by simp only [List.append_assoc], .inr ⟨_, rfl, _, _, _, _, he, hr, rfl⟩⟩
  · rintro ⟨b, rfl, hr | ⟨b', rfl, text', body', after', b, he, hr, rfl⟩⟩
    · exact ⟨text, body, after, b, .first hf hc, hr, rfl⟩
    · exact ⟨_, body', after', b, .later hf hc he, hr, by simp only [List.append_assoc]⟩

theorem editedBy_expandShorthands (model : Option Model) (template : List Char) :
    EditedBy template (expandShorthands model template).1 (Replaced model template) := by
  fun_induction expandShorthands model template with
  | case1 template h =>
    have hn := cutAt?_eq_none_iff.mp h
    exact (EditedBy.keep template).congr (by simp [Replaced, not_expressionAt_of_no_opening hn])
  | case2 template text rest h he =>
    have hf := cutAt?_eq_some_iff.mp h
    have hn : ∀ body after, ¬ Closes rest body after := fun _ _ => not_closes_of_expressionEnd? he
    exact (EditedBy.keep template).congr (by simp [Replaced, not_expressionAt_of_not_closed hf hn])
  | case3 template text rest h n he new _ hnew tail _ htail ih =>
    have hf := cutAt?_eq_some_iff.mp h
    have hc := closes_of_expressionEnd? he
    have hr := editedBy_rewriteExpression model (rest.take n)
    rw [hnew] at hr
    rw [htail] at ih
    have hall := (EditedBy.keep text).append (hr.append ih)
    have hsource : text ++ (expression (rest.take n) ++ rest.drop (n + 2)) = template := by
      calc text ++ (expression (rest.take n) ++ rest.drop (n + 2))
        _ = text ++ ['{', '{'] ++ (rest.take n ++ '}' :: '}' :: rest.drop (n + 2)) := by
          simp [expression]
        _ = template := by rw [← hc.eq, ← hf.eq]
    rw [hsource, ← List.append_assoc] at hall
    refine hall.congr ?_
    intro before span new
    rw [replaced_iff hf hc, false_or]

/-- Exactly the singled out stretches are replaced, and without a model nothing is. -/
theorem expandShorthands_replaces_exactly :
    (∀ (model : Option Model) (template : List Char),
      EditedBy template (expandShorthands model template).1 (Replaced model template)) ∧
    ∀ template : List Char, (expandShorthands none template).1 = template := by
  refine ⟨editedBy_expandShorthands, fun template => ?_⟩
  refine (editedBy_expandShorthands none template).eq_of_no_span ?_
  rintro _ span new ⟨text, body, after, b, -, hr, -⟩
  cases hr with
  | whole _ _ _ hn | inside _ _ _ hn =>
    obtain ⟨m, fs, f, rest, hm, -⟩ := hn
    cases hm

end Templates

end Stencil.Macro
