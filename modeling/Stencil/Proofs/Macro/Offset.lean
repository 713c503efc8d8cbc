import Stencil.Proofs.Macro.Shorthand
import Stencil.Proofs.Text.Slice

/-! # Shorthands at byte offsets

The rewriting of an expression, with places counted in bytes and every piece of the body taken as a
slice between two of them. Each slice exists, since a tag ends where a character ends and before the
next tag begins, and the pieces make up the body.
-/

namespace Stencil.Macro

/-- The number of bytes of the word characters at the beginning of a text. -/
def wordBytes (text : List Char) : Nat :=
  byteLength (text.takeWhile isWord)

/-- The offset at which the tag behind the `#` at an offset ends. -/
def spanEnd? (body : List Char) (offset : Nat) : Option Nat := do
  let after ← sliceFrom? body (offset + 1)
  some (offset + 1 + wordBytes after)

/-- The offsets of the shorthands in what remains of a body from offset `i` on; `quote` is the
delimiter of the literal that is open. -/
def shorthandOffsetsFrom? (body : List Char) (i : Nat) (quote : Option Char) :
    List Char → Option (List Nat)
  | [] => some []
  | c :: cs =>
    match quote with
    | some q =>
      if c = '\\' then
        match cs with
        | [] => some []
        | d :: cs => shorthandOffsetsFrom? body (i + c.utf8Size + d.utf8Size) (some q) cs
      else shorthandOffsetsFrom? body (i + c.utf8Size) (if c = q then none else some q) cs
    | none =>
      if isQuote c then shorthandOffsetsFrom? body (i + c.utf8Size) (some c) cs
      else if c = '#' then do
        let after ← sliceFrom? body (i + 1)
        let offsets ← shorthandOffsetsFrom? body (i + c.utf8Size) none cs
        some (if 0 < wordBytes after then i :: offsets else offsets)
      else shorthandOffsetsFrom? body (i + c.utf8Size) none cs

def shorthandOffsets? (body : List Char) : Option (List Nat) :=
  shorthandOffsetsFrom? body 0 none body

/-- Glues the slices of a body from offset `cursor` on, with the names of fields in the place of the
tags at the given offsets. -/
def glueSlices? (model : Option Model) (body : List Char) (cursor : Nat) :
    List Nat → Option (List Char × List Warning)
  | [] => do
    let rest ← sliceFrom? body cursor
    some (rest, [])
  | offset :: offsets => do
    let stop ← spanEnd? body offset
    let tag ← slice? body (offset + 1) stop
    let before ← slice? body cursor offset
    let (new, reports) ←
      match taggedFieldName? model tag with
      | some name => some (name, [])
      | none => (slice? body offset stop).map fun span => (span, [unresolved model tag])
    let (tail, warnings) ← glueSlices? model body stop offsets
    some (before ++ new ++ tail, reports ++ warnings)

/-- What an expression with the given body becomes, by slices of the body. -/
def rewriteSlices? (model : Option Model) (body : List Char) :
    Option (List Char × List Warning) := do
  match ← shorthandOffsets? body with
  | [] => some (expression body, [])
  | first :: others =>
    let leading ← slice? body 0 first
    if leading.all isTrimMark then
      let stop ← spanEnd? body first
      let tag ← slice? body (first + 1) stop
      let trailing ← sliceFrom? body stop
      if trailing.all isTrimMark then
        match taggedFieldName? model tag with
        | some name => some (name, [])
        | none => some (expression body, [unresolved model tag])
      else some (expression body, [])
    else
      let (rewritten, warnings) ← glueSlices? model body 0 (first :: others)
      some (expression rewritten, warnings)

def byteOffset (body : List Char) (p : Nat) : Nat :=
  byteLength (body.take p)

/-- The spans of the tags at some offsets lie within the body, between characters, one after the
other. -/
structure SpansApart (body : List Char) (offsets : List Nat) : Prop where
  increasing : offsets.Pairwise (· < ·)
  within : ∀ offset ∈ offsets, ∃ stop, spanEnd? body offset = some stop ∧
    offset < stop ∧ stop ≤ byteLength body ∧
    String.Pos.Raw.IsValid (String.ofList body) ⟨offset⟩ ∧
    String.Pos.Raw.IsValid (String.ofList body) ⟨stop⟩
  apart : offsets.Pairwise fun offset later =>
    ∀ stop, spanEnd? body offset = some stop → stop ≤ later

/-- From what is done on, the tags at the given positions cut the rest of a body. -/
inductive TagsFrom (body : List Char) : (done rest : List Char) → List Nat → Prop where
  | nil {done rest : List Char} : body = done ++ rest → TagsFrom body done rest []
  | cons {done mid tag r : List Char} {ps : List Nat} : TagAt body (done ++ mid) tag r →
      TagsFrom body (done ++ mid ++ '#' :: tag) r ps →
      TagsFrom body done (mid ++ ('#' :: tag ++ r)) ((done ++ mid).length :: ps)

variable {model : Option Model} {body done rest l mid tag r cs : List Char} {ps : List Nat}
  {quote : Option Char} {i : Nat}

section Tags

theorem byteLength_hash_cons : byteLength ('#' :: cs) = 1 + byteLength cs := rfl

theorem sliceFrom?_append_hash : sliceFrom? (l ++ '#' :: r) (byteLength l + 1) = some r := by
  have h := sliceFrom?_append (l := l ++ ['#']) (r := r)
  rwa [byteLength_append, List.append_assoc] at h

theorem wordBytes_pos_iff : 0 < wordBytes cs ↔ 0 < wordLength cs := by
  rw [wordBytes, wordLength, Nat.pos_iff_ne_zero, Nat.pos_iff_ne_zero, ne_eq, ne_eq,
    byteLength_eq_zero_iff, List.length_eq_zero_iff]

theorem TagAt.spanEnd? (h : TagAt body l tag r) :
    spanEnd? body (byteLength l) = some (byteLength (l ++ '#' :: tag)) := by
  have hafter : sliceFrom? body (byteLength l + 1) = some (tag ++ r) := by
    rw [h.eq, List.append_assoc]
    exact sliceFrom?_append_hash
  rw [Macro.spanEnd?, hafter, Option.bind_eq_bind, Option.bind_some, wordBytes,
    takeWhile_append_of_stop h.word h.stop, byteLength_append, byteLength_hash_cons, Nat.add_assoc]

theorem TagAt.slice?_tag (h : TagAt body l tag r) :
    slice? body (byteLength l + 1) (byteLength (l ++ '#' :: tag)) = some tag :=
  slice?_eq_some_iff.mpr ⟨l ++ ['#'], r, by simp [h.eq], by simp; rfl, by simp⟩

theorem TagAt.slice?_span (h : TagAt body l tag r) :
    slice? body (byteLength l) (byteLength (l ++ '#' :: tag)) = some ('#' :: tag) :=
  slice?_eq_some_iff.mpr ⟨l, r, by simp [h.eq], rfl, rfl⟩

theorem TagAt.byteOffset (h : TagAt body l tag r) : byteOffset body l.length = byteLength l := by
  rw [Macro.byteOffset, h.take]

end Tags

section Scan

theorem shorthandOffsetsFrom?_eq (done : List Char) (hb : body = done ++ cs)
    (hi : i = done.length) :
    shorthandOffsetsFrom? body (byteLength done) quote cs =
      some ((shorthandPositionsFrom i quote cs).map (byteOffset body)) := by
  have hsnoc : ∀ (c : Char) (done : List Char),
      byteLength done + c.utf8Size = byteLength (done ++ [c]) := by simp
  fun_induction shorthandPositionsFrom i quote cs generalizing done with
  | case1 => simp [shorthandOffsetsFrom?]
  | case2 i q => simp [shorthandOffsetsFrom?]
  | case3 i q d cs ih =>
    rw [shorthandOffsetsFrom?, if_pos rfl, hsnoc, hsnoc]
    exact ih _ (by simp [hb]) (by simp [hi])
  | case4 i c cs q hc ih =>
    rw [shorthandOffsetsFrom?.eq_def]
    simp only [if_neg hc, hsnoc]
    exact ih _ (by simp [hb]) (by simp [hi])
  | case5 i c cs hq ih =>
    simp only [shorthandOffsetsFrom?, if_pos hq, hsnoc]
    exact ih _ (by simp [hb]) (by simp [hi])
  | case6 i c cs hq hw ih =>
    obtain ⟨rfl, hw⟩ := hw
    -- The text behind the `#` is sliced from the body, and is what the scan still has to read.
    have hafter : sliceFrom? body (byteLength done + 1) = some cs := hb ▸ sliceFrom?_append_hash
    have htail := ih (done ++ ['#']) (by simp [hb]) (by simp [hi])
    have hoffset : byteOffset body i = byteLength done := by
      rw [byteOffset, hb, hi, List.take_left]
    simp only [shorthandOffsetsFrom?, if_neg hq, ↓reduceIte, hafter, hsnoc, htail,
      Option.bind_eq_bind, Option.bind_some, wordBytes_pos_iff, if_pos hw, List.map_cons, hoffset]
  | case7 i c cs hq hw ih =>
    have htail := ih (done ++ [c]) (by simp [hb]) (by simp [hi])
    by_cases hc : c = '#'
    · subst hc
      have hafter : sliceFrom? body (byteLength done + 1) = some cs := hb ▸ sliceFrom?_append_hash
      have hw : ¬ 0 < wordBytes cs := fun h => hw ⟨rfl, wordBytes_pos_iff.mp h⟩
      simp only [shorthandOffsetsFrom?, if_neg hq, ↓reduceIte, hafter, hsnoc, htail,
        Option.bind_eq_bind, Option.bind_some, if_neg hw]
    · simp only [shorthandOffsetsFrom?, if_neg hq, if_neg hc, hsnoc]
      exact htail

theorem shorthandOffsets?_eq :
    shorthandOffsets? body = some ((shorthandPositions body).map (byteOffset body)) :=
  shorthandOffsetsFrom?_eq [] rfl rfl

end Scan

section Cuts

theorem tagsFrom_of_pairwise (hb : body = done ++ rest) (hs : ps.Pairwise (· < ·))
    (hd : ∀ p ∈ ps, done.length ≤ p) (ht : ∀ p ∈ ps, ∃ l tag r, TagAt body l tag r ∧ p = l.length) :
    TagsFrom body done rest ps := by
  induction ps generalizing done rest with
  | nil => exact .nil hb
  | cons p ps ih =>
    obtain ⟨l, tag, r, hl, rfl⟩ := ht p List.mem_cons_self
    obtain ⟨mid, rfl, rfl⟩ := (hb ▸ hl).exists_rest_eq (hd _ List.mem_cons_self)
    obtain ⟨hlt, hs⟩ := List.pairwise_cons.mp hs
    refine .cons hl (ih hl.eq hs ?_ fun p hp => ht p (List.mem_cons_of_mem _ hp))
    intro p hp
    obtain ⟨l', tag', r', hl', rfl⟩ := ht p (List.mem_cons_of_mem _ hp)
    exact hl.length_le hl' (hlt _ hp)

theorem tagsFrom_shorthandPositions (body : List Char) :
    TagsFrom body [] body (shorthandPositions body) := by
  refine tagsFrom_of_pairwise rfl pairwise_shorthandPositionsFrom (by simp) ?_
  intro p hp
  obtain ⟨l, tag, r, hs, rfl⟩ := mem_shorthandPositions_iff.mp hp
  exact ⟨l, tag, r, hs.toTagAt, rfl⟩

theorem TagsFrom.eq (h : TagsFrom body done rest ps) : body = done ++ rest := by
  cases h with
  | nil hb => exact hb
  | cons ht _ => simpa using ht.eq

theorem TagsFrom.le_of_mem (h : TagsFrom body done rest ps) :
    ∀ offset ∈ ps.map (byteOffset body), byteLength done ≤ offset := by
  induction h with
  | nil => simp
  | @cons done mid tag r ps ht _ ih =>
    rw [List.map_cons, List.forall_mem_cons, ht.byteOffset]
    refine ⟨by simp, fun offset ho => ?_⟩
    have hle := ih offset ho
    rw [List.append_assoc, byteLength_append] at hle
    omega

theorem SpansApart.cons {offset stop : Nat} {offsets : List Nat} (h : SpansApart body offsets)
    (hstop : spanEnd? body offset = some stop) (hlt : offset < stop)
    (hle : stop ≤ byteLength body) (hstart : String.Pos.Raw.IsValid (String.ofList body) ⟨offset⟩)
    (hend : String.Pos.Raw.IsValid (String.ofList body) ⟨stop⟩)
    (hlater : ∀ later ∈ offsets, stop ≤ later) : SpansApart body (offset :: offsets) where
  increasing := List.pairwise_cons.mpr
    ⟨fun later hl => Nat.lt_of_lt_of_le hlt (hlater later hl), h.increasing⟩
  within := List.forall_mem_cons.mpr ⟨⟨stop, hstop, hlt, hle, hstart, hend⟩, h.within⟩
  apart := by
    refine List.pairwise_cons.mpr ⟨fun later hl stop' hstop' => ?_, h.apart⟩
    obtain rfl : stop = stop' := Option.some.inj (hstop.symm.trans hstop')
    exact hlater later hl

theorem TagsFrom.spansApart (h : TagsFrom body done rest ps) :
    SpansApart body (ps.map (byteOffset body)) := by
  induction h with
  | nil => exact ⟨.nil, by simp, .nil⟩
  | @cons done mid tag r ps ht htags ih =>
    have hstart : body = done ++ mid ++ ('#' :: tag ++ r) := ht.eq.trans (List.append_assoc ..)
    have hlt : byteLength (done ++ mid) < byteLength (done ++ mid ++ '#' :: tag) := by
      rw [byteLength_append (l := done ++ mid), byteLength_hash_cons]
      omega
    have hle : byteLength (done ++ mid ++ '#' :: tag) ≤ byteLength body := by
      rw [htags.eq, byteLength_append (r := r)]
      omega
    rw [List.map_cons, ht.byteOffset]
    exact ih.cons ht.spanEnd? hlt hle (isValid_position_iff.mpr ⟨_, _, hstart, rfl⟩)
      (isValid_position_iff.mpr ⟨_, _, htags.eq, rfl⟩) htags.le_of_mem

end Cuts

section Gluing

theorem TagsFrom.glueSlices?_eq (model : Option Model) (h : TagsFrom body done rest ps) :
    glueSlices? model body (byteLength done) (ps.map (byteOffset body)) =
      some (replaceShorthands model done.length rest ps) := by
  induction h with
  | @nil done rest hb =>
    rw [List.map_nil, glueSlices?, hb, sliceFrom?_append]
    rfl
  | @cons done mid tag r ps ht htags ih =>
    have hbefore : slice? body (byteLength done) (byteLength (done ++ mid)) = some mid :=
      slice?_eq_some_iff.mpr ⟨done, '#' :: tag ++ r, by rw [ht.eq]; simp, rfl, rfl⟩
    have hlen : (done ++ mid ++ '#' :: tag).length = done.length + mid.length + 1 + tag.length := by
      simp; omega
    rw [hlen] at ih
    rw [List.map_cons, ht.byteOffset, List.length_append, replaceShorthands_cons ht]
    simp only [glueSlices?, ht.spanEnd?, ht.slice?_tag, ht.slice?_span, hbefore, ih,
      Option.bind_eq_bind, Option.bind_some, Option.map_some]
    cases taggedFieldName? model tag <;> simp

/-- Where no tag is resolved, the replacement keeps the text. -/
theorem TagsFrom.replaceShorthands_eq (h : TagsFrom body done rest ps)
    (hn : ∀ offset ∈ ps.map (byteOffset body), ∀ stop tag, spanEnd? body offset = some stop →
      slice? body (offset + 1) stop = some tag → taggedFieldName? model tag = none) :
    (replaceShorthands model done.length rest ps).1 = rest := by
  induction h with
  | nil => rfl
  | @cons done mid tag r ps ht htags ih =>
    obtain ⟨hn, hns⟩ := List.forall_mem_cons.mp hn
    rw [ht.byteOffset] at hn
    have htail := ih hns
    rw [List.length_append, List.length_append, List.length_cons, Nat.add_comm tag.length,
      ← Nat.add_assoc] at htail
    rw [List.length_append, replaceShorthands_cons_fst ht, htail,
      hn _ _ ht.spanEnd? ht.slice?_tag, Option.getD_none]

theorem rewriteSlices?_eq :
    rewriteSlices? model body = some (rewriteExpression model body) := by
  have hx : ∀ b, r"{{".toList ++ b ++ r"}}".toList = expression b := fun _ => rfl
  have htags := tagsFrom_shorthandPositions body
  simp only [rewriteExpression, hx, rewriteSlices?, shorthandOffsets?_eq, Option.bind_eq_bind,
    Option.bind_some]
  cases hp : shorthandPositions body with
  | nil => rfl
  | cons p ps =>
    obtain ⟨l, tag, r, hs, rfl, -⟩ := firstShorthand_of_positions hp
    have ht := hs.toTagAt
    have hleading : slice? body 0 (byteLength l) = some l :=
      slice?_eq_some_iff.mpr ⟨[], '#' :: tag ++ r, by rw [ht.eq]; simp, rfl, rfl⟩
    have htrailing : sliceFrom? body (byteLength (l ++ '#' :: tag)) = some r :=
      ht.eq ▸ sliceFrom?_append
    rw [hp] at htags
    have hglue := htags.glueSlices?_eq model
    simp only [byteLength_nil, List.map_cons, ht.byteOffset] at hglue
    simp only [List.map_cons, ht.byteOffset, ht.spanEnd?, ht.slice?_tag, hleading, htrailing, hglue,
      ht.take, ht.drop, takeWhile_append_of_stop ht.word ht.stop,
      dropWhile_append_of_stop ht.word ht.stop, Option.bind_some]
    rw [apply_ite some, apply_ite some]
    cases taggedFieldName? model tag <;> rfl

/-- Every slice the rewriting of an expression takes lies between characters of the body, since the
tags of its shorthands are apart, and the slices give the body back where no tag stands for a
field. -/
theorem rewriting_slices_between_characters (model : Option Model) (body : List Char) :
    ∃ offsets, shorthandOffsets? body = some offsets ∧
      offsets = (shorthandPositions body).map (byteOffset body) ∧
      SpansApart body offsets ∧
      rewriteSlices? model body = some (rewriteExpression model body) ∧
      ((∀ offset ∈ offsets, ∀ stop tag, spanEnd? body offset = some stop →
          slice? body (offset + 1) stop = some tag → taggedFieldName? model tag = none) →
        (glueSlices? model body 0 offsets).map Prod.fst = some body) := by
  have htags := tagsFrom_shorthandPositions body
  refine ⟨_, shorthandOffsets?_eq, rfl, htags.spansApart, rewriteSlices?_eq, fun hn => ?_⟩
  have hglue := htags.glueSlices?_eq model
  rw [byteLength_nil] at hglue
  rw [hglue, Option.map_some, htags.replaceShorthands_eq hn]

theorem rewriting_slices_between_characters_doubled :
    shorthandOffsets? "x ##é#b".toList = some [3, 6] ∧ SpansApart "x ##é#b".toList [3, 6] ∧
      rewriteSlices? none "x ##é#b".toList = some (rewriteExpression none "x ##é#b".toList) ∧
      (glueSlices? none "x ##é#b".toList 0 [3, 6]).map Prod.fst = some "x ##é#b".toList := by
  obtain ⟨offsets, ho, -, hs, hr, hg⟩ :=
    rewriting_slices_between_characters none "x ##é#b".toList
  obtain rfl : offsets = [3, 6] := Option.some.inj (ho.symm.trans (by decide))
  exact ⟨ho, hs, hr, hg fun _ _ _ _ _ _ => rfl⟩

end Gluing

end Stencil.Macro
