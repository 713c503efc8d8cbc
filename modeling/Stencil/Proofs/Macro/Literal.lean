import Stencil.Macro.Shorthand

/-! # Places outside string literals

The search for shorthands and the search for the end of an expression follow the same string
literals: both stop only at places where no literal is open.
-/

namespace Stencil.Macro

/-- Reading a text changes the delimiter of the open literal from the first to the second. -/
inductive Reads : Option Char → List Char → Option Char → Prop where
  | nil (quote : Option Char) : Reads quote [] quote
  | plain {c : Char} {cs : List Char} {quote : Option Char} :
      isQuote c = false → Reads none cs quote → Reads none (c :: cs) quote
  | opening {q : Char} {cs : List Char} {quote : Option Char} :
      isQuote q = true → Reads (some q) cs quote → Reads none (q :: cs) quote
  | inner {q c : Char} {cs : List Char} {quote : Option Char} :
      c ≠ '\\' → c ≠ q → Reads (some q) cs quote → Reads (some q) (c :: cs) quote
  | escape {q c : Char} {cs : List Char} {quote : Option Char} :
      Reads (some q) cs quote → Reads (some q) ('\\' :: c :: cs) quote
  | closing {q : Char} {cs : List Char} {quote : Option Char} :
      q ≠ '\\' → Reads none cs quote → Reads (some q) (q :: cs) quote

/-- A text is cut at a place outside the literals, where `quote` is open at its beginning. -/
structure CutOutside (quote : Option Char) (text before after : List Char) : Prop where
  eq : text = before ++ after
  reads : Reads quote before none

variable {i n p : Nat} {c q : Char} {quote quote' : Option Char} {cs before after : List Char}

/-- The delimiter that is open after a character outside the literals. -/
def openedBy (c : Char) : Option Char :=
  if isQuote c then some c else none

theorem openedBy_of_isQuote (hc : isQuote c = true) : openedBy c = some c := if_pos hc

theorem openedBy_of_not_isQuote (hc : ¬ isQuote c = true) : openedBy c = none := if_neg hc

/-- The delimiter that is open after a character other than the backslash inside a literal. -/
def leftOpen (q c : Char) : Option Char :=
  if c = q then none else some q

@[simp] theorem reads_nil_iff : Reads quote [] quote' ↔ quote = quote' := by
  constructor
  · intro h; cases h; rfl
  · rintro rfl; exact .nil _

@[simp] theorem reads_none_cons_iff : Reads none (c :: cs) quote ↔ Reads (openedBy c) cs quote := by
  constructor
  · intro h
    cases h with
    | plain hc h => rwa [openedBy_of_not_isQuote (by simp [hc])]
    | opening hc h => rwa [openedBy_of_isQuote hc]
  · intro h
    by_cases hc : isQuote c = true
    · rw [openedBy_of_isQuote hc] at h
      exact .opening hc h
    · rw [openedBy_of_not_isQuote hc] at h
      exact .plain (by simpa using hc) h

theorem reads_some_cons_iff (hc : c ≠ '\\') :
    Reads (some q) (c :: cs) quote ↔ Reads (leftOpen q c) cs quote := by
  unfold leftOpen
  constructor
  · intro h
    cases h with
    | inner _ hq h => simpa [hq] using h
    | escape => exact absurd rfl hc
    | closing _ h => simpa using h
  · intro h
    split at h
    · subst c; exact .closing hc h
    · exact .inner hc ‹_› h

theorem not_reads_backslash : ¬ Reads (some q) ['\\'] quote := by
  intro h
  cases h <;> contradiction

theorem reads_escape_iff : Reads (some q) ('\\' :: c :: cs) quote ↔ Reads (some q) cs quote := by
  constructor
  · intro h
    cases h <;> first | assumption | contradiction
  · exact .escape

theorem cutOutside_nil_iff :
    CutOutside quote [] before after ↔ quote = none ∧ before = [] ∧ after = [] := by
  constructor
  · rintro ⟨he, hr⟩
    obtain ⟨rfl, rfl⟩ := List.append_eq_nil_iff.mp he.symm
    exact ⟨reads_nil_iff.mp hr, rfl, rfl⟩
  · rintro ⟨rfl, rfl, rfl⟩
    exact ⟨rfl, .nil _⟩

theorem cutOutside_none_cons_iff : CutOutside none (c :: cs) before after ↔
    before = [] ∧ after = c :: cs ∨
      ∃ b, before = c :: b ∧ CutOutside (openedBy c) cs b after := by
  constructor
  · rintro ⟨he, hr⟩
    cases before with
    | nil => exact .inl ⟨rfl, he.symm⟩
    | cons d b =>
      obtain ⟨rfl, he'⟩ := List.cons.inj he
      exact .inr ⟨b, rfl, he', reads_none_cons_iff.mp hr⟩
  · rintro (⟨rfl, rfl⟩ | ⟨b, rfl, rfl, hr⟩)
    · exact ⟨rfl, .nil _⟩
    · exact ⟨rfl, reads_none_cons_iff.mpr hr⟩

theorem cutOutside_some_cons_iff (hc : c ≠ '\\') : CutOutside (some q) (c :: cs) before after ↔
    ∃ b, before = c :: b ∧ CutOutside (leftOpen q c) cs b after := by
  constructor
  · rintro ⟨he, hr⟩
    cases before with
    | nil => simp at hr
    | cons d b =>
      obtain ⟨rfl, he'⟩ := List.cons.inj he
      exact ⟨b, rfl, he', (reads_some_cons_iff hc).mp hr⟩
  · rintro ⟨b, rfl, rfl, hr⟩
    exact ⟨rfl, (reads_some_cons_iff hc).mpr hr⟩

theorem not_cutOutside_backslash : ¬ CutOutside (some q) ['\\'] before after := by
  rintro ⟨he, hr⟩
  match before with
  | [] => simp at hr
  | [d] =>
    obtain ⟨rfl, -⟩ := List.cons.inj he
    exact not_reads_backslash hr
  | d :: e :: b => simp at he

theorem cutOutside_escape_iff : CutOutside (some q) ('\\' :: c :: cs) before after ↔
    ∃ b, before = '\\' :: c :: b ∧ CutOutside (some q) cs b after := by
  constructor
  · rintro ⟨he, hr⟩
    match before with
    | [] => simp at hr
    | [d] =>
      obtain ⟨rfl, -⟩ := List.cons.inj he
      exact absurd hr not_reads_backslash
    | d :: e :: b =>
      obtain ⟨rfl, rfl, he'⟩ : '\\' = d ∧ c = e ∧ cs = b ++ after := by simpa using he
      exact ⟨b, rfl, he', reads_escape_iff.mp hr⟩
  · rintro ⟨b, rfl, rfl, hr⟩
    exact ⟨rfl, reads_escape_iff.mpr hr⟩

/-- Position `p`, counted from `i`, is outside the literals, and what follows it has a property. -/
def OutsideAt (P : List Char → Prop) (quote : Option Char) (cs : List Char) (i p : Nat) : Prop :=
  ∃ before after, CutOutside quote cs before after ∧ P after ∧ p = i + before.length

variable {P : List Char → Prop}

theorem le_of_outsideAt (h : OutsideAt P quote cs i p) : i ≤ p := by
  obtain ⟨b, a, -, -, rfl⟩ := h
  exact Nat.le_add_right i b.length

theorem outsideAt_nil_iff : OutsideAt P quote [] i p ↔ quote = none ∧ P [] ∧ p = i := by
  constructor
  · rintro ⟨b, a, h, hp, rfl⟩
    obtain ⟨rfl, rfl, rfl⟩ := cutOutside_nil_iff.mp h
    exact ⟨rfl, hp, rfl⟩
  · rintro ⟨rfl, hp, rfl⟩
    exact ⟨[], [], cutOutside_nil_iff.mpr ⟨rfl, rfl, rfl⟩, hp, rfl⟩

theorem outsideAt_none_cons_iff : OutsideAt P none (c :: cs) i p ↔
    P (c :: cs) ∧ p = i ∨ OutsideAt P (openedBy c) cs (i + 1) p := by
  constructor
  · rintro ⟨b, a, h, hp, rfl⟩
    rcases cutOutside_none_cons_iff.mp h with ⟨rfl, rfl⟩ | ⟨b, rfl, h'⟩
    · exact .inl ⟨hp, rfl⟩
    · exact .inr ⟨b, a, h', hp, by simp; omega⟩
  · rintro (⟨hp, rfl⟩ | ⟨b, a, h, hp, rfl⟩)
    · exact ⟨[], c :: cs, ⟨rfl, .nil _⟩, hp, rfl⟩
    · exact ⟨c :: b, a, cutOutside_none_cons_iff.mpr (.inr ⟨b, rfl, h⟩), hp, by simp; omega⟩

theorem outsideAt_some_cons_iff (hc : c ≠ '\\') :
    OutsideAt P (some q) (c :: cs) i p ↔ OutsideAt P (leftOpen q c) cs (i + 1) p := by
  constructor
  · rintro ⟨b, a, h, hp, rfl⟩
    obtain ⟨b, rfl, h'⟩ := (cutOutside_some_cons_iff hc).mp h
    exact ⟨b, a, h', hp, by simp; omega⟩
  · rintro ⟨b, a, h, hp, rfl⟩
    exact ⟨c :: b, a, (cutOutside_some_cons_iff hc).mpr ⟨b, rfl, h⟩, hp, by simp; omega⟩

theorem outsideAt_escape_iff :
    OutsideAt P (some q) ('\\' :: c :: cs) i p ↔ OutsideAt P (some q) cs (i + 2) p := by
  constructor
  · rintro ⟨b, a, h, hp, rfl⟩
    obtain ⟨b, rfl, h'⟩ := cutOutside_escape_iff.mp h
    exact ⟨b, a, h', hp, by simp; omega⟩
  · rintro ⟨b, a, h, hp, rfl⟩
    exact ⟨'\\' :: c :: b, a, cutOutside_escape_iff.mpr ⟨b, rfl, h⟩, hp, by simp; omega⟩

theorem not_outsideAt_backslash : ¬ OutsideAt P (some q) ['\\'] i p := by
  rintro ⟨b, a, h, -⟩
  exact not_cutOutside_backslash h

/-- A `#` before a word character. -/
def BeginsShorthand (cs : List Char) : Prop :=
  ∃ after, cs = '#' :: after ∧ 0 < wordLength after

theorem beginsShorthand_cons_iff : BeginsShorthand (c :: cs) ↔ c = '#' ∧ 0 < wordLength cs := by
  simp [BeginsShorthand, and_assoc]

theorem not_beginsShorthand_of_isQuote (hc : isQuote c = true) : ¬ BeginsShorthand (c :: cs) := by
  rw [beginsShorthand_cons_iff]
  rintro ⟨rfl, -⟩
  simp [isQuote] at hc

theorem mem_shorthandPositionsFrom_iff :
    p ∈ shorthandPositionsFrom i quote cs ↔ OutsideAt BeginsShorthand quote cs i p := by
  fun_induction shorthandPositionsFrom i quote cs with
  | case1 i quote => simp [outsideAt_nil_iff, BeginsShorthand]
  | case2 i q => simp [not_outsideAt_backslash]
  | case3 i q c cs ih => rw [ih, outsideAt_escape_iff]
  | case4 i c cs q hc ih => rw [ih, outsideAt_some_cons_iff hc, leftOpen]
  | case5 i c cs hq ih =>
    simp [ih, outsideAt_none_cons_iff, openedBy_of_isQuote hq, not_beginsShorthand_of_isQuote hq]
  | case6 i c cs hq hw ih =>
    rw [List.mem_cons, ih, outsideAt_none_cons_iff, openedBy_of_not_isQuote hq,
      beginsShorthand_cons_iff, and_iff_right hw]
  | case7 i c cs hq hw ih =>
    rw [ih, outsideAt_none_cons_iff, openedBy_of_not_isQuote hq, beginsShorthand_cons_iff]
    simp only [hw, false_and, false_or]

theorem pairwise_shorthandPositionsFrom : (shorthandPositionsFrom i quote cs).Pairwise (· < ·) := by
  fun_induction shorthandPositionsFrom i quote cs with
  | case1 | case2 => exact .nil
  | case3 _ _ _ _ ih | case4 _ _ _ _ _ ih | case5 _ _ _ _ ih | case7 _ _ _ _ _ ih => exact ih
  | case6 i c cs hq hw ih =>
    refine .cons ?_ ih
    intro p hp
    exact le_of_outsideAt (mem_shorthandPositionsFrom_iff.mp hp)

def BeginsClosing (cs : List Char) : Prop :=
  ∃ after, cs = '}' :: '}' :: after

theorem beginsClosing_cons_iff : BeginsClosing (c :: cs) ↔ c = '}' ∧ cs.head? = some '}' := by
  cases cs <;> simp [BeginsClosing]

theorem not_beginsClosing_of_isQuote (hc : isQuote c = true) : ¬ BeginsClosing (c :: cs) := by
  rw [beginsClosing_cons_iff]
  rintro ⟨rfl, -⟩
  simp [isQuote] at hc

theorem expressionEndFrom_escape : expressionEndFrom i (some q) false ('\\' :: c :: cs) =
    expressionEndFrom (i + 2) (some q) false cs := by
  simp [expressionEndFrom]

/-- The end that is found, if any, is the first pair of closing braces outside the literals. -/
def IsEnd (quote : Option Char) (cs : List Char) (i : Nat) : Option Nat → Prop
  | some n => OutsideAt BeginsClosing quote cs i n ∧
      ∀ m, OutsideAt BeginsClosing quote cs i m → n ≤ m
  | none => ∀ m, ¬ OutsideAt BeginsClosing quote cs i m

theorem isEnd_congr {quote' : Option Char} {cs' : List Char} {i' : Nat} {r : Option Nat}
    (h : ∀ m, OutsideAt BeginsClosing quote cs i m ↔ OutsideAt BeginsClosing quote' cs' i' m) :
    IsEnd quote cs i r ↔ IsEnd quote' cs' i' r := by
  cases r <;> simp only [IsEnd, h]

theorem isEnd_expressionEndFrom : IsEnd quote cs i (expressionEndFrom i quote false cs) := by
  induction i, quote, cs using shorthandPositionsFrom.induct with
  | case1 i quote => simp [expressionEndFrom, IsEnd, outsideAt_nil_iff, BeginsClosing]
  | case2 i q => simp [expressionEndFrom, IsEnd, not_outsideAt_backslash]
  | case3 i q c cs ih =>
    rw [expressionEndFrom_escape]
    exact (isEnd_congr fun m => outsideAt_escape_iff).mpr ih
  | case4 i c cs q hc ih =>
    have he : expressionEndFrom i (some q) false (c :: cs) =
        expressionEndFrom (i + 1) (leftOpen q c) false cs := by
      simp [expressionEndFrom, hc, leftOpen]
    rw [he]
    exact (isEnd_congr fun m => outsideAt_some_cons_iff hc).mpr ih
  | case5 i c cs hq ih =>
    have he : expressionEndFrom i none false (c :: cs) =
        expressionEndFrom (i + 1) (some c) false cs := by
      simp [expressionEndFrom, hq]
    rw [he]
    refine (isEnd_congr fun m => ?_).mpr ih
    simp [outsideAt_none_cons_iff, openedBy_of_isQuote hq, not_beginsClosing_of_isQuote hq]
  | case6 i c cs hq _ ih | case7 i c cs hq _ ih =>
    by_cases hc : BeginsClosing (c :: cs)
    · have he : expressionEndFrom i none false (c :: cs) = some i := by
        rw [expressionEndFrom, if_neg hq, if_pos (beginsClosing_cons_iff.mp hc)]
      rw [he]
      exact ⟨outsideAt_none_cons_iff.mpr (.inl ⟨hc, rfl⟩), fun m hm => le_of_outsideAt hm⟩
    · have he : expressionEndFrom i none false (c :: cs) =
          expressionEndFrom (i + 1) none false cs := by
        rw [expressionEndFrom, if_neg hq, if_neg (mt beginsClosing_cons_iff.mpr hc)]
      rw [he]
      refine (isEnd_congr fun m => ?_).mpr ih
      simp only [outsideAt_none_cons_iff, openedBy_of_not_isQuote hq, hc, false_and, false_or]

/-- The body of an expression ends at the first pair of closing braces outside the literals. -/
structure Closes (cs body rest : List Char) : Prop where
  eq : cs = body ++ '}' :: '}' :: rest
  reads : Reads none body none
  le_of_closing : ∀ b r, cs = b ++ '}' :: '}' :: r → Reads none b none → body.length ≤ b.length

theorem Closes.unique {body body' rest rest' : List Char} (h : Closes cs body rest)
    (h' : Closes cs body' rest') : body = body' ∧ rest = rest' := by
  have hl : body.length = body'.length :=
    Nat.le_antisymm (h.le_of_closing _ _ h'.eq h'.reads) (h'.le_of_closing _ _ h.eq h.reads)
  simpa using List.append_inj (h.eq.symm.trans h'.eq) hl

theorem outsideAt_beginsClosing_iff : OutsideAt BeginsClosing none cs 0 n ↔
    ∃ body rest, cs = body ++ '}' :: '}' :: rest ∧ Reads none body none ∧ n = body.length := by
  constructor
  · rintro ⟨b, _, ⟨he, hr⟩, ⟨r, rfl⟩, rfl⟩
    exact ⟨b, r, he, hr, by simp⟩
  · rintro ⟨b, r, he, hr, rfl⟩
    exact ⟨b, _, ⟨he, hr⟩, ⟨r, rfl⟩, by simp⟩

theorem closes_of_expressionEnd? (h : expressionEnd? cs = some n) :
    Closes cs (cs.take n) (cs.drop (n + 2)) := by
  obtain ⟨hn, hle⟩ : IsEnd none cs 0 (some n) := h ▸ isEnd_expressionEndFrom
  obtain ⟨body, rest, rfl, hr, rfl⟩ := outsideAt_beginsClosing_iff.mp hn
  refine ⟨by simp, by simpa using hr, fun b r he hb => ?_⟩
  simpa using hle b.length (outsideAt_beginsClosing_iff.mpr ⟨b, r, he, hb, rfl⟩)

theorem not_closes_of_expressionEnd? {body rest : List Char} (h : expressionEnd? cs = none) :
    ¬ Closes cs body rest := by
  intro hc
  have hn : IsEnd none cs 0 none := h ▸ isEnd_expressionEndFrom
  exact hn body.length (outsideAt_beginsClosing_iff.mpr ⟨body, rest, hc.eq, hc.reads, rfl⟩)

end Stencil.Macro
