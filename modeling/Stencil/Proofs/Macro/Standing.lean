import Stencil.Proofs.Macro.Literal

/-! # Two scans of one expression

The search for the end of an expression flags a backslash in a literal until it has read one more
character. The search for shorthands reads the backslash and that character at once, and sees
nothing behind the body. Yet both stand alike among the literals after every text that they have
read, so in a body they agree on what is outside.
-/

namespace Stencil.Macro

/-- How a scan stands among the string literals: which delimiter is open, and whether a backslash
waits for the character that it escapes. -/
structure Standing where
  quote : Option Char := none
  escaped : Bool := false
  deriving DecidableEq, Repr

/-- How the search for the end of an expression stands after one more character. -/
def Standing.next (st : Standing) (c : Char) : Standing :=
  match st.quote with
  | none => { quote := openedBy c }
  | some q =>
    if st.escaped then { quote := some q }
    else if c = '\\' then { quote := some q, escaped := true }
    else { quote := leftOpen q c }

/-- How the search for the end of an expression stands behind a text in which it does not stop. -/
def endStanding (st : Standing) (cs : List Char) : Standing :=
  cs.foldl Standing.next st

def shorthandStanding (quote : Option Char) : List Char → Standing
  | [] => { quote }
  | c :: cs =>
    match quote with
    | none => shorthandStanding (openedBy c) cs
    | some q =>
      if c = '\\' then
        match cs with
        | [] => { quote := some q, escaped := true }
        | _ :: cs => shorthandStanding (some q) cs
      else shorthandStanding (leftOpen q c) cs

variable {i e : Nat} {c q : Char} {quote quote' : Option Char} {st : Standing}
  {s cs pre body : List Char} {P : List Char → Prop}

section EndOfExpression

/-- The search stops at a character, or goes on as it then stands. -/
theorem expressionEndFrom_cons : expressionEndFrom i st.quote st.escaped (c :: cs) =
    if st.quote = none ∧ c = '}' ∧ cs.head? = some '}' then some i
    else expressionEndFrom (i + 1) (st.next c).quote (st.next c).escaped cs := by
  obtain ⟨_ | q, escaped⟩ := st
  · by_cases hq : isQuote c = true
    · have hc : c ≠ '}' := by rintro rfl; exact absurd hq (by decide)
      simp [expressionEndFrom, Standing.next, openedBy_of_isQuote hq, hq, hc]
    · simp [expressionEndFrom, Standing.next, openedBy_of_not_isQuote hq, hq]
  · by_cases hc : c = '\\' <;> cases escaped <;>
      simp [expressionEndFrom, Standing.next, leftOpen, hc]

/-- The search comes to each place before the end that it finds as it then stands. -/
theorem expressionEndFrom_resumes (st : Standing)
    (h : expressionEndFrom i st.quote st.escaped (pre ++ cs) = some e) (hle : i + pre.length ≤ e) :
    expressionEndFrom (i + pre.length) (endStanding st pre).quote (endStanding st pre).escaped cs =
      some e := by
  induction pre generalizing i st with
  | nil => exact h
  | cons c pre ih =>
    rw [List.length_cons, Nat.add_comm pre.length, ← Nat.add_assoc] at hle ⊢
    rw [List.cons_append, expressionEndFrom_cons] at h
    split at h
    · obtain rfl := Option.some.inj h
      omega
    · exact ih _ h hle

end EndOfExpression

section Shorthands

theorem shorthandStanding_eq_endStanding (quote : Option Char) (cs : List Char) :
    shorthandStanding quote cs = endStanding { quote } cs := by
  fun_induction shorthandStanding quote cs with
  | case1 => rfl
  | case2 c cs ih => rw [ih]; rfl
  | case3 q => rfl
  | case4 q d cs ih => rw [ih]; rfl
  | case5 c cs q hc ih => simp [ih, endStanding, Standing.next, hc]

theorem reads_iff_shorthandStanding :
    Reads quote cs quote' ↔ shorthandStanding quote cs = { quote := quote' } := by
  fun_induction shorthandStanding quote cs with
  | case1 => simp
  | case2 c cs ih => rw [reads_none_cons_iff, ih]
  | case3 q => simp [not_reads_backslash]
  | case4 q d cs ih => rw [reads_escape_iff, ih]
  | case5 c cs q hc ih => rw [reads_some_cons_iff hc, ih]

theorem shorthandStanding_eq_outside_iff :
    shorthandStanding quote cs = {} ↔ (shorthandStanding quote cs).quote = none := by
  fun_induction shorthandStanding quote cs with
  | case1 => simp
  | case3 => simp
  | case2 | case4 | case5 => assumption

theorem shorthandPositionsFrom_none_cons : shorthandPositionsFrom i none (c :: cs) =
    (if c = '#' ∧ 0 < wordLength cs then [i] else []) ++
      shorthandPositionsFrom (i + 1) (openedBy c) cs := by
  by_cases hq : isQuote c = true
  · have hc : c ≠ '#' := by rintro rfl; exact absurd hq (by decide)
    simp [shorthandPositionsFrom, openedBy_of_isQuote hq, hq, hc]
  · rw [shorthandPositionsFrom, if_neg hq, openedBy_of_not_isQuote hq]
    split <;> rfl

theorem shorthandPositionsFrom_some_cons (hc : c ≠ '\\') :
    shorthandPositionsFrom i (some q) (c :: cs) =
      shorthandPositionsFrom (i + 1) (leftOpen q c) cs := by
  rw [shorthandPositionsFrom.eq_def]
  simp only [if_neg hc, leftOpen]

theorem shorthandPositionsFrom_escape : shorthandPositionsFrom i (some q) ('\\' :: c :: cs) =
    shorthandPositionsFrom (i + 2) (some q) cs := by
  rw [shorthandPositionsFrom.eq_def]
  simp only [if_true]

theorem shorthandPositionsFrom_resumes (cs : List Char)
    (h : (shorthandStanding quote pre).escaped = false) :
    ∃ ps, (∀ p ∈ ps, p < i + pre.length) ∧ shorthandPositionsFrom i quote (pre ++ cs) =
      ps ++ shorthandPositionsFrom (i + pre.length) (shorthandStanding quote pre).quote cs := by
  fun_induction shorthandStanding quote pre generalizing i with
  | case1 => exact ⟨[], by simp, rfl⟩
  | case2 c pre ih =>
    obtain ⟨ps, hps, he⟩ := ih (i := i + 1) h
    rw [List.length_cons, Nat.add_comm pre.length, ← Nat.add_assoc, List.cons_append,
      shorthandPositionsFrom_none_cons, he, ← List.append_assoc]
    refine ⟨_, fun p hp => ?_, rfl⟩
    rcases List.mem_append.mp hp with hp | hp
    · have : p = i := by split at hp <;> simp_all
      omega
    · exact hps p hp
  | case3 q => cases h
  | case4 q d pre ih =>
    obtain ⟨ps, hps, he⟩ := ih (i := i + 2) h
    have hlen : i + ('\\' :: d :: pre).length = i + 2 + pre.length := by simp; omega
    rw [hlen, List.cons_append, List.cons_append, shorthandPositionsFrom_escape]
    exact ⟨ps, hps, he⟩
  | case5 c pre q hc ih =>
    obtain ⟨ps, hps, he⟩ := ih (i := i + 1) h
    rw [List.length_cons, Nat.add_comm pre.length, ← Nat.add_assoc, List.cons_append,
      shorthandPositionsFrom_some_cons hc]
    exact ⟨ps, hps, he⟩

theorem outsideAt_iff : OutsideAt P none cs 0 i ↔
    i ≤ cs.length ∧ P (cs.drop i) ∧ shorthandStanding none (cs.take i) = {} := by
  rw [← reads_iff_shorthandStanding]
  constructor
  · rintro ⟨before, after, ⟨rfl, hr⟩, hp, rfl⟩
    simp [hp, hr]
  · rintro ⟨hi, hp, hr⟩
    refine ⟨cs.take i, cs.drop i, ⟨(List.take_append_drop i cs).symm, hr⟩, hp, ?_⟩
    rw [List.length_take_of_le hi, Nat.zero_add]

theorem wordLength_pos_iff : 0 < wordLength cs ↔ ∃ c, cs.head? = some c ∧ isWord c = true := by
  cases cs with
  | nil => simp [wordLength]
  | cons c cs => by_cases hc : isWord c = true <;> simp [wordLength, hc]

theorem beginsShorthand_drop_iff : BeginsShorthand (body.drop i) ↔
    body[i]? = some '#' ∧ ∃ c, body[i + 1]? = some c ∧ isWord c = true := by
  rw [← List.head?_drop, ← List.head?_drop, ← wordLength_pos_iff, ← List.drop_drop]
  rcases body.drop i with _ | ⟨c, cs⟩
  · simp [BeginsShorthand]
  · simp [beginsShorthand_cons_iff]

theorem mem_shorthandPositions_iff_standing : i ∈ shorthandPositions body ↔
    body[i]? = some '#' ∧ (∃ c, body[i + 1]? = some c ∧ isWord c = true) ∧
      shorthandStanding none (body.take i) = {} := by
  rw [shorthandPositions, mem_shorthandPositionsFrom_iff, outsideAt_iff, beginsShorthand_drop_iff,
    and_assoc]
  refine and_iff_right_of_imp fun h => ?_
  exact Nat.le_of_lt (List.getElem?_eq_some_iff.mp h.1).1

/-- In the body of an expression, the shorthands that are found are those at which the search for
the end of the expression is outside the literals. The search for shorthands is itself outside
behind the body, and no backslash waits: whatever follows is searched as from a beginning. -/
theorem scans_agree_on_body (h : expressionEnd? s = some e) :
    (∀ i ≤ e, expressionEndFrom i (endStanding {} (s.take i)).quote
      (endStanding {} (s.take i)).escaped (s.drop i) = some e) ∧
    (∀ i, i ∈ shorthandPositions (s.take e) ↔ s[i]? = some '#' ∧
      (∃ c, (s.take e)[i + 1]? = some c ∧ isWord c = true) ∧
      (endStanding {} (s.take i)).quote = none) ∧
    shorthandStanding none (s.take e) = {} ∧
    ∀ rest, ∃ ps, (∀ p ∈ ps, p < e) ∧
      shorthandPositions (s.take e ++ rest) = ps ++ shorthandPositionsFrom e none rest := by
  have hclose := closes_of_expressionEnd? h
  have hle : e ≤ s.length := by
    have hlength := congrArg List.length hclose.eq
    simp at hlength
    omega
  have hlen : ∀ i ≤ e, (s.take i).length = i :=
    fun i hi => List.length_take_of_le (Nat.le_trans hi hle)
  have houtside := reads_iff_shorthandStanding.mp hclose.reads
  refine ⟨fun i hi => ?_, fun i => ?_, houtside, fun rest => ?_⟩
  · have hs : expressionEndFrom 0 none false (s.take i ++ s.drop i) = some e := by
      rwa [List.take_append_drop]
    have hr := expressionEndFrom_resumes {} hs (by rwa [hlen i hi, Nat.zero_add])
    rwa [hlen i hi, Nat.zero_add] at hr
  · rw [mem_shorthandPositions_iff_standing, shorthandStanding_eq_outside_iff,
      shorthandStanding_eq_endStanding, and_left_comm, and_left_comm (a := s[i]? = some '#')]
    -- The word character stands in the body, so the place before it does.
    refine and_congr_right fun ⟨c, hc, _⟩ => ?_
    have hi : i + 1 < e := by
      have hlt := (List.getElem?_eq_some_iff.mp hc).1
      rwa [hlen e (Nat.le_refl e)] at hlt
    rw [List.getElem?_take_of_lt (by omega), List.take_take, Nat.min_eq_left (by omega)]
  · have hr := shorthandPositionsFrom_resumes (i := 0) rest (congrArg Standing.escaped houtside)
    rwa [houtside, hlen e (Nat.le_refl e), Nat.zero_add] at hr

/-- A tag and closing braces behind an escaped quote in a literal, and a tag outside. -/
def quotedAndPlain : List Char := r#"t "\"}}#a" #b}} #c"#.toList

theorem scans_agree_on_quotedAndPlain :
    expressionEnd? quotedAndPlain = some 13 ∧
      7 ∉ shorthandPositions (quotedAndPlain.take 13) ∧
      11 ∈ shorthandPositions (quotedAndPlain.take 13) ∧
      shorthandStanding none (quotedAndPlain.take 13) = {} := by
  have hend : expressionEnd? quotedAndPlain = some 13 := by decide
  obtain ⟨-, hmem, hstanding, -⟩ := scans_agree_on_body hend
  refine ⟨hend, fun h => ?_, (hmem 11).mpr ⟨by decide, ⟨'b', by decide, by decide⟩, by decide⟩,
    hstanding⟩
  exact absurd ((hmem 7).mp h).2.2 (by decide)

end Shorthands

end Stencil.Macro
