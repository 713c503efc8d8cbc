import Stencil.Config.Readable
import Stencil.Proofs.Text.Trim
import Stencil.Toml.Readable

/-! # File modes as they are written

A text that is read as a mode is a number in octal digits. Blanks may stand around it, and any
number of `0o` and one plus sign before it. What is read is the value of the digits, or nothing if
it does not fit into 32 bits.
-/

namespace Stencil

namespace FileMode

def IsOctalDigit (c : Char) : Prop :=
  '0' ≤ c ∧ c ≤ '7'

/-- The text is a number in octal digits, which may have a plus sign. -/
inductive IsNumber : List Char → Nat → Prop where
  | digits {cs : List Char} : cs ≠ [] → (∀ c ∈ cs, IsOctalDigit c) →
      IsNumber cs (Nat.ofDigitChars 8 cs 0)
  | plus {cs : List Char} : cs ≠ [] → (∀ c ∈ cs, IsOctalDigit c) →
      IsNumber ('+' :: cs) (Nat.ofDigitChars 8 cs 0)

/-- The text stands for the number: between blanks there are some `0o` and the number itself. -/
def StandsFor (text : List Char) (n : Nat) : Prop :=
  ∃ left copies number right, (∀ c ∈ left, isBlank c = true) ∧ (∀ c ∈ right, isBlank c = true) ∧
    text = left ++ ((List.replicate copies ['0', 'o']).flatten ++ number ++ right) ∧
    IsNumber number n

variable {cs text : List Char} {c : Char} {n m : Nat} {mode : UInt32}

section Digits

instance (c : Char) : Decidable (IsOctalDigit c) :=
  inferInstanceAs (Decidable (_ ∧ _))

theorem IsOctalDigit.isBlank_eq (h : IsOctalDigit c) : isBlank c = false := by
  obtain ⟨hlow, hhigh⟩ := h
  have hlow : 48 ≤ c.toNat := hlow
  have hhigh : c.toNat ≤ 55 := hhigh
  simp [isBlank]
  omega

theorem octalDigit?_of_isOctalDigit (h : IsOctalDigit c) :
    octalDigit? c = some (c.toNat - '0'.toNat) :=
  if_pos h

theorem octalDigit?_eq_none (h : ¬ IsOctalDigit c) : octalDigit? c = none :=
  if_neg h

theorem le_ofDigitChars (n : Nat) (cs : List Char) : n ≤ Nat.ofDigitChars 8 cs n := by
  induction cs generalizing n with
  | nil => exact Nat.le_refl n
  | cons c cs ih =>
    rw [Nat.ofDigitChars_cons]
    exact Nat.le_trans (by omega) (ih _)

/-- Octal digits are read as their value, or refused as too large. -/
theorem readDigits_of_isOctalDigit (h : ∀ c ∈ cs, IsOctalDigit c) (hn : n < UInt32.size) :
    readDigits n cs =
      if Nat.ofDigitChars 8 cs n < UInt32.size then .ok (Nat.ofDigitChars 8 cs n)
      else .error .tooLarge := by
  induction cs generalizing n with
  | nil => exact (if_pos hn).symm
  | cons c cs ih =>
    obtain ⟨hc, hcs⟩ := List.forall_mem_cons.mp h
    rw [readDigits, octalDigit?_of_isOctalDigit hc, Nat.ofDigitChars_cons, Nat.mul_comm 8 n]
    dsimp only
    split
    · next hlt => exact ih hcs hlt
    · next hge =>
      have hle := le_ofDigitChars (n * 8 + (c.toNat - '0'.toNat)) cs
      exact (if_neg fun hlt => hge (Nat.lt_of_le_of_lt hle hlt)).symm

theorem isOctalDigit_of_readDigits (h : readDigits n cs = .ok m) : ∀ c ∈ cs, IsOctalDigit c := by
  induction cs generalizing n with
  | nil => exact List.forall_mem_nil _
  | cons c cs ih =>
    rw [readDigits] at h
    by_cases hc : IsOctalDigit c
    · rw [octalDigit?_of_isOctalDigit hc] at h
      dsimp only at h
      split at h
      · exact List.forall_mem_cons.mpr ⟨hc, ih h⟩
      · cases h
    · rw [octalDigit?_eq_none hc] at h
      cases h

end Digits

section Numbers

theorem IsNumber.readNumber_eq (h : IsNumber cs n) :
    readNumber cs = if n < UInt32.size then .ok n else .error .tooLarge := by
  cases h with
  | digits hne hcs =>
    rw [← readDigits_of_isOctalDigit hcs (by decide)]
    unfold readNumber
    split
    · exact absurd rfl hne
    · exact absurd (hcs '+' (List.mem_singleton_self _)) (by decide)
    · exact absurd (hcs '+' List.mem_cons_self) (by decide)
    · rfl
  | @plus cs hne hcs =>
    rw [← readDigits_of_isOctalDigit hcs (by decide)]
    cases cs with
    | nil => exact absurd rfl hne
    | cons c cs => rfl

theorem isNumber_of_readNumber (h : readNumber cs = .ok n) : IsNumber cs n := by
  have hdigits : ∀ {ds : List Char}, readDigits 0 ds = .ok n →
      (∀ c ∈ ds, IsOctalDigit c) ∧ n = Nat.ofDigitChars 8 ds 0 := by
    intro ds hds
    have hoctal := isOctalDigit_of_readDigits hds
    rw [readDigits_of_isOctalDigit hoctal (by decide)] at hds
    split at hds
    · exact ⟨hoctal, (Except.ok.inj hds).symm⟩
    · cases hds
  unfold readNumber at h
  split at h
  · cases h
  · cases h
  · next ds hne =>
    obtain ⟨hoctal, rfl⟩ := hdigits h
    exact .plus (by rintro rfl; exact hne rfl) hoctal
  · next hne _ _ =>
    obtain ⟨hoctal, rfl⟩ := hdigits h
    exact .digits hne hoctal

theorem IsNumber.notMem (h : IsNumber cs n) (hc : ¬ IsOctalDigit c) (hplus : c ≠ '+') :
    c ∉ cs := by
  cases h with
  | digits _ hcs => exact fun hmem => hc (hcs c hmem)
  | plus _ hcs =>
    intro hmem
    rcases List.mem_cons.mp hmem with rfl | hmem
    · exact hplus rfl
    · exact hc (hcs c hmem)

theorem IsNumber.isBlank_eq (h : IsNumber cs n) : ∀ c ∈ cs, isBlank c = false := by
  intro c hmem
  rw [Bool.eq_false_iff]
  intro hblank
  refine h.notMem (fun hc => ?_) ?_ hmem
  · cases hblank.symm.trans hc.isBlank_eq
  · rintro rfl
    exact absurd hblank (by decide)

end Numbers

section Texts

/-- A text that stands for a number is read as that number, or refused as too large. -/
theorem StandsFor.parse_eq (h : StandsFor text n) :
    parse text = if n < UInt32.size then .ok (.ofNat n) else .error .tooLarge := by
  obtain ⟨left, copies, number, right, hleft, hright, rfl, hnumber⟩ := h
  have hblank : ∀ c ∈ (List.replicate copies ['0', 'o']).flatten ++ number, isBlank c = false := by
    intro c hc
    rcases List.mem_append.mp hc with hc | hc
    · obtain ⟨copy, hcopy, hc⟩ := List.mem_flatten.mp hc
      obtain rfl := List.eq_of_mem_replicate hcopy
      have hmark : ∀ c ∈ ['0', 'o'], isBlank c = false :=
        List.forall_mem_cons.mpr ⟨rfl, List.forall_mem_singleton.mpr rfl⟩
      exact hmark c hc
    · exact hnumber.isBlank_eq c hc
  have htrim : Trimmed _ ((List.replicate copies ['0', 'o']).flatten ++ number) :=
    ⟨⟨left, right, rfl, hleft, hright⟩, fun c hc => hblank c (List.mem_of_mem_head? hc),
      fun c hc => hblank c (List.mem_of_mem_getLast? hc)⟩
  have hstop : ¬ ['0', 'o'] <+: number := fun hmark =>
    hnumber.notMem (by decide) (by decide)
      (hmark.subset (List.mem_cons_of_mem '0' List.mem_cons_self))
  have hdrop := (dropCopies_eq_iff (List.cons_ne_nil '0' ['o'])).mpr ⟨⟨copies, rfl⟩, hstop⟩
  rw [parse, trimBy_eq_of_trimmed htrim, hdrop, hnumber.readNumber_eq]
  split <;> rfl

theorem standsFor_of_parse (h : parse text = .ok mode) : StandsFor text mode.toNat := by
  obtain ⟨⟨left, right, htext, hleft, hright⟩, -, -⟩ := trimmed_trimBy text
  obtain ⟨⟨copies, hcopies⟩, -⟩ :=
    exists_copies (List.cons_ne_nil '0' ['o']) (trimBy isBlank text)
  unfold parse at h
  rcases hr : readNumber (dropCopies ['0', 'o'] (trimBy isBlank text)) with e | n <;>
    rw [hr] at h <;> cases h
  have hnumber := isNumber_of_readNumber hr
  have hlt : n < UInt32.size := by
    have heq := hnumber.readNumber_eq
    rw [hr] at heq
    split at heq
    · assumption
    · cases heq
  rw [UInt32.toNat_ofNat_of_lt' hlt]
  exact ⟨left, copies, _, right, hleft, hright, by rw [← hcopies]; exact htext, hnumber⟩

theorem parse_eq_ok_iff : parse text = .ok mode ↔ StandsFor text mode.toNat := by
  refine ⟨standsFor_of_parse, fun h => ?_⟩
  rw [h.parse_eq, if_pos mode.toNat_lt, UInt32.ofNat_toNat]

theorem isOctalDigit_of_mem_toDigits (n : Nat) : ∀ c ∈ Nat.toDigits 8 n, IsOctalDigit c := by
  have hdigit : ∀ d < 8, IsOctalDigit d.digitChar := by decide
  induction n using Nat.strongRecOn with
  | _ n ih =>
    rw [Nat.toDigits_eq_if (by decide)]
    intro c hc
    split at hc
    · next hn =>
      obtain rfl := List.mem_singleton.mp hc
      exact hdigit n hn
    · rcases List.mem_append.mp hc with hc | hc
      · exact ih (n / 8) (by omega) c hc
      · obtain rfl := List.mem_singleton.mp hc
        exact hdigit (n % 8) (Nat.mod_lt n (by decide))

/-- A number in octal digits stands for itself, also after zeros and marks. -/
theorem standsFor_toDigits (copies zeros n : Nat) :
    StandsFor ((List.replicate copies ['0', 'o']).flatten ++
      (List.replicate zeros '0' ++ Nat.toDigits 8 n)) n := by
  have hvalue : Nat.ofDigitChars 8 (List.replicate zeros '0' ++ Nat.toDigits 8 n) 0 = n := by
    rw [Nat.ofDigitChars_append, Nat.ofDigitChars_replicate_zero, Nat.mul_zero,
      Nat.ofDigitChars_toDigits (by decide) (by decide)]
  have hoctal : ∀ c ∈ List.replicate zeros '0' ++ Nat.toDigits 8 n, IsOctalDigit c := by
    intro c hc
    rcases List.mem_append.mp hc with hc | hc
    · obtain rfl := List.eq_of_mem_replicate hc
      decide
    · exact isOctalDigit_of_mem_toDigits n c hc
  have hnumber := IsNumber.digits (List.append_ne_nil_of_right_ne_nil _ Nat.toDigits_ne_nil) hoctal
  rw [hvalue] at hnumber
  exact ⟨[], copies, _, [], List.forall_mem_nil _, List.forall_mem_nil _, by simp, hnumber⟩

end Texts

section Reading

variable {ν : Type} [Readable ν] {v : ν} {s : String}

theorem run_follow {references : Nat} (hn : references ≤ n) :
    (Reading.follow references).run n = .ok ((), n - references) := by
  change (if n < references then throw .form else set (n - references) : Reading Unit).run n = _
  rw [if_neg (Nat.not_lt.mpr hn)]
  rfl

/-- A text is read by its characters, once the references to it have been followed. -/
theorem run_fileMode (hs : Readable.numberOrText? v = some (.inr s))
    (hn : Readable.references v ≤ n) : (Readable.fileMode v).run n = match parse s.toList with
      | .ok mode => .ok (mode, n - Readable.references v)
      | .error flaw => .error (.fileMode s flaw) := by
  unfold Readable.fileMode
  rw [StateT.run_bind, run_follow hn, hs]
  change StateT.run (match parse s.toList with
    | .ok mode => pure mode
    | .error flaw => throw (.fileMode s flaw) : Reading UInt32) (n - Readable.references v) = _
  rcases parse s.toList with flaw | mode <;> rfl

/-- A text is read as a mode exactly if it stands for it in octal digits; what stands for a number
of more than 32 bits is refused as too large, and every other text is refused too. A mode that is
written in octal digits is read back, also after zeros and any number of `0o`. -/
theorem text_read_in_octal (hs : Readable.numberOrText? v = some (.inr s))
    (hn : Readable.references v ≤ n) :
    (∀ mode, (Readable.fileMode v).run n = .ok (mode, n - Readable.references v) ↔
      StandsFor s.toList mode.toNat) ∧
    ((∀ m < UInt32.size, ¬ StandsFor s.toList m) →
      ∃ flaw, (Readable.fileMode v).run n = .error (.fileMode s flaw)) ∧
    (∀ m, UInt32.size ≤ m → StandsFor s.toList m →
      (Readable.fileMode v).run n = .error (.fileMode s .tooLarge)) ∧
    ∀ (mode : UInt32) (copies zeros : Nat), s.toList = (List.replicate copies ['0', 'o']).flatten ++
        (List.replicate zeros '0' ++ Nat.toDigits 8 mode.toNat) →
      (Readable.fileMode v).run n = .ok (mode, n - Readable.references v) := by
  have hread : ∀ mode, (Readable.fileMode v).run n = .ok (mode, n - Readable.references v) ↔
      StandsFor s.toList mode.toNat := by
    intro mode
    rw [run_fileMode hs hn, ← parse_eq_ok_iff]
    rcases parse s.toList with flaw | found
    · exact iff_of_false (fun h => nomatch h) (fun h => nomatch h)
    · simp
  refine ⟨hread, fun hnone => ?_, fun m hm h => ?_, fun mode copies zeros htext => ?_⟩
  · rcases hp : parse s.toList with flaw | mode
    · exact ⟨flaw, by rw [run_fileMode hs hn, hp]⟩
    · exact absurd (standsFor_of_parse hp) (hnone _ mode.toNat_lt)
  · rw [run_fileMode hs hn, h.parse_eq, if_neg (Nat.not_lt.mpr hm)]
  · rw [hread, htext]
    exact standsFor_toDigits copies zeros mode.toNat

/-- Blanks, two marks, a plus sign and a zero stand around the digits. -/
theorem text_read_in_octal_sample :
    Readable.numberOrText? (Toml.Value.text " 0o0o+0644\n") = some (.inr " 0o0o+0644\n") ∧
    Readable.references (Toml.Value.text " 0o0o+0644\n") ≤ 0 ∧
    StandsFor " 0o0o+0644\n".toList 0o644 ∧
    (Readable.fileMode (Toml.Value.text " 0o0o+0644\n")).run 0 = .ok (0o644, 0) := by
  have hdigits : ∀ c ∈ ['0', '6', '4', '4'], IsOctalDigit c := by
    simp [IsOctalDigit]
  have hnumber : IsNumber ['+', '0', '6', '4', '4'] 0o644 :=
    .plus (List.cons_ne_nil '0' ['6', '4', '4']) hdigits
  have hstands : StandsFor " 0o0o+0644\n".toList 0o644 :=
    ⟨[' '], 2, ['+', '0', '6', '4', '4'], ['\n'], List.forall_mem_singleton.mpr rfl,
      List.forall_mem_singleton.mpr rfl, rfl, hnumber⟩
  exact ⟨rfl, Nat.le_refl 0, hstands,
    ((text_read_in_octal rfl (Nat.le_refl 0)).1 0o644).mpr hstands⟩

end Reading

end FileMode

end Stencil
