/-! # Slices of a text

Offsets into a text are counted in bytes of UTF-8. A text can be sliced from one offset to another
if neither of them lies within a character or behind the end, and the second is not before the
first.
-/

namespace Stencil

def byteLength : List Char → Nat
  | [] => 0
  | c :: text => c.utf8Size + byteLength text

/-- The text before an offset and the text from it on. -/
def splitAtByte? (n : Nat) : List Char → Option (List Char × List Char)
  | [] => if n = 0 then some ([], []) else none
  | c :: text =>
    if n = 0 then some ([], c :: text)
    else if c.utf8Size ≤ n then
      (splitAtByte? (n - c.utf8Size) text).map fun (l, r) => (c :: l, r)
    else none

def slice? (text : List Char) (start stop : Nat) : Option (List Char) := do
  let (before, _) ← splitAtByte? stop text
  let (_, slice) ← splitAtByte? start before
  some slice

def sliceFrom? (text : List Char) (start : Nat) : Option (List Char) :=
  slice? text start (byteLength text)

variable {n start stop : Nat} {c : Char} {text l mid r : List Char}

@[simp] theorem byteLength_nil : byteLength [] = 0 := rfl

@[simp] theorem byteLength_cons : byteLength (c :: text) = c.utf8Size + byteLength text := rfl

@[simp] theorem byteLength_append : byteLength (l ++ r) = byteLength l + byteLength r := by
  induction l with
  | nil => simp
  | cons c l ih => simp [ih, Nat.add_assoc]

theorem byteLength_eq_utf8ByteSize (text : List Char) :
    byteLength text = (String.ofList text).utf8ByteSize := by
  induction text with
  | nil => rfl
  | cons c text ih =>
    rw [byteLength_cons, ih, ← List.singleton_append, String.ofList_append,
      String.utf8ByteSize_append, ← String.singleton_eq_ofList, String.utf8ByteSize_singleton]

theorem byteLength_eq_zero_iff : byteLength text = 0 ↔ text = [] := by
  cases text with
  | nil => simp
  | cons c text =>
    have hpos := c.utf8Size_pos
    simp
    omega

theorem splitAtByte?_eq_some_iff :
    splitAtByte? n text = some (l, r) ↔ text = l ++ r ∧ n = byteLength l := by
  induction text generalizing n l with
  | nil => cases l <;> simp [splitAtByte?, eq_comm, and_comm]
  | cons c text ih =>
    rw [splitAtByte?]
    by_cases hn : n = 0
    · rw [if_pos hn, Option.some.injEq, Prod.mk.injEq, hn, eq_comm (a := 0), byteLength_eq_zero_iff]
      constructor
      · rintro ⟨rfl, rfl⟩
        exact ⟨rfl, rfl⟩
      · rintro ⟨he, rfl⟩
        exact ⟨rfl, he⟩
    · rw [if_neg hn]
      cases l with
      | nil => by_cases hc : c.utf8Size ≤ n <;> simp [hc, hn]
      | cons d l =>
        rw [List.cons_append, List.cons.injEq, byteLength_cons, and_assoc]
        split
        · rw [Option.map_eq_some_iff]
          constructor
          · rintro ⟨⟨l', r'⟩, h, he⟩
            obtain ⟨⟨rfl, rfl⟩, rfl⟩ : (c = d ∧ l' = l) ∧ r' = r := by simpa using he
            obtain ⟨rfl, hl⟩ := ih.mp h
            exact ⟨rfl, rfl, by omega⟩
          · rintro ⟨rfl, rfl, rfl⟩
            exact ⟨(l, r), ih.mpr ⟨rfl, by omega⟩, rfl⟩
        · simp only [reduceCtorEq, false_iff]
          rintro ⟨rfl, -, rfl⟩
          omega

theorem slice?_eq_some_iff : slice? text start stop = some mid ↔
    ∃ l r, text = l ++ mid ++ r ∧ start = byteLength l ∧ stop = byteLength (l ++ mid) := by
  simp only [slice?, Option.bind_eq_bind, Option.bind_eq_some_iff, Prod.exists,
    splitAtByte?_eq_some_iff, Option.some.injEq]
  constructor
  · rintro ⟨before, r, ⟨rfl, rfl⟩, l, _, ⟨rfl, rfl⟩, rfl⟩
    exact ⟨l, r, rfl, rfl, rfl⟩
  · rintro ⟨l, r, rfl, rfl, rfl⟩
    exact ⟨l ++ mid, r, ⟨rfl, rfl⟩, l, mid, ⟨rfl, rfl⟩, rfl⟩

theorem sliceFrom?_append : sliceFrom? (l ++ r) (byteLength l) = some r :=
  slice?_eq_some_iff.mpr ⟨l, [], by simp, rfl, rfl⟩

theorem isValid_position_iff : String.Pos.Raw.IsValid (String.ofList text) ⟨n⟩ ↔
    ∃ l r, text = l ++ r ∧ n = byteLength l := by
  rw [String.Pos.Raw.isValid_ofList]
  constructor
  · rintro ⟨i, hi⟩
    exact ⟨text.take i, text.drop i, (List.take_append_drop i text).symm,
      hi.trans (byteLength_eq_utf8ByteSize _).symm⟩
  · rintro ⟨l, r, rfl, rfl⟩
    exact ⟨l.length, by rw [List.take_left, byteLength_eq_utf8ByteSize]⟩

/-- A slice exists if both offsets are valid positions and stand in order. -/
theorem isSome_slice?_iff : (slice? text start stop).isSome = true ↔
    start ≤ stop ∧ String.Pos.Raw.IsValid (String.ofList text) ⟨start⟩ ∧
      String.Pos.Raw.IsValid (String.ofList text) ⟨stop⟩ := by
  simp only [Option.isSome_iff_exists, slice?_eq_some_iff, isValid_position_iff]
  constructor
  · rintro ⟨mid, l, r, rfl, rfl, rfl⟩
    exact ⟨by simp, ⟨l, mid ++ r, by simp, rfl⟩, ⟨l ++ mid, r, rfl, rfl⟩⟩
  · rintro ⟨hle, ⟨l, r, he, rfl⟩, ⟨l', r', rfl, rfl⟩⟩
    rcases List.append_eq_append_iff.mp he with ⟨m, rfl, rfl⟩ | ⟨m, rfl, rfl⟩
    · have hm : byteLength m = 0 := by
        rw [byteLength_append] at hle
        omega
      obtain rfl := byteLength_eq_zero_iff.mp hm
      exact ⟨[], l', r, by simp, by simp, by simp⟩
    · exact ⟨m, l, r', by simp, rfl, rfl⟩

end Stencil
