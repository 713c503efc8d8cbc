import Stencil.Snippet.Marker
import Stencil.Proofs.Text.Search

/-! # The grammar of markers

A marker is a comment of one of three shapes, bare or between braces. Comments are recognised
exactly, no two begin at one place, and nothing in a comment looks like a brace or like the
beginning of another one.
-/

namespace Stencil.Marker

/-- The text of a marker without braces. Only hooks have a name. -/
inductive IsComment : Marker → List Char → List Char → Prop where
  | implementations : IsComment .implementations [] "/* FUNCTION_IMPLEMENTATIONS */".toList
  | imports : IsComment .imports [] "/* FUNCTION_IMPORTS */".toList
  | hook {name blanks blanks' : List Char} :
      name ≠ [] → (∀ c ∈ name, isUnicodeWord c = true) →
      blanks ≠ [] → (∀ c ∈ blanks, isBlank c = true) →
      blanks' ≠ [] → (∀ c ∈ blanks', isBlank c = true) →
      IsComment .hook name ("/* FUNCTION_IMPLEMENTATIONS".toList ++ blanks ++
        ("hook=\"".toList ++ name ++ ['"'] ++ blanks' ++ ['*', '/']))

/-- No marker occurs in the text, in braces or bare. -/
def Free (cs : List Char) : Prop :=
  ∀ m name mark, IsComment m name mark → ¬ mark <:+: cs

variable {m m' : Marker} {name name' mark mark' cs rest rest' : List Char} {n : Nat}

/-- A run of a class that has been skipped and was not empty. -/
theorem exists_run_of_length_ne {p : Char → Bool} (h : ¬ (cs.dropWhile p).length = cs.length) :
    ∃ run, run ≠ [] ∧ (∀ c ∈ run, p c = true) ∧ cs = run ++ cs.dropWhile p := by
  refine ⟨cs.takeWhile p, ?_, List.all_eq_true.mp List.all_takeWhile,
    List.takeWhile_append_dropWhile.symm⟩
  intro hn
  refine h (congrArg List.length ?_)
  conv => rhs; rw [← List.takeWhile_append_dropWhile (p := p) (l := cs), hn]
  rfl

theorem isComment_of_comment?_hook (h : comment? .hook cs = some (n, name)) :
    ∃ mark rest, cs = mark ++ rest ∧ n = mark.length ∧ IsComment .hook name mark := by
  simp only [comment?, Option.bind_eq_bind, Option.bind_none, Option.bind_eq_some_iff,
    Option.ite_none_left_eq_some, Option.some.injEq, Prod.mk.injEq, dropPrefix?_eq_some_iff] at h
  obtain ⟨afterMark, rfl, hl₁, atName, hhook, hne, afterName, hquote, hl₂, rest, hend, rfl, rfl⟩ :=
    h
  obtain ⟨blanks, hb, hs, he₁⟩ := exists_run_of_length_ne hl₁
  obtain ⟨blanks', hb', hs', he₂⟩ := exists_run_of_length_ne hl₂
  have hw := List.all_eq_true.mp (List.all_takeWhile (p := isUnicodeWord) (l := atName))
  have hname : atName = atName.takeWhile isUnicodeWord ++ (['"'] ++ afterName) := by
    rw [← hquote, List.takeWhile_append_dropWhile]
  rw [hhook] at he₁
  rw [hend] at he₂
  have he : "/* FUNCTION_IMPLEMENTATIONS".toList ++ afterMark =
      ("/* FUNCTION_IMPLEMENTATIONS".toList ++ blanks ++ ("hook=\"".toList ++
        atName.takeWhile isUnicodeWord ++ ['"'] ++ blanks' ++ ['*', '/'])) ++ rest := by
    conv => lhs; rw [he₁, hname, he₂]
    simp only [List.append_assoc]
  refine ⟨_, rest, he, ?_, .hook (by simpa using hne) hw hb hs hb' hs'⟩
  rw [he, List.length_append, Nat.add_sub_cancel]

theorem comment?_hook {blanks blanks' : List Char} (rest : List Char) (hn : name ≠ [])
    (hw : ∀ c ∈ name, isUnicodeWord c = true) (hb : blanks ≠ [])
    (hs : ∀ c ∈ blanks, isBlank c = true) (hb' : blanks' ≠ [])
    (hs' : ∀ c ∈ blanks', isBlank c = true) (hcs : cs = "/* FUNCTION_IMPLEMENTATIONS".toList ++
      (blanks ++ ("hook=\"".toList ++ (name ++ (['"'] ++ (blanks' ++ (['*', '/'] ++ rest))))))) :
    comment? .hook cs = some (cs.length - rest.length, name) := by
  have hspaces {blanks : List Char} (cs : List Char) (hb : blanks ≠ [])
      (hs : ∀ c ∈ blanks, isBlank c = true) (hstop : ∀ c ∈ cs.head?, isBlank c = false) :
      (blanks ++ cs).dropWhile isBlank = cs ∧
        ¬ ((blanks ++ cs).dropWhile isBlank).length = (blanks ++ cs).length := by
    have hd := dropWhile_append_of_stop hs hstop
    have := List.length_pos_iff.mpr hb
    rw [hd, List.length_append]
    exact ⟨rfl, by omega⟩
  have hbefore := hspaces
    ("hook=\"".toList ++ (name ++ (['"'] ++ (blanks' ++ (['*', '/'] ++ rest)))))
    hb hs (by rintro c ⟨⟩; decide)
  have hafter := hspaces (['*', '/'] ++ rest) hb' hs' (by rintro c ⟨⟩; decide)
  have hstop : ∀ c ∈ (['"'] ++ (blanks' ++ (['*', '/'] ++ rest))).head?,
      isUnicodeWord c = false := by
    rintro c ⟨⟩
    decide
  simp only [comment?, Option.bind_eq_bind, Option.bind_none, Option.bind_eq_some_iff,
    Option.ite_none_left_eq_some, Option.some.injEq, Prod.mk.injEq, dropPrefix?_eq_some_iff]
  refine ⟨_, hcs, hbefore.2, _, hbefore.1, ?_⟩
  rw [takeWhile_append_of_stop hw hstop, dropWhile_append_of_stop hw hstop]
  exact ⟨by simpa using hn, _, rfl, hafter.2, rest, hafter.1, rfl, rfl⟩

theorem comment?_eq_some_iff : m.comment? cs = some (n, name) ↔
    ∃ mark rest, cs = mark ++ rest ∧ n = mark.length ∧ m.IsComment name mark := by
  constructor
  · intro h
    cases m with
    | implementations =>
      simp only [comment?, Option.map_eq_some_iff, Prod.mk.injEq] at h
      obtain ⟨rest, hd, rfl, rfl⟩ := h
      exact ⟨_, rest, dropPrefix?_eq_some_iff.mp hd, rfl, .implementations⟩
    | imports =>
      simp only [comment?, Option.map_eq_some_iff, Prod.mk.injEq] at h
      obtain ⟨rest, hd, rfl, rfl⟩ := h
      exact ⟨_, rest, dropPrefix?_eq_some_iff.mp hd, rfl, .imports⟩
    | hook => exact isComment_of_comment?_hook h
  · rintro ⟨mark, rest, rfl, rfl, hm⟩
    cases hm with
    | implementations =>
      simp only [comment?, dropPrefix?_eq_some_iff.mpr rfl, Option.map_some]
    | imports =>
      simp only [comment?, dropPrefix?_eq_some_iff.mpr rfl, Option.map_some]
    | hook hn hw hb hs hb' hs' =>
      rw [comment?_hook rest hn hw hb hs hb' hs' (by simp only [List.append_assoc])]
      simp only [List.length_append, Nat.add_sub_cancel]

theorem IsComment.comment? (h : m.IsComment name mark) (rest : List Char) :
    m.comment? (mark ++ rest) = some (mark.length, name) :=
  comment?_eq_some_iff.mpr ⟨mark, rest, rfl, rfl, h⟩

/-- No brace, and neither of the characters that comments begin and end with. -/
def Ordinary (c : Char) : Prop :=
  c ≠ '*' ∧ c ≠ '/' ∧ c ≠ '{' ∧ c ≠ '}'

instance (c : Char) : Decidable (Ordinary c) :=
  inferInstanceAs (Decidable (_ ∧ _))

theorem ordinary_of_all (h : cs.all (fun c => decide (Ordinary c)) = true) : ∀ c ∈ cs, Ordinary c :=
  fun c hc => of_decide_eq_true (List.all_eq_true.mp h c hc)

theorem ordinary_of_isBlank {c : Char} (h : isBlank c = true) : Ordinary c := by
  refine ⟨?_, ?_, ?_, ?_⟩ <;> rintro rfl <;> revert h <;> decide

theorem ordinary_of_isUnicodeWord {c : Char} (h : isUnicodeWord c = true) : Ordinary c := by
  refine ⟨?_, ?_, ?_, ?_⟩ <;> rintro rfl <;> revert h <;> decide

theorem IsComment.exists_body (h : m.IsComment name mark) :
    ∃ body, mark = '/' :: '*' :: (body ++ ['*', '/']) ∧ ∀ c ∈ body, Ordinary c := by
  cases h with
  | implementations => exact ⟨" FUNCTION_IMPLEMENTATIONS ".toList, rfl, ordinary_of_all (by decide)⟩
  | imports => exact ⟨" FUNCTION_IMPORTS ".toList, rfl, ordinary_of_all (by decide)⟩
  | @hook _ blanks blanks' hn hw hb hs hb' hs' =>
    refine ⟨" FUNCTION_IMPLEMENTATIONS".toList ++ (blanks ++ ("hook=\"".toList ++ (name ++
      (['"'] ++ blanks')))), ?_, ?_⟩
    · simp only [List.append_assoc]
      rfl
    · have hmark : ∀ c ∈ " FUNCTION_IMPLEMENTATIONS".toList, Ordinary c :=
        ordinary_of_all (by decide)
      have hhook : ∀ c ∈ "hook=\"".toList, Ordinary c := ordinary_of_all (by decide)
      have hquote : ∀ c ∈ ['"'], Ordinary c := ordinary_of_all (by decide)
      intro c hc
      simp only [List.mem_append] at hc
      rcases hc with hc | hc | hc | hc | hc | hc
      · exact hmark c hc
      · exact ordinary_of_isBlank (hs c hc)
      · exact hhook c hc
      · exact ordinary_of_isUnicodeWord (hw c hc)
      · exact hquote c hc
      · exact ordinary_of_isBlank (hs' c hc)

theorem IsComment.kind_eq_of_ne_hook (h : m.IsComment name mark) (h' : m'.IsComment name' mark)
    (hm : m ≠ .hook) : m = m' := by
  have hc := h'.comment? []
  rw [List.append_nil] at hc
  have himplementations : Marker.comment? .imports "/* FUNCTION_IMPLEMENTATIONS */".toList = none ∧
      Marker.comment? .hook "/* FUNCTION_IMPLEMENTATIONS */".toList = none := by decide
  have himports : Marker.comment? .implementations "/* FUNCTION_IMPORTS */".toList = none ∧
      Marker.comment? .hook "/* FUNCTION_IMPORTS */".toList = none := by decide
  cases h with
  | implementations => cases m' <;> first | rfl | simp_all
  | imports => cases m' <;> first | rfl | simp_all
  | hook => exact absurd rfl hm

theorem IsComment.unique (h : m.IsComment name mark) (h' : m'.IsComment name' mark')
    (he : mark ++ rest = mark' ++ rest') : m = m' ∧ name = name' ∧ mark = mark' ∧ rest = rest' := by
  obtain ⟨body, hb, ho⟩ := h.exists_body
  obtain ⟨body', hb', ho'⟩ := h'.exists_body
  have hbody : body = body' := by
    have hcut (body rest : List Char) (ho : ∀ c ∈ body, Ordinary c) :
        (body ++ '*' :: rest).takeWhile (· != '*') = body :=
      takeWhile_append_of_stop (fun c hc => by simpa using (ho c hc).1) (by rintro c ⟨⟩; decide)
    rw [hb, hb'] at he
    have he : body ++ '*' :: ('/' :: rest) = body' ++ '*' :: ('/' :: rest') := by simpa using he
    rw [← hcut body ('/' :: rest) ho, he, hcut body' ('/' :: rest') ho']
  have hmark : mark = mark' := by rw [hb, hb', hbody]
  subst hmark
  have hm : m = m' := by
    by_cases hk : m = .hook
    · by_cases hk' : m' = .hook
      · rw [hk, hk']
      · exact (h'.kind_eq_of_ne_hook h hk').symm
    · exact h.kind_eq_of_ne_hook h' hk
  subst hm
  have hname := (h.comment? []).symm.trans (h'.comment? [])
  exact ⟨rfl, (Prod.mk.inj (Option.some.inj hname)).2, rfl, List.append_cancel_left he⟩

inductive IsOpening : List Char → Prop where
  | mk {blanks : List Char} :
      (∀ c ∈ blanks, isBlank c = true) → IsOpening ('{' :: '{' :: blanks)

inductive IsClosing : List Char → Prop where
  | mk {blanks : List Char} :
      (∀ c ∈ blanks, isBlank c = true) → IsClosing (blanks ++ ['}', '}'])

variable {opening closing : List Char}

theorem opening?_eq_some_iff : opening? cs = some n ↔
    ∃ opening rest, cs = opening ++ rest ∧ n = opening.length ∧ IsOpening opening ∧
      ∀ c ∈ rest.head?, isBlank c = false := by
  simp only [opening?, Option.map_eq_some_iff, dropPrefix?_eq_some_iff]
  constructor
  · rintro ⟨rest, rfl, rfl⟩
    have hb := List.all_eq_true.mp (List.all_takeWhile (p := isBlank) (l := rest))
    have he : ['{', '{'] ++ rest =
        ('{' :: '{' :: rest.takeWhile isBlank) ++ rest.dropWhile isBlank := by simp
    refine ⟨_, _, he, ?_, .mk hb, stop_dropWhile rest⟩
    rw [he, List.length_append, Nat.add_sub_cancel]
  · rintro ⟨_, rest, rfl, rfl, @⟨blanks, hb⟩, hstop⟩
    refine ⟨blanks ++ rest, rfl, ?_⟩
    rw [dropWhile_append_of_stop hb hstop, List.length_append, Nat.add_sub_cancel]

theorem closing?_eq_some_iff : closing? cs = some n ↔
    ∃ closing rest, cs = closing ++ rest ∧ n = closing.length ∧ IsClosing closing := by
  simp only [closing?, Option.map_eq_some_iff, dropPrefix?_eq_some_iff]
  constructor
  · rintro ⟨rest, hd, rfl⟩
    have hb := List.all_eq_true.mp (List.all_takeWhile (p := isBlank) (l := cs))
    have he : cs = (cs.takeWhile isBlank ++ ['}', '}']) ++ rest := by
      rw [List.append_assoc, ← hd, List.takeWhile_append_dropWhile]
    refine ⟨_, _, he, ?_, .mk hb⟩
    conv => lhs; rw [he]
    rw [List.length_append, Nat.add_sub_cancel]
  · rintro ⟨_, rest, rfl, rfl, @⟨blanks, hb⟩⟩
    refine ⟨rest, ?_, by rw [List.length_append, Nat.add_sub_cancel]⟩
    rw [List.append_assoc]
    exact dropWhile_append_of_stop hb (by rintro c ⟨⟩; decide)

theorem IsClosing.ne_nil (h : IsClosing cs) : cs ≠ [] := by
  obtain ⟨-⟩ := h
  simp

theorem IsOpening.ne_nil (h : IsOpening cs) : cs ≠ [] := by
  obtain ⟨-⟩ := h
  exact List.cons_ne_nil _ _

theorem isSome_closing? (h : IsClosing closing) (rest : List Char) :
    (closing? (closing ++ rest)).isSome = true :=
  Option.isSome_iff_exists.mpr ⟨_, closing?_eq_some_iff.mpr ⟨closing, rest, rfl, rfl, h⟩⟩

/-- What is found is a comment, perhaps with an opening before and a closing after it. A closing is
taken wherever it follows a hook or a comment with an opening, and without one there is an opening
at hooks only. -/
theorem exists_braces_of_length? (h : m.length? cs = some (n, name)) :
    ∃ opening mark closing rest, cs = opening ++ (mark ++ (closing ++ rest)) ∧
      n = (opening ++ (mark ++ closing)).length ∧ m.IsComment name mark ∧
      (opening = [] ∨ IsOpening opening) ∧ (closing = [] ∨ IsClosing closing) ∧
      (closing ≠ [] ↔ (closing? (closing ++ rest)).isSome ∧ (m = .hook ∨ opening ≠ [])) ∧
      (opening ≠ [] → m = .hook ∨ (closing? (closing ++ rest)).isSome) := by
  unfold length? at h
  rcases ho : opening? cs with _ | before
  · simp only [ho, Option.bind_eq_bind, Option.bind_eq_some_iff] at h
    obtain ⟨⟨length, name'⟩, hc, h⟩ := h
    obtain ⟨mark, rest, rfl, rfl, hm⟩ := comment?_eq_some_iff.mp hc
    rw [List.drop_left] at h
    split at h
    next after hclosing =>
      obtain ⟨closing, rest, rfl, rfl, hcl⟩ := closing?_eq_some_iff.mp hclosing
      obtain ⟨rfl, rfl⟩ := Prod.mk.inj (Option.some.inj h)
      exact ⟨[], mark, closing, rest, rfl, by simp, hm, .inl rfl, .inr hcl,
        by simp [hcl.ne_nil, isSome_closing? hcl], fun hn => absurd rfl hn⟩
    next hnot =>
      obtain ⟨rfl, rfl⟩ := Prod.mk.inj (Option.some.inj h)
      refine ⟨[], mark, [], rest, rfl, by simp, hm, .inl rfl, .inl rfl, ?_, fun hn => absurd rfl hn⟩
      refine iff_of_false (fun hn => hn rfl) ?_
      rintro ⟨hs, hk⟩
      obtain ⟨after, ha⟩ := Option.isSome_iff_exists.mp hs
      exact hnot after (hk.resolve_right fun hn => hn rfl) ha
  · simp only [ho, Option.bind_eq_bind, Option.bind_eq_some_iff] at h
    obtain ⟨⟨length, name'⟩, hc, h⟩ := h
    obtain ⟨opening, rest, rfl, rfl, hopen, -⟩ := opening?_eq_some_iff.mp ho
    rw [List.drop_left] at hc
    obtain ⟨mark, rest, rfl, rfl, hm⟩ := comment?_eq_some_iff.mp hc
    rw [← List.drop_drop, List.drop_left, List.drop_left] at h
    split at h
    next after hclosing =>
      obtain ⟨closing, rest, rfl, rfl, hcl⟩ := closing?_eq_some_iff.mp hclosing
      obtain ⟨rfl, rfl⟩ := Prod.mk.inj (Option.some.inj h)
      exact ⟨opening, mark, closing, rest, rfl, by simp [Nat.add_assoc], hm, .inr hopen, .inr hcl,
        by simp [hcl.ne_nil, isSome_closing? hcl, hopen.ne_nil],
        fun _ => .inr (isSome_closing? hcl _)⟩
    next hnone =>
      obtain ⟨rfl, rfl⟩ := Prod.mk.inj (Option.some.inj h)
      exact ⟨opening, mark, [], rest, rfl, by simp, hm, .inr hopen, .inl rfl, by simp [hnone],
        fun _ => .inl rfl⟩
    next => cases h

theorem exists_comment_of_length? (h : m.length? cs = some (n, name)) :
    ∃ opening mark closing rest, cs = opening ++ (mark ++ (closing ++ rest)) ∧
      n = (opening ++ (mark ++ closing)).length ∧ m.IsComment name mark ∧
      (opening = [] ∨ IsOpening opening) ∧ (closing = [] ∨ IsClosing closing) := by
  obtain ⟨opening, mark, closing, rest, he, hn, hm, ho, hc, -, -⟩ := exists_braces_of_length? h
  exact ⟨opening, mark, closing, rest, he, hn, hm, ho, hc⟩

theorem length?_of_isComment (h : m.IsComment name mark) (rest : List Char) :
    ∃ n, m.length? (mark ++ rest) = some (n, name) := by
  have ho : opening? (mark ++ rest) = none := by
    obtain ⟨body, rfl, -⟩ := h.exists_body
    rfl
  unfold length?
  simp only [ho, h.comment? rest, Option.bind_eq_bind, Option.bind_some]
  split
  · exact ⟨_, rfl⟩
  · exact ⟨_, rfl⟩

theorem opening?_of_isComment (ho : IsOpening opening) (h : m.IsComment name mark)
    (rest : List Char) : opening? (opening ++ (mark ++ rest)) = some opening.length := by
  refine opening?_eq_some_iff.mpr ⟨opening, _, rfl, rfl, ho, ?_⟩
  obtain ⟨body, rfl, -⟩ := h.exists_body
  rintro c ⟨⟩
  decide

theorem length?_of_braced (ho : IsOpening opening) (h : m.IsComment name mark)
    (hc : IsClosing closing) (rest : List Char) :
    m.length? (opening ++ (mark ++ (closing ++ rest))) =
      some ((opening ++ (mark ++ closing)).length, name) := by
  have hclosing : closing? (closing ++ rest) = some closing.length :=
    closing?_eq_some_iff.mpr ⟨closing, rest, rfl, rfl, hc⟩
  have hdrop : (opening ++ (mark ++ (closing ++ rest))).drop (opening.length + mark.length) =
      closing ++ rest := by
    rw [← List.drop_drop, List.drop_left, List.drop_left]
  unfold length?
  simp only [opening?_of_isComment ho h, List.drop_left, h.comment?, Option.bind_eq_bind,
    Option.bind_some, hdrop, hclosing, List.length_append, Nat.add_assoc]

theorem length?_of_opened_hook (ho : IsOpening opening) (h : IsComment .hook name mark)
    (rest : List Char) : ∃ n, length? .hook (opening ++ (mark ++ rest)) = some (n, name) := by
  unfold length?
  simp only [opening?_of_isComment ho h, List.drop_left, h.comment?, Option.bind_eq_bind,
    Option.bind_some]
  split
  · exact ⟨_, rfl⟩
  · exact ⟨_, rfl⟩
  · contradiction

theorem find?_of_braced (ho : IsOpening opening) (h : m.IsComment name mark)
    (hc : IsClosing closing) (rest : List Char) : m.find? (opening ++ (mark ++ (closing ++ rest))) =
      some ⟨opening ++ (mark ++ closing), String.ofList name, rest⟩ := by
  unfold find?
  rw [length?_of_braced ho h hc, Option.map_some]
  have he : opening ++ (mark ++ (closing ++ rest)) = (opening ++ (mark ++ closing)) ++ rest := by
    simp only [List.append_assoc]
  dsimp only
  rw [he, List.take_left, List.drop_left]

theorem length?_pos (h : m.length? cs = some (n, name)) : 0 < n := by
  obtain ⟨opening, mark, closing, rest, -, rfl, hm, -⟩ := exists_comment_of_length? h
  obtain ⟨body, rfl, -⟩ := hm.exists_body
  simp only [List.length_append, List.length_cons]
  omega

section Replace

variable {f : Found → List Char} {found : Found} {c : Char}

/-- What is found stands at the beginning of the text and is not empty. -/
theorem eq_append_of_find? (h : m.find? cs = some found) :
    cs = found.text ++ found.rest ∧ found.rest.length < cs.length := by
  simp only [find?, Option.map_eq_some_iff] at h
  obtain ⟨⟨n, name⟩, hl, rfl⟩ := h
  obtain ⟨opening, mark, closing, rest, rfl, rfl, hm, -⟩ := exists_comment_of_length? hl
  obtain ⟨body, rfl, -⟩ := hm.exists_body
  exact ⟨(List.take_append_drop _ _).symm, by simp; omega⟩

theorem replaceWithin_eq {count count' : Nat} (h : cs.length < count) (h' : cs.length < count') :
    m.replaceWithin f count cs = m.replaceWithin f count' cs := by
  induction count generalizing count' cs with
  | zero => omega
  | succ count ih =>
    cases count' with
    | zero => omega
    | succ count' =>
      cases cs with
      | nil => rfl
      | cons c cs =>
        rw [List.length_cons] at h h'
        unfold replaceWithin
        rcases hf : m.find? (c :: cs) with _ | found
        · exact congrArg (c :: ·) (ih (by omega) (by omega))
        · have hl := (eq_append_of_find? hf).2
          rw [List.length_cons] at hl
          exact congrArg (f found ++ ·) (ih (by omega) (by omega))

theorem replace_of_find?_eq_none (h : m.find? (c :: cs) = none) :
    m.replace f (c :: cs) = c :: m.replace f cs := by
  unfold replace
  rw [List.length_cons, replaceWithin, h]

theorem replace_of_find?_eq_some (h : m.find? cs = some found) :
    m.replace f cs = f found ++ m.replace f found.rest := by
  have hl := (eq_append_of_find? h).2
  unfold replace
  cases cs with
  | nil => cases hl
  | cons c cs =>
    rw [List.length_cons] at hl ⊢
    rw [replaceWithin, h]
    exact congrArg (f found ++ ·) (replaceWithin_eq (by omega) (by omega))

theorem replace_append_of_find?_eq_none (h : ∀ s, s ≠ [] → s <:+ cs → m.find? (s ++ rest) = none) :
    m.replace f (cs ++ rest) = cs ++ m.replace f rest := by
  induction cs with
  | nil => rfl
  | cons c cs ih =>
    have hhere : m.find? (c :: (cs ++ rest)) = none :=
      h (c :: cs) (List.cons_ne_nil c cs) (List.suffix_refl _)
    rw [List.cons_append, replace_of_find?_eq_none hhere]
    exact congrArg (c :: ·) (ih fun s hs hsuf => h s hs (hsuf.trans (List.suffix_cons c cs)))

end Replace

end Stencil.Marker
