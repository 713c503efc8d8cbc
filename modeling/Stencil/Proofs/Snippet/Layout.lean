import Stencil.Proofs.Snippet.Marker

/-! # Texts cut at their markers

A text whose markers all stand in braces is cut into the markers and the texts between them.
Replacing the markers of one kind changes the markers of this kind and nothing else, since no marker
begins anywhere but at the cuts. Texts that are put in front of markers keep it so if they close no
comment.
-/

namespace Stencil.Marker

/-- A marker in braces. -/
structure Braced where
  kind : Marker
  name : List Char
  opening : List Char
  mark : List Char
  closing : List Char
  isOpening : IsOpening opening
  isComment : kind.IsComment name mark
  isClosing : IsClosing closing

def Braced.text (b : Braced) : List Char :=
  b.opening ++ (b.mark ++ b.closing)

/-- A text with markers: the text before each of them, and the one after the last. -/
inductive Layout where
  | plain (text : List Char)
  | marked (before : List Char) (b : Braced) (rest : Layout)

namespace Layout

def text : Layout → List Char
  | plain cs => cs
  | marked before b rest => before ++ (b.text ++ rest.text)

def markers : Layout → List Braced
  | plain _ => []
  | marked _ b rest => b :: rest.markers

def insert (f : Braced → List Char) : Layout → Layout
  | plain cs => plain cs
  | marked before b rest => marked (before ++ f b) b (rest.insert f)

/-- There is no marker between the markers, and no `*` stands before one. -/
def Calm : Layout → Prop
  | plain cs => Free cs
  | marked before _ rest => Free before ∧ before.getLast? ≠ some '*' ∧ rest.Calm

end Layout

/-- A text that closes no comment, neither itself nor together with what follows. -/
def Closed (cs : List Char) : Prop :=
  ¬ ['*', '/'] <:+: cs ∧ cs.getLast? ≠ some '*'

variable {m m' : Marker} {name mark cs cs' rest rest' u : List Char} {b : Braced} {l : Layout}

section Cuts

variable {α : Type} {x : α} {as bs as' bs' : List α}

theorem append_of_notMem (h : as ++ bs = as' ++ x :: bs') (hx : x ∉ as) :
    ∃ t, as' = as ++ t ∧ bs = t ++ x :: bs' := by
  rcases List.append_eq_append_iff.mp h with ⟨t, ht, hbs⟩ | ⟨t, rfl, hbs⟩
  · exact ⟨t, ht, hbs⟩
  · cases t with
    | nil => exact ⟨[], by simp, by simpa using hbs.symm⟩
    | cons y t =>
      obtain ⟨rfl, -⟩ := List.cons.inj hbs
      exact absurd (List.mem_append_right as' List.mem_cons_self) hx

theorem append_of_notMem_right (h : as ++ x :: bs = as' ++ bs') (hx : x ∉ bs') :
    ∃ t, as' = as ++ x :: t ∧ bs = t ++ bs' := by
  rcases List.append_eq_append_iff.mp h with ⟨t, rfl, hbs⟩ | ⟨t, rfl, hbs⟩
  · cases t with
    | nil =>
      rw [List.nil_append] at hbs
      exact absurd (hbs ▸ List.mem_cons_self) hx
    | cons y t =>
      obtain ⟨rfl, rfl⟩ := List.cons.inj hbs
      exact ⟨t, rfl, rfl⟩
  · exact absurd (hbs ▸ List.mem_append_right t List.mem_cons_self) hx

end Cuts

theorem IsOpening.eq_or_isBlank (h : IsOpening cs) : ∀ c ∈ cs, c = '{' ∨ isBlank c = true := by
  obtain ⟨hb⟩ := h
  intro c hc
  rcases List.mem_cons.mp hc with rfl | hc
  · exact .inl rfl
  · rcases List.mem_cons.mp hc with rfl | hc
    · exact .inl rfl
    · exact .inr (hb c hc)

theorem IsClosing.eq_or_isBlank (h : IsClosing cs) : ∀ c ∈ cs, c = '}' ∨ isBlank c = true := by
  obtain ⟨hb⟩ := h
  intro c hc
  rcases List.mem_append.mp hc with hc | hc
  · exact .inr (hb c hc)
  · exact .inl (by simpa using hc)

theorem IsOpening.notMem {c : Char} (h : IsOpening cs) (hc : c ≠ '{') (hn : isBlank c = false) :
    c ∉ cs := by
  intro hm
  rcases h.eq_or_isBlank c hm with rfl | hb
  · exact hc rfl
  · simp [hn] at hb

theorem IsClosing.notMem {c : Char} (h : IsClosing cs) (hc : c ≠ '}') (hn : isBlank c = false) :
    c ∉ cs := by
  intro hm
  rcases h.eq_or_isBlank c hm with rfl | hb
  · exact hc rfl
  · simp [hn] at hb

theorem Braced.eq_of_comment {before : List Char} (he : b.text ++ rest = before ++ (mark ++ rest'))
    (hm : m.IsComment name mark) (hl : before.length < b.text.length) : m = b.kind := by
  obtain ⟨body, hbody, ho⟩ := b.isComment.exists_body
  obtain ⟨body', rfl, -⟩ := hm.exists_body
  have hslash : '/' ∉ '*' :: (body ++ ['*']) := by
    simpa using fun h => (ho '/' h).2.1 rfl
  have he' : b.opening ++ (b.mark ++ (b.closing ++ rest)) =
      before ++ '/' :: ('*' :: (body' ++ ['*', '/'] ++ rest')) := by
    simpa [Braced.text] using he
  obtain ⟨t, rfl, ht⟩ := append_of_notMem he' (b.isOpening.notMem (by decide) (by decide))
  cases t with
  | nil =>
    have hmark : '/' :: '*' :: (body' ++ ['*', '/']) ++ rest' = b.mark ++ (b.closing ++ rest) := by
      simpa using ht.symm
    exact (hm.unique b.isComment hmark).1
  | cons c t =>
    -- The comment would begin after the first character of the marker's own.
    have ht' : ('*' :: (body ++ ['*'])) ++ ('/' :: (b.closing ++ rest)) =
        t ++ '/' :: ('*' :: (body' ++ ['*', '/'] ++ rest')) := by
      rw [hbody] at ht
      simpa using (List.cons.inj ht).2
    obtain ⟨t', rfl, ht''⟩ := append_of_notMem ht' hslash
    cases t' with
    | nil =>
      have hstar : b.closing ++ rest = [] ++ '*' :: (body' ++ ['*', '/'] ++ rest') :=
        (List.cons.inj ht'').2
      obtain ⟨t, ht, -⟩ := append_of_notMem hstar (b.isClosing.notMem (by decide) (by decide))
      exact absurd (List.append_eq_nil_iff.mp ht.symm).1 b.isClosing.ne_nil
    | cons c' t' =>
      obtain ⟨t, rfl, -⟩ := append_of_notMem (List.cons.inj ht'').2
        (b.isClosing.notMem (by decide) (by decide))
      simp only [Braced.text, hbody, List.length_append, List.length_cons] at hl
      omega

theorem Braced.exists_text_eq (b : Braced) : ∃ cs, b.text = cs ++ ['}'] := by
  obtain ⟨closing, hc⟩ : ∃ closing, b.closing = closing ++ ['}'] := by
    have h := b.isClosing
    generalize b.closing = closing at h
    cases h with
    | @mk blanks _ => exact ⟨blanks ++ ['}'], by simp⟩
  exact ⟨b.opening ++ (b.mark ++ closing), by simp [text, hc]⟩

theorem Braced.find?_eq_none (b : Braced) (hm : m ≠ b.kind) (hs : cs ≠ []) (hsuf : cs <:+ b.text)
    (rest : List Char) : m.find? (cs ++ rest) = none := by
  rw [find?, Option.map_eq_none_iff, Option.eq_none_iff_forall_ne_some]
  rintro ⟨n, name⟩ hl
  obtain ⟨opening, mark, closing, rest', he, -, hc, ho, -⟩ := exists_comment_of_length? hl
  obtain ⟨before, hbefore⟩ := hsuf
  have htext : b.text ++ rest = (before ++ opening) ++ (mark ++ (closing ++ rest')) := by
    rw [← hbefore, List.append_assoc, he, List.append_assoc]
  refine hm (b.eq_of_comment htext hc ?_)
  rw [← hbefore, List.length_append, List.length_append]
  refine Nat.add_lt_add_left ?_ _
  rcases ho with rfl | ho
  · exact List.length_pos_iff.mpr hs
  · obtain ⟨text, htext⟩ := b.exists_text_eq
    obtain ⟨init, last, rfl⟩ := (List.eq_nil_or_concat cs).resolve_left hs
    obtain rfl : last = '}' := by
      rw [htext] at hbefore
      simpa using congrArg List.getLast? hbefore
    have he' : opening ++ (mark ++ (closing ++ rest')) = init ++ '}' :: rest := by
      rw [← he, List.concat_eq_append, List.append_assoc]
      rfl
    obtain ⟨t, rfl, -⟩ := append_of_notMem he' (ho.notMem (by decide) (by decide))
    rw [List.length_concat, List.length_append]
    omega

theorem IsComment.brace_notMem (h : m.IsComment name mark) : '{' ∉ mark := by
  obtain ⟨body, rfl, ho⟩ := h.exists_body
  simpa using fun h => (ho _ h).2.2.1 rfl

theorem IsComment.ne_nil (h : m.IsComment name mark) : mark ≠ [] := by
  obtain ⟨body, rfl, -⟩ := h.exists_body
  simp

/-- No marker begins in a text without markers, if it is the end or braces follow. -/
theorem find?_eq_none_of_free (hf : Free cs') (hs : cs ≠ []) (hsuf : cs <:+ cs')
    (hr : rest = [] ∨ ['{', '{'] <+: rest) : m.find? (cs ++ rest) = none := by
  rw [find?, Option.map_eq_none_iff, Option.eq_none_iff_forall_ne_some]
  rintro ⟨n, name⟩ hl
  obtain ⟨opening, mark, closing, rest', he, -, hc, ho, -⟩ := exists_comment_of_length? hl
  suffices mark <:+: cs from hf m name mark hc (this.trans hsuf.isInfix)
  rcases hr with rfl | ⟨rest, rfl⟩
  · rw [List.append_nil] at he
    exact ⟨opening, closing ++ rest', by simpa using he.symm⟩
  rcases ho with rfl | @⟨blanks, hb⟩
  · have he' : mark ++ (closing ++ rest') = cs ++ '{' :: ('{' :: rest) := he.symm
    obtain ⟨t, rfl, -⟩ := append_of_notMem he' hc.brace_notMem
    exact ⟨[], t, by simp⟩
  · have hnot : '{' ∉ blanks ++ mark := by
      rw [List.mem_append, not_or]
      exact ⟨fun h => (ordinary_of_isBlank (hb _ h)).2.2.1 rfl, hc.brace_notMem⟩
    obtain ⟨c, cs, rfl⟩ := List.exists_cons_of_ne_nil hs
    have he' : cs ++ '{' :: ('{' :: rest) =
        '{' :: ((blanks ++ mark) ++ (closing ++ rest')) := by
      simpa using (List.cons.inj he).2
    cases cs with
    | nil =>
      have hnil : (blanks ++ mark) ++ (closing ++ rest') = [] ++ '{' :: rest :=
        (List.cons.inj he').2.symm
      obtain ⟨t, ht, -⟩ := append_of_notMem hnil hnot
      simp [hc.ne_nil] at ht
    | cons d cs =>
      obtain ⟨t, rfl, -⟩ := append_of_notMem (List.cons.inj he').2.symm hnot
      exact ⟨c :: d :: blanks, t, by simp⟩

theorem Braced.braces_prefix (b : Braced) (rest : List Char) :
    ['{', '{'] <+: b.text ++ rest := by
  have h := b.isOpening
  unfold text
  generalize b.opening = opening at h
  cases h with
  | @mk blanks _ => exact ⟨blanks ++ (b.mark ++ b.closing) ++ rest, by simp⟩

theorem Braced.find?_text (b : Braced) (rest : List Char) :
    b.kind.find? (b.text ++ rest) = some ⟨b.text, String.ofList b.name, rest⟩ := by
  have h := find?_of_braced b.isOpening b.isComment b.isClosing rest
  simpa only [text, List.append_assoc] using h

namespace Layout

variable {f g : Braced → List Char}

theorem markers_insert : (l.insert f).markers = l.markers := by
  induction l with
  | plain cs => rfl
  | marked before b rest ih => exact congrArg (b :: ·) ih

theorem insert_insert : (l.insert f).insert g = l.insert fun b => f b ++ g b := by
  induction l with
  | plain cs => rfl
  | marked before b rest ih =>
    simp only [insert, ih, List.append_assoc]

theorem insert_nil : l.insert (fun _ => []) = l := by
  induction l with
  | plain cs => rfl
  | marked before b rest ih => simp only [insert, ih, List.append_nil]

theorem insert_congr (h : ∀ b ∈ l.markers, f b = g b) : l.insert f = l.insert g := by
  induction l with
  | plain cs => rfl
  | marked before b rest ih =>
    have hb := h b List.mem_cons_self
    simp only [insert, hb, ih fun b' hb' => h b' (List.mem_cons_of_mem b hb')]

theorem mark_infix_text (hb : b ∈ l.markers) : b.mark <:+: l.text := by
  induction l with
  | plain cs => cases hb
  | marked before b' rest ih =>
    rcases List.mem_cons.mp hb with rfl | hb
    · exact ⟨before ++ b.opening, b.closing ++ rest.text, by simp [text, Braced.text]⟩
    · have hrest := (List.suffix_append b'.text rest.text).trans (List.suffix_append before _)
      exact (ih hb).trans hrest.isInfix

/-- Texts in front of the markers of one kind are put there by replacing the markers of this
kind. -/
theorem replace_text (hl : l.Calm) (m : Marker) (g : String → List Char) :
    m.replace (fun found => g found.name ++ found.text) l.text =
      (l.insert fun b => if b.kind = m then g (String.ofList b.name) else []).text := by
  induction l with
  | plain cs =>
    have h : m.replace (fun found => g found.name ++ found.text) (cs ++ []) = cs ++ [] :=
      replace_append_of_find?_eq_none fun s hs hsuf => find?_eq_none_of_free hl hs hsuf (.inl rfl)
    rw [List.append_nil] at h
    exact h
  | marked before b rest ih =>
    obtain ⟨hfree, -, hrest⟩ := hl
    have hbefore : ∀ s, s ≠ [] → s <:+ before → m.find? (s ++ (b.text ++ rest.text)) = none :=
      fun s hs hsuf => find?_eq_none_of_free hfree hs hsuf (.inr (b.braces_prefix rest.text))
    rw [text, replace_append_of_find?_eq_none hbefore]
    by_cases hm : b.kind = m
    · subst hm
      rw [replace_of_find?_eq_some (b.find?_text rest.text)]
      simp only [ih hrest, insert, text, if_true, List.append_assoc]
    · rw [replace_append_of_find?_eq_none fun s hs hsuf =>
        b.find?_eq_none (Ne.symm hm) hs hsuf rest.text]
      simp only [ih hrest, insert, text, hm, if_false, List.append_nil]

end Layout

/-- A comment ends where the text closes one, so none is new behind a text that closes none. -/
theorem Free.append (hf : Free cs) (hs : cs.getLast? ≠ some '*') (hc : ¬ ['*', '/'] <:+: cs') :
    Free (cs ++ cs') := by
  rintro m name mark hm ⟨before, after, he⟩
  obtain ⟨body, rfl, -⟩ := hm.exists_body
  have he' : (before ++ '/' :: '*' :: body) ++ ('*' :: '/' :: after) = cs ++ cs' := by
    simpa using he
  rcases List.append_eq_append_iff.mp he' with ⟨t, rfl, ht⟩ | ⟨t, -, rfl⟩
  · cases t with
    | nil => exact hc ⟨[], after, by simpa using ht⟩
    | cons c t =>
      obtain ⟨rfl, ht'⟩ := List.cons.inj ht
      cases t with
      | nil => exact hs List.getLast?_concat
      | cons c t =>
        obtain ⟨rfl, -⟩ := List.cons.inj ht'
        exact hf m name _ hm ⟨before, t, by simp⟩
  · exact hc ⟨t, after, by simp⟩

theorem closed_nil : Closed [] :=
  ⟨by simp, by simp⟩

theorem Layout.Calm.insert {f : Braced → List Char} (hl : l.Calm)
    (hf : ∀ b ∈ l.markers, Closed (f b)) : (l.insert f).Calm := by
  induction l with
  | plain cs => exact hl
  | marked before b rest ih =>
    obtain ⟨hfree, hstar, hrest⟩ := hl
    obtain ⟨hclosed, hlast⟩ := hf b List.mem_cons_self
    refine ⟨hfree.append hstar hclosed, ?_,
      ih hrest fun b' hb' => hf b' (List.mem_cons_of_mem b hb')⟩
    rw [List.getLast?_append]
    rcases he : (f b).getLast? with _ | c
    · simpa using hstar
    · simpa [he] using hlast

/-- The text ends in opening braces, and these do not stand directly behind a `*`. -/
def EndsOpening (cs : List Char) : Prop :=
  ∃ before opening, cs = before ++ opening ∧ IsOpening opening ∧ before.getLast? ≠ some '*'

def BeginsClosing (cs : List Char) : Prop :=
  ∃ closing after, cs = closing ++ after ∧ IsClosing closing

/-- Every marker of the text stands in braces, and these do not stand directly behind a `*`. -/
def InBraces (cs : List Char) : Prop :=
  ∀ before m name mark after, cs = before ++ (mark ++ after) → IsComment m name mark →
    EndsOpening before ∧ BeginsClosing after

section Decidable

theorem beginsClosing_iff : BeginsClosing cs ↔ (closing? cs).isSome = true := by
  rw [Option.isSome_iff_exists]
  constructor
  · rintro ⟨closing, after, rfl, hc⟩
    exact ⟨_, closing?_eq_some_iff.mpr ⟨closing, after, rfl, rfl, hc⟩⟩
  · rintro ⟨n, h⟩
    obtain ⟨closing, after, rfl, -, hc⟩ := closing?_eq_some_iff.mp h
    exact ⟨closing, after, rfl, hc⟩

/-- The text before the opening braces in which a text ends, read from the right. -/
def outside? (cs : List Char) : Option (List Char) :=
  dropPrefix? ['{', '{'] (cs.reverse.dropWhile isBlank)

theorem endsOpening_iff : EndsOpening cs ↔ ∃ outer ∈ outside? cs, outer.head? ≠ some '*' := by
  simp only [outside?, Option.mem_def, dropPrefix?_eq_some_iff]
  constructor
  · rintro ⟨before, _, rfl, @⟨blanks, hb⟩, hstar⟩
    refine ⟨before.reverse, ?_, by rwa [List.head?_reverse]⟩
    have he : (before ++ '{' :: '{' :: blanks).reverse =
        blanks.reverse ++ (['{', '{'] ++ before.reverse) := by simp
    rw [he]
    exact dropWhile_append_of_stop (by simpa using hb) (by rintro c ⟨⟩; decide)
  · rintro ⟨outer, he, hstar⟩
    have hb := List.all_eq_true.mp (List.all_takeWhile (p := isBlank) (l := cs.reverse))
    have hcs := List.takeWhile_append_dropWhile (p := isBlank) (l := cs.reverse)
    have hopening : IsOpening ('{' :: '{' :: (cs.reverse.takeWhile isBlank).reverse) :=
      .mk fun c hc => hb c (List.mem_reverse.mp hc)
    refine ⟨outer.reverse, _, ?_, hopening, by rwa [List.getLast?_reverse]⟩
    rw [he] at hcs
    have hcs' : cs = (cs.reverse.takeWhile isBlank ++ (['{', '{'] ++ outer)).reverse := by
      rw [hcs, List.reverse_reverse]
    exact hcs'.trans (by simp)

/-- What holds of every marker of a text can be found by looking at each place. -/
theorem forall_comment_iff (cs : List Char)
    (P : List Char → Marker → List Char → List Char → Prop) :
    (∀ before m name mark after, cs = before ++ (mark ++ after) → IsComment m name mark →
      P before m name after) ↔
    ∀ k < cs.length, ∀ m ∈ [hook, implementations, imports], ∀ found ∈ m.comment? (cs.drop k),
      P (cs.take k) m found.2 (cs.drop (k + found.1)) := by
  constructor
  · rintro h k - m - ⟨n, name⟩ hf
    obtain ⟨mark, after, he, rfl, hm⟩ := comment?_eq_some_iff.mp hf
    have hcs : cs = cs.take k ++ (mark ++ after) := by rw [← he, List.take_append_drop]
    have hafter : cs.drop (k + mark.length) = after := by
      rw [← List.drop_drop, he, List.drop_left]
    simpa only [hafter] using h _ m name mark after hcs hm
  · rintro h before m name mark after rfl hm
    have hpos := List.length_pos_iff.mpr hm.ne_nil
    have hfound := h before.length (by simp; omega) m (by cases m <;> simp) (mark.length, name)
      (by rw [List.drop_left]; exact hm.comment? after)
    rwa [List.take_left, ← List.drop_drop, List.drop_left, List.drop_left] at hfound

theorem closed_iff : Closed cs ↔ hasInfix ['*', '/'] cs = false ∧ cs.getLast? ≠ some '*' := by
  unfold Closed hasInfix
  rw [← cutAt?_eq_none_iff, Option.isSome_eq_false_iff, Option.isNone_iff_eq_none]

instance (cs : List Char) : Decidable (Closed cs) :=
  decidable_of_iff _ closed_iff.symm

instance (cs : List Char) : Decidable (EndsOpening cs) :=
  decidable_of_iff _ endsOpening_iff.symm

instance (cs : List Char) : Decidable (BeginsClosing cs) :=
  decidable_of_iff _ beginsClosing_iff.symm

instance (cs : List Char) : Decidable (InBraces cs) :=
  decidable_of_iff _ (forall_comment_iff cs _).symm

end Decidable

theorem free_or_exists_first (cs : List Char) : Free cs ∨
    ∃ before m name mark after, cs = before ++ (mark ++ after) ∧ IsComment m name mark ∧
      ∀ before' m' name' mark' after', cs = before' ++ (mark' ++ after') →
        IsComment m' name' mark' → before.length ≤ before'.length := by
  induction cs with
  | nil =>
    refine .inl fun m name mark hm hi => hm.ne_nil ?_
    exact List.infix_nil.mp hi
  | cons c cs ih =>
    by_cases hh : ∃ m name mark after, c :: cs = mark ++ after ∧ IsComment m name mark
    · obtain ⟨m, name, mark, after, he, hm⟩ := hh
      exact .inr ⟨[], m, name, mark, after, he, hm, fun _ _ _ _ _ _ _ => Nat.zero_le _⟩
    rcases ih with hfree | ⟨before, m, name, mark, after, rfl, hm, hmin⟩
    · refine .inl fun m name mark hm hi => ?_
      rcases List.infix_cons_iff.mp hi with ⟨after, he⟩ | hi
      · exact hh ⟨m, name, mark, after, he.symm, hm⟩
      · exact hfree m name mark hm hi
    · refine .inr ⟨c :: before, m, name, mark, after, rfl, hm, ?_⟩
      intro before' m' name' mark' after' he hm'
      cases before' with
      | nil => exact absurd ⟨m', name', mark', after', he, hm'⟩ hh
      | cons c' before' =>
        obtain ⟨-, he'⟩ := List.cons.inj he
        exact Nat.succ_le_succ (hmin before' m' name' mark' after' he' hm')

theorem InBraces.exists_layout (h : InBraces cs) : ∃ l : Layout, l.text = cs ∧ l.Calm := by
  generalize hn : cs.length = n
  induction n using Nat.strongRecOn generalizing cs with
  | ind n ih =>
  rcases free_or_exists_first cs with hfree | ⟨before, m, name, mark, after, rfl, hm, hmin⟩
  · exact ⟨.plain cs, rfl, hfree⟩
  obtain ⟨⟨before, opening, rfl, ho, hstar⟩, closing, after, rfl, hc⟩ :=
    h before m name mark after rfl hm
  let b : Braced := ⟨m, name, opening, mark, closing, ho, hm, hc⟩
  have hfree : Free before := by
    rintro m' name' mark' hm' ⟨u, v, rfl⟩
    have hle := hmin u m' name' mark' (v ++ (opening ++ (mark ++ (closing ++ after)))) (by simp) hm'
    have hpos := List.length_pos_iff.mpr hm'.ne_nil
    simp only [List.length_append] at hle
    omega
  have hafter : InBraces after := by
    rintro u m' name' mark' v rfl hm'
    obtain ⟨⟨before', opening', he, ho', hstar'⟩, hv⟩ :=
      h (before ++ b.text ++ u) m' name' mark' v (by simp [b, Braced.text]) hm'
    obtain ⟨text, ht⟩ := b.exists_text_eq
    have he' : (before ++ text) ++ '}' :: u = before' ++ opening' := by
      simpa [ht] using he
    obtain ⟨t, rfl, rfl⟩ := append_of_notMem_right he' (ho'.notMem (by decide) (by decide))
    refine ⟨⟨t, opening', rfl, ho', fun hlast => hstar' ?_⟩, hv⟩
    rw [List.getLast?_append, List.getLast?_cons, hlast]
    rfl
  have hlt : after.length < n := by
    have hpos := List.length_pos_iff.mpr hm.ne_nil
    simp only [List.length_append] at hn
    omega
  obtain ⟨l, hl, hcalm⟩ := ih after.length hlt hafter rfl
  exact ⟨.marked before b l, by simp [Layout.text, Braced.text, b, hl], hfree, hstar, hcalm⟩

end Stencil.Marker
