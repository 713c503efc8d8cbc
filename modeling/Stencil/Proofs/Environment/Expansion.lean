import Mathlib.Data.List.TakeWhile
import Stencil.Environment
import Stencil.Proofs.Text.Search

/-! # Paths with references replaced

A path is cut from the left into the signs for the home directory, the references to variables and
the other characters, and each of them stands for a text of its own. The home directory is put in
before the variables are looked for. That makes no difference, because a home directory that begins
with a slash ends no name and completes no pair of braces.
-/

namespace Stencil.Environment

/-- A name begins with a letter or an underscore, and letters, digits and underscores follow. -/
inductive IsName : List Char → Prop where
  | mk {c : Char} {cs : List Char} :
      isIdentStart c = true → (∀ d ∈ cs, isIdentChar d = true) → IsName (c :: cs)

/-- The text begins with a reference to a variable: its name in braces, or the longest name that
stands there. -/
inductive Refers : (text name rest : List Char) → Prop where
  | braced {name : List Char} (rest : List Char) :
      IsName name → Refers ('$' :: '{' :: (name ++ '}' :: rest)) name rest
  | bare {name rest : List Char} :
      IsName name → (∀ c ∈ rest.head?, isIdentChar c = false) →
        Refers ('$' :: (name ++ rest)) name rest

/-- What a path is cut into. -/
inductive Piece where
  | home
  | reference (name : List Char)
  | char (c : Char)

def Piece.value (env : Environment) : Piece → List Char
  | home => env.home.toList
  | reference name => (env.value (String.ofList name)).toList
  | char c => [c]

/-- The text is cut from the left into the pieces. -/
inductive Cut : List Char → List Piece → Prop where
  | nil : Cut [] []
  | home {rest : List Char} {ps : List Piece} : Cut rest ps → Cut ('~' :: rest) (.home :: ps)
  | reference {text name rest : List Char} {ps : List Piece} :
      Refers text name rest → Cut rest ps → Cut text (.reference name :: ps)
  | char {c : Char} {rest : List Char} {ps : List Piece} :
      c ≠ '~' → (∀ name after, ¬ Refers (c :: rest) name after) → Cut rest ps →
        Cut (c :: rest) (.char c :: ps)

variable {env : Environment} {cs text name rest after w x r : List Char} {c : Char}
  {ps : List Piece}

section Names

theorem isIdentChar_of_isIdentStart (h : isIdentStart c = true) : isIdentChar c = true := by
  simp only [isIdentStart, isIdentChar, Char.isAlphanum, Bool.or_eq_true] at h ⊢
  exact h.imp_left .inl

theorem IsName.forall_isIdentChar (h : IsName name) : ∀ c ∈ name, isIdentChar c = true := by
  obtain ⟨hc, hcs⟩ := h
  exact List.forall_mem_cons.mpr ⟨isIdentChar_of_isIdentStart hc, hcs⟩

/-- No name has one of the signs in it that have a meaning in paths. -/
theorem IsName.notMem (h : IsName name) (hc : isIdentChar c = false) : c ∉ name := by
  intro hmem
  rw [h.forall_isIdentChar c hmem] at hc
  cases hc

theorem variableName?_eq_some_iff : variableName? cs = some (name, rest) ↔
    IsName name ∧ cs = name ++ rest ∧ ∀ c ∈ rest.head?, isIdentChar c = false := by
  constructor
  · intro h
    cases cs with
    | nil => cases h
    | cons c cs =>
      rw [variableName?] at h
      split at h
      · next hc =>
        obtain ⟨rfl, rfl⟩ := Prod.mk.inj (Option.some.inj h)
        refine ⟨.mk hc fun d hd => List.mem_takeWhile_imp hd, ?_, stop_dropWhile cs⟩
        rw [List.cons_append, List.takeWhile_append_dropWhile]
      · cases h
  · rintro ⟨⟨hc, hcs⟩, rfl, hstop⟩
    rw [List.cons_append, variableName?, if_pos hc, takeWhile_append_of_stop hcs hstop,
      dropWhile_append_of_stop hcs hstop]

end Names

section References

theorem refers_of_reference? (h : reference? cs = some (name, rest)) :
    Refers ('$' :: cs) name rest := by
  unfold reference? at h
  split at h
  · next inner =>
    split at h
    · next n r hn =>
      obtain ⟨rfl, rfl⟩ := Prod.mk.inj (Option.some.inj h)
      obtain ⟨hname, rfl, -⟩ := variableName?_eq_some_iff.mp hn
      exact .braced r hname
    · cases h
  · obtain ⟨hname, rfl, hstop⟩ := variableName?_eq_some_iff.mp h
    exact .bare hname hstop

theorem reference?_eq_some_iff :
    reference? cs = some (name, rest) ↔ Refers ('$' :: cs) name rest := by
  refine ⟨refers_of_reference?, fun h => ?_⟩
  cases h with
  | braced _ hname =>
    have hn : variableName? (name ++ '}' :: rest) = some (name, '}' :: rest) :=
      variableName?_eq_some_iff.mpr ⟨hname, rfl, by simp [isIdentChar]⟩
    simp only [reference?, hn]
  | bare hname hstop =>
    have hn := variableName?_eq_some_iff.mpr ⟨hname, rfl, hstop⟩
    unfold reference?
    split
    · next inner heq =>
      -- a name does not begin with a brace
      obtain ⟨hc, -⟩ := hname
      rw [(List.cons.inj heq).1] at hc
      exact absurd hc (by decide)
    · exact hn

theorem reference?_eq_none_iff :
    reference? cs = none ↔ ∀ name rest, ¬ Refers ('$' :: cs) name rest := by
  simp only [Option.eq_none_iff_forall_ne_some, ne_eq, Prod.forall, reference?_eq_some_iff]

theorem Refers.exists_cons (h : Refers text name rest) : ∃ cs, text = '$' :: cs := by
  cases h <;> exact ⟨_, rfl⟩

theorem not_refers_cons (hc : c ≠ '$') : ¬ Refers (c :: cs) name rest := by
  intro h
  obtain ⟨_, heq⟩ := h.exists_cons
  exact hc (List.cons.inj heq).1

end References

section Variables

theorem expandVariables_of_refers (h : Refers text name rest) : env.expandVariables text =
    (env.value (String.ofList name)).toList ++ env.expandVariables rest := by
  obtain ⟨cs, rfl⟩ := h.exists_cons
  have hr := reference?_eq_some_iff.mpr h
  rw [expandVariables, if_pos rfl]
  split
  · next n r hn =>
    obtain ⟨rfl, rfl⟩ := Prod.mk.inj (Option.some.inj (hr.symm.trans hn))
    rfl
  · next hn => cases hr.symm.trans hn

theorem expandVariables_cons (h : ∀ name rest, ¬ Refers (c :: cs) name rest) :
    env.expandVariables (c :: cs) = c :: env.expandVariables cs := by
  rw [expandVariables]
  split
  · next hc =>
    subst hc
    split
    · next n r hn => exact absurd (refers_of_reference? hn) (h n r)
    · rfl
  · rfl

theorem expandVariables_append (hw : '$' ∉ w) :
    env.expandVariables (w ++ x) = w ++ env.expandVariables x := by
  induction w with
  | nil => rfl
  | cons c w ih =>
    obtain ⟨hc, hw⟩ := List.ne_and_not_mem_of_not_mem_cons hw
    rw [List.cons_append, expandVariables_cons fun _ _ => not_refers_cons hc.symm, ih hw,
      List.cons_append]

end Variables

section Home

theorem expandHome_tilde : env.expandHome ('~' :: cs) = env.home.toList ++ env.expandHome cs := rfl

theorem expandHome_cons (hc : c ≠ '~') : env.expandHome (c :: cs) = c :: env.expandHome cs := by
  simp [expandHome, hc]

theorem expandHome_append (hw : '~' ∉ w) : env.expandHome (w ++ x) = w ++ env.expandHome x := by
  induction w with
  | nil => rfl
  | cons c w ih =>
    obtain ⟨hc, hw⟩ := List.ne_and_not_mem_of_not_mem_cons hw
    rw [List.cons_append, expandHome_cons hc.symm, ih hw, List.cons_append]

def HasRootedHome (env : Environment) : Prop :=
  env.home.toList.head? = some '/'

instance (env : Environment) : Decidable env.HasRootedHome :=
  inferInstanceAs (Decidable (_ = _))

theorem HasRootedHome.exists_expandHome_eq (h : env.HasRootedHome) (cs : List Char) :
    ∃ more, env.expandHome ('~' :: cs) = '/' :: more := by
  obtain ⟨home, hhome⟩ := List.head?_eq_some_iff.mp h
  exact ⟨home ++ env.expandHome cs, by rw [expandHome_tilde, hhome, List.cons_append]⟩

/-- What stands before the first slash of the result was there before. -/
theorem HasRootedHome.exists_of_expandHome_eq (h : env.HasRootedHome) (hw : '/' ∉ w)
    (he : env.expandHome cs = w ++ r) : ∃ rest, cs = w ++ rest ∧ env.expandHome rest = r := by
  induction w generalizing cs with
  | nil => exact ⟨cs, rfl, he⟩
  | cons d w ih =>
    obtain ⟨hd, hw'⟩ := List.ne_and_not_mem_of_not_mem_cons hw
    cases cs with
    | nil => cases he
    | cons c cs =>
      by_cases hc : c = '~'
      · subst hc
        obtain ⟨more, hmore⟩ := h.exists_expandHome_eq cs
        exact absurd (List.cons.inj (hmore.symm.trans he)).1 hd
      · rw [expandHome_cons hc] at he
        obtain ⟨rfl, htail⟩ := List.cons.inj he
        obtain ⟨rest, rfl, hr⟩ := ih hw' htail
        exact ⟨rest, rfl, hr⟩

theorem HasRootedHome.stop_iff (h : env.HasRootedHome) (cs : List Char) :
    (∀ c ∈ (env.expandHome cs).head?, isIdentChar c = false) ↔
      ∀ c ∈ cs.head?, isIdentChar c = false := by
  cases cs with
  | nil => rfl
  | cons c cs =>
    by_cases hc : c = '~'
    · subst hc
      obtain ⟨more, hmore⟩ := h.exists_expandHome_eq cs
      rw [hmore]
      simp only [List.head?_cons, Option.mem_some_iff, forall_eq']
      decide
    · rw [expandHome_cons hc]
      rfl

theorem HasRootedHome.refers (h : env.HasRootedHome) (hr : Refers text name rest) :
    Refers (env.expandHome text) name (env.expandHome rest) := by
  cases hr with
  | braced _ hname =>
    rw [expandHome_cons (by decide), expandHome_cons (by decide),
      expandHome_append (hname.notMem (by decide)), expandHome_cons (by decide)]
    exact .braced _ hname
  | bare hname hstop =>
    rw [expandHome_cons (by decide), expandHome_append (hname.notMem (by decide))]
    exact .bare hname ((h.stop_iff rest).mpr hstop)

theorem HasRootedHome.exists_refers (h : env.HasRootedHome)
    (hr : Refers ('$' :: env.expandHome cs) name after) : ∃ rest, Refers ('$' :: cs) name rest := by
  generalize htext : '$' :: env.expandHome cs = text at hr
  cases hr with
  | braced _ hname =>
    have hslash : '/' ∉ name := hname.notMem (by decide)
    have hw : '/' ∉ '{' :: (name ++ ['}']) := by simp [hslash]
    have heq : env.expandHome cs = '{' :: (name ++ ['}']) ++ after := by
      simpa using (List.cons.inj htext).2
    obtain ⟨rest, rfl, -⟩ := h.exists_of_expandHome_eq hw heq
    exact ⟨rest, by simpa using Refers.braced rest hname⟩
  | bare hname hstop =>
    obtain ⟨rest, rfl, rfl⟩ :=
      h.exists_of_expandHome_eq (hname.notMem (by decide)) (List.cons.inj htext).2
    exact ⟨rest, .bare hname ((h.stop_iff rest).mp hstop)⟩

end Home

theorem exists_cut (text : List Char) : ∃ ps, Cut text ps := by
  induction text using expandVariables.induct with
  | case1 => exact ⟨[], .nil⟩
  | case2 cs name rest h ih =>
    obtain ⟨ps, hps⟩ := ih
    exact ⟨_, .reference (refers_of_reference? h) hps⟩
  | case3 cs h ih =>
    obtain ⟨ps, hps⟩ := ih
    exact ⟨_, .char (by decide) (reference?_eq_none_iff.mp h) hps⟩
  | case4 c cs hc ih =>
    obtain ⟨ps, hps⟩ := ih
    by_cases hhome : c = '~'
    · subst hhome
      exact ⟨_, .home hps⟩
    · exact ⟨_, .char hhome (fun _ _ => not_refers_cons hc) hps⟩

theorem expandPath_of_cut (hroot : env.HasRootedHome) (hplain : '$' ∉ env.home.toList)
    (h : Cut text ps) : (env.expandPath text).chars = ps.flatMap (Piece.value env) := by
  change env.expandVariables (env.expandHome text) = _
  induction h with
  | nil => simp [expandHome, expandVariables]
  | home _ ih =>
    rw [expandHome_tilde, expandVariables_append hplain, ih]
    rfl
  | reference hr _ ih =>
    rw [expandVariables_of_refers (hroot.refers hr), ih]
    rfl
  | @char c rest ps hc hnone _ ih =>
    have hkept : ∀ name after, ¬ Refers (c :: env.expandHome rest) name after := by
      intro name after hr
      obtain ⟨cs, heq⟩ := hr.exists_cons
      obtain ⟨rfl, -⟩ := List.cons.inj heq
      obtain ⟨rest', hr'⟩ := hroot.exists_refers hr
      exact hnone name rest' hr'
    rw [expandHome_cons hc, expandVariables_cons hkept, ih]
    rfl

/-- Where the home directory is a path from the root without a dollar sign, each path is what its
pieces stand for, one after the other. Nothing in the home directory or in the value of a variable
is replaced once more. -/
theorem expandPath_substitutes_once (hroot : env.HasRootedHome) (hplain : '$' ∉ env.home.toList)
    (raw : List Char) : (∃ ps, Cut raw ps) ∧
      ∀ ps, Cut raw ps → (env.expandPath raw).chars = ps.flatMap (Piece.value env) :=
  ⟨exists_cut raw, fun _ h => expandPath_of_cut hroot hplain h⟩

/-- The home directory has a `~` in it, and the value of a variable has a reference. -/
def sampleEnv : Environment where
  bindings := [("HOME", "/h~"), ("A", "$B~"), ("B", "b")]

theorem cut_sample : Cut "~$A${A~}".toList
    [.home, .reference ['A'], .char '$', .char '{', .char 'A', .home, .char '}'] := by
  have hA : Refers "$A${A~}".toList ['A'] "${A~}".toList :=
    reference?_eq_some_iff.mp (by decide)
  have hopen : ∀ name after, ¬ Refers "${A~}".toList name after :=
    reference?_eq_none_iff.mp (by decide)
  have hend : Cut r"A~}".toList [.char 'A', .home, .char '}'] :=
    .char (by decide) (fun _ _ => not_refers_cons (by decide))
      (.home (.char (by decide) (fun _ _ => not_refers_cons (by decide)) .nil))
  exact .home (.reference hA (.char (by decide) hopen
    (.char (by decide) (fun _ _ => not_refers_cons (by decide)) hend)))

theorem expandPath_substitutes_once_sample :
    sampleEnv.HasRootedHome ∧ '$' ∉ sampleEnv.home.toList ∧
      (sampleEnv.expandPath "~$A${A~}".toList).chars = "/h~$B~${A/h~}".toList := by
  have hroot : sampleEnv.HasRootedHome := by decide
  have hplain : '$' ∉ sampleEnv.home.toList := by decide
  refine ⟨hroot, hplain, ?_⟩
  rw [(expandPath_substitutes_once hroot hplain _).2 _ cut_sample]
  decide

end Stencil.Environment
