import Stencil.Blocks.Render
import Stencil.Statement.Eval

/-! # Conventions of calls

A helper takes its arguments by their positions. A block template gives them that way; a statement
template gives names to the arguments of a function, and to all but the first one of a filter. Each
of these ways leads to the same arguments: one for each parameter, and null for what is left out.
-/

namespace Stencil

namespace Helper

/-- The named arguments give the parameters the values at their positions. Where there is no value,
there is no argument, or null. -/
def Supplies (named : List (String × Json)) (params : List String) (args : List Json) : Prop :=
  ∀ (i : Nat) (p : String), params[i]? = some p →
    (named.lookup p).getD .null = (args[i]?).getD .null

/-- Two lists of named arguments give the parameters the same values. -/
def SameFor (params : List String) (named named' : List (String × Json)) : Prop :=
  ∀ p ∈ params, (named.lookup p).getD .null = (named'.lookup p).getD .null

variable {h : Helper} {named named' before after : List (String × Json)} {params : List String}
  {args args' rest : List Json} {first v : Json} {p q : String}

section Positions

theorem getElem?_fill (params : List String) (args : List Json) (i : Nat) :
    (positional.fill params args)[i]? = params[i]?.map fun _ => (args[i]?).getD .null := by
  induction params generalizing args i with
  | nil => rfl
  | cons p params ih => cases args <;> cases i <;> simp [positional.fill, ih]

theorem getElem?_positional (h : Helper) (args : List Json) (i : Nat) :
    (h.positional args)[i]? = h.params[i]?.map fun _ => (args[i]?).getD .null :=
  getElem?_fill h.params args i

theorem positional_congr
    (hargs : ∀ i < h.params.length, (args[i]?).getD .null = (args'[i]?).getD .null) :
    h.positional args = h.positional args' := by
  refine List.ext_getElem? fun i => ?_
  rw [getElem?_positional, getElem?_positional]
  by_cases hi : i < h.params.length
  · rw [hargs i hi]
  · rw [List.getElem?_eq_none (Nat.not_lt.mp hi)]
    rfl

theorem positional_append (hl : h.params.length ≤ args.length) (more : List Json) :
    h.positional (args ++ more) = h.positional args :=
  positional_congr fun i hi => by rw [List.getElem?_append_left (Nat.lt_of_lt_of_le hi hl)]

theorem positional_append_null (h : Helper) (args : List Json) (n : Nat) :
    h.positional (args ++ List.replicate n .null) = h.positional args := by
  refine positional_congr fun i _ => ?_
  by_cases hi : i < args.length
  · rw [List.getElem?_append_left hi]
  · rw [List.getElem?_append_right (Nat.not_lt.mp hi), List.getElem?_eq_none (Nat.not_lt.mp hi),
      List.getElem?_replicate]
    split <;> rfl

end Positions

section Names

theorem supplies_nil : Supplies named [] args := by
  intro i p hp
  cases hp

theorem supplies_cons_iff : Supplies named (p :: params) args ↔
    (named.lookup p).getD .null = (args.head?).getD .null ∧ Supplies named params args.tail := by
  constructor
  · intro hs
    refine ⟨?_, fun i q hq => ?_⟩
    · rw [List.head?_eq_getElem?]
      exact hs 0 p rfl
    · rw [List.getElem?_tail]
      exact hs (i + 1) q hq
  · rintro ⟨hhead, htail⟩ i q hq
    cases i with
    | zero =>
      obtain rfl := Option.some.inj hq
      rw [← List.head?_eq_getElem?]
      exact hhead
    | succ i =>
      rw [← List.getElem?_tail]
      exact htail i q hq

theorem SameFor.supplies_iff (hnamed : SameFor params named named') :
    Supplies named params args ↔ Supplies named' params args := by
  refine forall_congr' fun i => forall_congr' fun p => ?_
  constructor
  · intro hs hp
    rw [← hnamed p (List.mem_of_getElem? hp)]
    exact hs hp
  · intro hs hp
    rw [hnamed p (List.mem_of_getElem? hp)]
    exact hs hp

theorem lookup_insert (hq : q ≠ p) :
    (before ++ (p, v) :: after).lookup q = (before ++ after).lookup q := by
  rw [List.lookup_append, List.lookup_append, List.lookup_cons, beq_false_of_ne hq]

theorem sameFor_insert (hp : p ∉ params) :
    SameFor params (before ++ (p, v) :: after) (before ++ after) := by
  intro q hq
  have hne : q ≠ p := by
    rintro rfl
    exact hp hq
  rw [lookup_insert hne]

theorem sameFor_insert_null (hp : (before ++ after).lookup p = none) :
    SameFor params (before ++ (p, .null) :: after) (before ++ after) := by
  intro q _
  by_cases hq : q = p
  · subst hq
    rw [hp]
    rw [List.lookup_append, Option.or_eq_none_iff] at hp
    rw [List.lookup_append, hp.1, List.lookup_cons_self]
    rfl
  · rw [lookup_insert hq]

theorem supplies_zip (hn : params.Nodup) (args : List Json) :
    Supplies (params.zip args) params args := by
  induction params generalizing args with
  | nil => exact supplies_nil
  | cons p params ih =>
    obtain ⟨hp, hn⟩ := List.nodup_cons.mp hn
    cases args with
    | nil =>
      intro i q _
      rfl
    | cons a args =>
      refine supplies_cons_iff.mpr ⟨by simp, ?_⟩
      have hsame : SameFor params ([] ++ (p, a) :: params.zip args) (params.zip args) :=
        sameFor_insert hp
      exact hsame.supplies_iff.mpr (ih hn args)

theorem named_eq_positional (hs : Supplies named h.params args) :
    h.named named = h.positional args := by
  refine List.ext_getElem? fun i => ?_
  rw [getElem?_positional, Helper.named, List.getElem?_map]
  rcases hp : h.params[i]? with _ | p
  · rfl
  · rw [Option.map_some, Option.map_some, hs i p hp]

theorem piped_eq_positional (hne : h.params ≠ []) (hs : Supplies named h.params.tail rest) :
    h.piped first named = h.positional (first :: rest) := by
  refine List.ext_getElem? fun i => ?_
  obtain ⟨p, params, hparams⟩ := List.exists_cons_of_ne_nil hne
  rw [hparams] at hs
  rw [getElem?_positional, Helper.piped, hparams]
  cases i with
  | zero => rfl
  | succ i =>
    rw [List.getElem?_cons_succ, List.drop_one, List.tail_cons, List.getElem?_map,
      List.getElem?_cons_succ, List.getElem?_cons_succ]
    rcases hq : params[i]? with _ | q
    · rfl
    · rw [Option.map_some, Option.map_some, hs i q hq]

theorem SameFor.named_eq (hnamed : SameFor h.params named named') :
    h.named named = h.named named' :=
  List.map_congr_left hnamed

theorem SameFor.piped_eq (hnamed : SameFor h.params.tail named named') :
    h.piped first named = h.piped first named' := by
  unfold piped
  rw [List.drop_one]
  exact congrArg (first :: ·) (List.map_congr_left hnamed)

end Names

section Catalog

theorem nodup_params (hmem : h ∈ catalog) : h.params.Nodup := by
  revert h
  decide

theorem not_mem_tail_of_head? (hn : params.Nodup) (hp : params.head? = some p) :
    p ∉ params.tail := by
  obtain ⟨params, rfl⟩ := List.head?_eq_some_iff.mp hp
  exact (List.nodup_cons.mp hn).1

theorem params_ne_nil (hmem : h ∈ catalog) : h.params ≠ [] := by
  revert h
  decide

theorem find?_of_mem {helpers : List Helper} (hn : (helpers.map (·.name)).Nodup)
    (hmem : h ∈ helpers) : helpers.find? (·.name == h.name) = some h := by
  induction helpers with
  | nil => cases hmem
  | cons k helpers ih =>
    obtain ⟨hk, hn⟩ := List.nodup_cons.mp hn
    rcases List.mem_cons.mp hmem with rfl | hmem
    · exact List.find?_cons_of_pos (beq_self_eq_true _)
    · have hne : k.name ≠ h.name := by
        intro he
        exact hk (List.mem_map.mpr ⟨h, hmem, he.symm⟩)
      rw [List.find?_cons_of_neg (by simpa using hne), ih hn hmem]

theorem find?_name (hmem : h ∈ catalog) : find? h.name = some h :=
  find?_of_mem (by decide) hmem

end Catalog

end Helper

namespace Statement

variable {h : Helper} {named : List (String × Json)} {first : Json}

def pending (named : List (String × Json)) : PendingArguments :=
  named.map fun (k, v) => (k, pure v)

theorem settle_pending (named : List (String × Json)) : settle (pending named) = pure named := by
  induction named with
  | nil => rfl
  | cons arg named ih =>
    have hcons : pending (arg :: named) = (arg.1, pure arg.2) :: pending named := rfl
    rw [hcons, settle, ih, pure_bind, pure_bind]

theorem callFunction_pending (hmem : h ∈ Helper.catalog) (host : Host) :
    callFunction host h.name (pending named) = .ofHelper (h.call (h.named named)) := by
  unfold callFunction
  simp only [Helper.find?_name hmem, settle_pending, pure_bind]

/-- A filter that is a helper is called with what is piped into it before its named arguments. -/
theorem applyFilter_pending (hmem : h ∈ Helper.catalog) :
    applyFilter first h.name (pending named) = .ofHelper (h.call (h.piped first named)) := by
  unfold applyFilter
  simp only [Helper.find?_name hmem, settle_pending, pure_bind]

end Statement

namespace Blocks

theorem callHelper_some {h : Helper} (hmem : h ∈ Helper.catalog) (args : List Json) :
    callHelper h.name (args.map some) = .ofHelper (h.call (h.positional args)) := by
  unfold callHelper
  simp [Helper.find?_name hmem, Function.comp_def]

end Blocks

namespace Helper

open Blocks Statement

variable {h : Helper}

/-- A helper of the catalog gets the same arguments by position, by name, and by name after a first
one that is piped into it, so it answers or refuses the same. What comes after the last parameter,
what has another name, and what has the name of the first parameter of a filter is not looked at.
What is left out is null. -/
theorem conventions_agree (hmem : h ∈ catalog) (host : Host) (first : Json) (rest : List Json) :
    (∀ named, Supplies named h.params (first :: rest) →
      h.named named = h.positional (first :: rest) ∧
      callFunction host h.name (pending named) = callHelper h.name ((first :: rest).map some)) ∧
    (∀ named, Supplies named h.params.tail rest →
      h.piped first named = h.positional (first :: rest) ∧
      applyFilter first h.name (pending named) = callHelper h.name ((first :: rest).map some)) ∧
    Supplies (h.params.zip (first :: rest)) h.params (first :: rest) ∧
    Supplies (h.params.tail.zip rest) h.params.tail rest ∧
    (∀ more : List Json, h.params.length ≤ (first :: rest).length →
      callHelper h.name ((first :: rest ++ more).map some) =
        callHelper h.name ((first :: rest).map some)) ∧
    (∀ n, callHelper h.name ((first :: rest ++ List.replicate n Json.null).map some) =
      callHelper h.name ((first :: rest).map some)) ∧
    (∀ before after p v, p ∉ h.params ∨ v = .null ∧ (before ++ after).lookup p = none →
      callFunction host h.name (pending (before ++ (p, v) :: after)) =
        callFunction host h.name (pending (before ++ after))) ∧
    (∀ before after p v,
      p ∉ h.params ∨ h.params.head? = some p ∨ v = .null ∧ (before ++ after).lookup p = none →
      applyFilter first h.name (pending (before ++ (p, v) :: after)) =
        applyFilter first h.name (pending (before ++ after))) := by
  have hn := nodup_params hmem
  refine ⟨fun named hs => ?_, fun named hs => ?_, supplies_zip hn _, supplies_zip hn.tail _,
    fun more hl => ?_, fun n => ?_, fun before after p v hp => ?_, fun before after p v hp => ?_⟩
  · have heq := named_eq_positional hs
    rw [callFunction_pending hmem, callHelper_some hmem, heq]
    exact ⟨rfl, rfl⟩
  · have heq : h.piped first named = h.positional (first :: rest) :=
      piped_eq_positional (params_ne_nil hmem) hs
    rw [applyFilter_pending hmem, callHelper_some hmem, heq]
    exact ⟨rfl, rfl⟩
  · rw [callHelper_some hmem, callHelper_some hmem, positional_append hl]
  · rw [callHelper_some hmem, callHelper_some hmem, positional_append_null]
  · have hsame : SameFor h.params (before ++ (p, v) :: after) (before ++ after) := by
      rcases hp with hp | ⟨rfl, hp⟩
      · exact sameFor_insert hp
      · exact sameFor_insert_null hp
    rw [callFunction_pending hmem, callFunction_pending hmem, hsame.named_eq]
  · have hsame : SameFor h.params.tail (before ++ (p, v) :: after) (before ++ after) := by
      rcases hp with hp | hp | ⟨rfl, hp⟩
      · exact sameFor_insert fun hmem => hp (List.mem_of_mem_tail hmem)
      · exact sameFor_insert (not_mem_tail_of_head? hn hp)
      · exact sameFor_insert_null hp
    rw [applyFilter_pending hmem, applyFilter_pending hmem, hsame.piped_eq]

theorem conventions_agree_sample :
    (callHelper "go_type_with_prefix" [some (.str "Invoice"), some (.str "pb.")]).run [] =
        (.ok (.str "pb.Invoice"), []) ∧
      callFunction {} "go_type_with_prefix"
          (pending [("prefix", .str "pb."), ("width", .int 2), ("type", .str "Invoice")]) =
        callHelper "go_type_with_prefix" [some (.str "Invoice"), some (.str "pb.")] ∧
      applyFilter (.str "Invoice") "go_type_with_prefix"
          (pending [("type", .str "Order"), ("prefix", .str "pb.")]) =
        callHelper "go_type_with_prefix" [some (.str "Invoice"), some (.str "pb.")] := by
  have hmem : goTypeWithPrefix ∈ catalog := .tail _ (.tail _ (.head _))
  obtain ⟨hfunction, hfilter, -⟩ := conventions_agree hmem {} (.str "Invoice") [.str "pb."]
  exact ⟨rfl,
    (hfunction _ (supplies_cons_iff.mpr ⟨rfl, supplies_cons_iff.mpr ⟨rfl, supplies_nil⟩⟩)).2,
    (hfilter _ (supplies_cons_iff.mpr ⟨rfl, supplies_nil⟩)).2⟩

end Helper

end Stencil
