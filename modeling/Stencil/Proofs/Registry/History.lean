import Mathlib.Data.List.Dedup
import Mathlib.Data.List.Induction
import Stencil.Proofs.Registry.Build

/-! # What registries remember

The registry of tags and that of models answer in the same way, by names. After any sequence of
calls a registry holds the first definition that was to be registered under each name; the later
ones were refused. So the sentinel stands for the names that no call was to register, the empty one
apart.
-/

namespace Stencil

/-- A kind of registry: its operations, the list of definitions that it is, and how the operations
act on that list. -/
structure NameTable (α ρ : Type) where
  kind : String
  empty : ρ
  register : ρ → α → Except ConfigError ρ
  lookup : ρ → String → α
  size : ρ → Nat
  name : α → String
  isSentinel : α → Bool
  entries : ρ → List α
  ofEntries : List α → ρ
  sentinel : α
  entries_ofEntries : ∀ ds, entries (ofEntries ds) = ds
  empty_eq : empty = ofEntries []
  register_eq : ∀ r d, register r d =
    match (entries r).find? (name · == name d) with
    | some _ => .error (.duplicate kind (name d))
    | none => .ok (ofEntries (entries r ++ [d]))
  lookup_eq : ∀ r n, lookup r n = ((entries r).find? (name · == n)).getD sentinel
  size_eq : ∀ r, size r = (entries r).length
  isSentinel_eq : ∀ d, isSentinel d = (name d == "")
  name_sentinel : name sentinel = ""

def TagRegistry.table : NameTable Tag TagRegistry where
  kind := "Tag"
  empty := {}
  register := register
  lookup := lookup
  size := size
  name := (·.name)
  isSentinel := (·.isSentinel)
  entries := (·.tags)
  ofEntries := .mk
  sentinel := { name := "" }
  entries_ofEntries _ := rfl
  empty_eq := rfl
  register_eq r d := by
    simp only [register, find?]
    cases r.tags.find? (·.name == d.name) <;> rfl
  lookup_eq _ _ := rfl
  size_eq _ := rfl
  isSentinel_eq _ := rfl
  name_sentinel := rfl

def ModelRegistry.table : NameTable Model ModelRegistry where
  kind := "Model"
  empty := {}
  register := register
  lookup := lookup
  size := size
  name := (·.name)
  isSentinel := (·.isSentinel)
  entries := (·.models)
  ofEntries := .mk
  sentinel := { name := "" }
  entries_ofEntries _ := rfl
  empty_eq := rfl
  register_eq r d := by
    simp only [register, find?]
    cases r.models.find? (·.name == d.name) <;> rfl
  lookup_eq _ _ := rfl
  size_eq _ := rfl
  isSentinel_eq _ := rfl
  name_sentinel := rfl

namespace NameTable

open Registries (find?_first mem_map_iff_find?)

/-- A call on a registry. -/
inductive Call (α : Type) where
  | register (d : α)
  | lookup (name : String)

def definitions {α : Type} (cs : List (Call α)) : List α :=
  cs.filterMap fun
    | .register d => some d
    | .lookup _ => none

variable {α ρ : Type} (t : NameTable α ρ)

/-- The registry after a call. A refused registration leaves it as it is. -/
def step (r : ρ) : Call α → ρ
  | .register d =>
    match t.register r d with
    | .ok r' => r'
    | .error _ => r
  | .lookup _ => r

/-- The registry after some calls, the first one made on the empty registry. -/
def after (cs : List (Call α)) : ρ :=
  cs.foldl t.step t.empty

/-- One of the calls has succeeded in registering the name. -/
def Registered (cs : List (Call α)) (name : String) : Prop :=
  ∃ before d later r, cs = before ++ .register d :: later ∧ t.name d = name ∧
    t.register (t.after before) d = .ok r

/-- What a registry tells, after any calls, of those calls. -/
structure Remembers : Prop where
  register_ok_iff : ∀ cs d,
    (∃ r, t.register (t.after cs) d = .ok r) ↔ ¬ t.Registered cs (t.name d)
  register_error : ∀ cs d e, t.register (t.after cs) d = .error e →
    e = .duplicate t.kind (t.name d) ∧ t.after (cs ++ [.register d]) = t.after cs
  lookup_eq : ∀ before d later, (∀ e, .register e ∈ before → t.name e ≠ t.name d) →
    t.lookup (t.after (before ++ .register d :: later)) (t.name d) = d
  size_eq : ∀ cs, t.size (t.after cs) = ((definitions cs).map t.name).dedup.length
  isSentinel_iff : ∀ cs name, name ≠ "" →
    (t.isSentinel (t.lookup (t.after cs) name) = true ↔
      ∀ d, .register d ∈ cs → t.name d ≠ name)

/-- Under each name stands the first of the definitions, and no name stands twice. -/
structure Holds (r : ρ) (ds : List α) : Prop where
  find?_eq : ∀ name, (t.entries r).find? (t.name · == name) = ds.find? (t.name · == name)
  nodup : ((t.entries r).map t.name).Nodup

variable {t} {r r' : ρ} {d : α} {ds : List α} {cs before later : List (Call α)} {name : String}
  {e : ConfigError}

theorem mem_definitions_iff : d ∈ definitions cs ↔ .register d ∈ cs := by
  rw [definitions, List.mem_filterMap]
  constructor
  · rintro ⟨c, hc, h⟩
    cases c with
    | register d' =>
      obtain rfl := Option.some.inj h
      exact hc
    | lookup name => cases h
  · intro h
    exact ⟨_, h, rfl⟩

theorem definitions_append :
    definitions (before ++ later) = definitions before ++ definitions later :=
  List.filterMap_append

theorem step_of_ok (h : t.register r d = .ok r') : t.step r (.register d) = r' := by
  rw [step, h]

theorem step_of_error (h : t.register r d = .error e) : t.step r (.register d) = r := by
  rw [step, h]

theorem after_append : t.after (before ++ later) = later.foldl t.step (t.after before) :=
  List.foldl_append

theorem holds_empty : t.Holds t.empty [] := by
  constructor <;> simp [t.empty_eq, t.entries_ofEntries]

theorem Holds.mem_names_iff (h : t.Holds r ds) :
    name ∈ (t.entries r).map t.name ↔ name ∈ ds.map t.name := by
  rw [mem_map_iff_find?, mem_map_iff_find?, h.find?_eq]

theorem Holds.register_fresh (h : t.Holds r ds) (hd : t.name d ∉ ds.map t.name) :
    ∃ r', t.register r d = .ok r' ∧ t.Holds r' (ds ++ [d]) := by
  have hnone : (t.entries r).find? (t.name · == t.name d) = none := by
    rw [h.find?_eq, ← Option.not_isSome_iff_eq_none]
    exact mt mem_map_iff_find?.mpr hd
  refine ⟨_, by rw [t.register_eq, hnone], fun name => ?_, ?_⟩
  · rw [t.entries_ofEntries, List.find?_append, h.find?_eq, List.find?_append]
  · rw [t.entries_ofEntries, List.map_append, List.nodup_append]
    refine ⟨h.nodup, List.nodup_singleton _, ?_⟩
    intro n hn m hm hnm
    obtain rfl : m = t.name d := List.mem_singleton.mp hm
    exact hd (h.mem_names_iff.mp (hnm ▸ hn))

theorem Holds.register_taken (h : t.Holds r ds) (hd : t.name d ∈ ds.map t.name) :
    t.register r d = .error (.duplicate t.kind (t.name d)) ∧ t.Holds r (ds ++ [d]) := by
  obtain ⟨e, he⟩ := Option.isSome_iff_exists.mp (mem_map_iff_find?.mp hd)
  refine ⟨by rw [t.register_eq, h.find?_eq, he], fun name => ?_, h.nodup⟩
  rw [h.find?_eq, List.find?_append]
  by_cases hname : t.name d = name
  · rw [hname] at hd
    rw [Option.or_of_isSome (mem_map_iff_find?.mp hd)]
  · simp [hname]

theorem Holds.lookup_eq (h : t.Holds r ds) :
    t.lookup r name = (ds.find? (t.name · == name)).getD t.sentinel := by
  rw [t.lookup_eq, h.find?_eq]

theorem Holds.step (h : t.Holds r ds) (c : Call α) :
    t.Holds (t.step r c) (ds ++ definitions [c]) := by
  cases c with
  | register d =>
    by_cases hd : t.name d ∈ ds.map t.name
    · obtain ⟨hr, hholds⟩ := h.register_taken hd
      rw [step_of_error hr]
      exact hholds
    · obtain ⟨r', hr, hholds⟩ := h.register_fresh hd
      rw [step_of_ok hr]
      exact hholds
  | lookup name =>
    change t.Holds r (ds ++ [])
    rwa [List.append_nil]

theorem Holds.foldl (h : t.Holds r ds) (cs : List (Call α)) :
    t.Holds (cs.foldl t.step r) (ds ++ definitions cs) := by
  induction cs generalizing r ds with
  | nil => simpa [definitions] using h
  | cons c cs ih =>
    rw [← List.singleton_append, definitions_append, ← List.append_assoc]
    exact ih (h.step c)

theorem holds_after (cs : List (Call α)) : t.Holds (t.after cs) (definitions cs) :=
  holds_empty.foldl cs

/-- A registration succeeds on a name that none of the calls before was to register. -/
theorem register_ok_iff_fresh :
    (∃ r, t.register (t.after cs) d = .ok r) ↔ t.name d ∉ (definitions cs).map t.name := by
  constructor
  · rintro ⟨r, hr⟩ hd
    rw [((holds_after cs).register_taken hd).1] at hr
    cases hr
  · intro hd
    obtain ⟨r, hr, -⟩ := (holds_after cs).register_fresh hd
    exact ⟨r, hr⟩

/-- A name that some call was to register has been registered, by the first such call. -/
theorem registered_iff : t.Registered cs name ↔ name ∈ (definitions cs).map t.name := by
  constructor
  · rintro ⟨before, d, later, r, rfl, rfl, -⟩
    exact List.mem_map_of_mem (mem_definitions_iff.mpr (by simp))
  · intro hn
    induction cs using List.reverseRecOn with
    | nil => cases hn
    | append_singleton cs c ih =>
      by_cases hcs : name ∈ (definitions cs).map t.name
      · obtain ⟨before, d, later, r, rfl, hd, hr⟩ := ih hcs
        exact ⟨before, d, later ++ [c], r, by simp, hd, hr⟩
      · rw [definitions_append, List.map_append, List.mem_append] at hn
        have hc := hn.resolve_left hcs
        cases c with
        | register d =>
          obtain rfl : name = t.name d := List.mem_singleton.mp hc
          obtain ⟨r, hr⟩ := register_ok_iff_fresh.mpr hcs
          exact ⟨cs, d, [], r, rfl, rfl, hr⟩
        | lookup _ => cases hc

theorem after_of_register_error (h : t.register (t.after cs) d = .error e) :
    e = .duplicate t.kind (t.name d) ∧ t.after (cs ++ [.register d]) = t.after cs := by
  have hd : t.name d ∈ (definitions cs).map t.name := by
    by_contra hd
    obtain ⟨r, hr⟩ := register_ok_iff_fresh.mpr hd
    rw [hr] at h
    cases h
  refine ⟨?_, by rw [after_append]; exact step_of_error h⟩
  rw [((holds_after cs).register_taken hd).1] at h
  exact (Except.error.inj h).symm

/-- The first definition of its name is the one that is found. -/
theorem lookup_first (h : ∀ e, .register e ∈ before → t.name e ≠ t.name d) :
    t.lookup (t.after (before ++ .register d :: later)) (t.name d) = d := by
  rw [(holds_after _).lookup_eq,
    find?_first definitions_append fun e he => h e (mem_definitions_iff.mp he), Option.getD_some]

theorem size_after (cs : List (Call α)) :
    t.size (t.after cs) = ((definitions cs).map t.name).dedup.length := by
  have h := holds_after (t := t) cs
  have hperm : ((t.entries (t.after cs)).map t.name).Perm ((definitions cs).map t.name).dedup :=
    (List.perm_ext_iff_of_nodup h.nodup (List.nodup_dedup _)).mpr fun name => by
      rw [h.mem_names_iff, List.mem_dedup]
  rw [t.size_eq, ← hperm.length_eq, List.length_map]

/-- Only a name that no call was to register gives the sentinel, unless it is empty. -/
theorem isSentinel_lookup_iff (hname : name ≠ "") :
    t.isSentinel (t.lookup (t.after cs) name) = true ↔
      ∀ d, .register d ∈ cs → t.name d ≠ name := by
  rw [(holds_after cs).lookup_eq, t.isSentinel_eq, beq_iff_eq]
  constructor
  · rintro hempty d hd rfl
    have hmem : t.name d ∈ (definitions cs).map t.name :=
      List.mem_map_of_mem (mem_definitions_iff.mpr hd)
    obtain ⟨e, he⟩ := Option.isSome_iff_exists.mp (mem_map_iff_find?.mp hmem)
    have hfound : t.name e = t.name d := by simpa using List.find?_some he
    rw [he, Option.getD_some, hfound] at hempty
    exact hname hempty
  · intro h
    have hnone : (definitions cs).find? (t.name · == name) = none :=
      List.find?_eq_none.mpr fun d hd => by simpa using h d (mem_definitions_iff.mp hd)
    rw [hnone, Option.getD_none, t.name_sentinel]

variable (t) in
theorem remembers : t.Remembers where
  register_ok_iff _ _ := register_ok_iff_fresh.trans (not_congr registered_iff.symm)
  register_error _ _ _ := after_of_register_error
  lookup_eq _ _ _ := lookup_first
  size_eq := size_after
  isSentinel_iff _ _ := isSentinel_lookup_iff

/-- Both registries remember the first registration of each name, whatever calls are made. -/
theorem registries_remember_first_registrations :
    TagRegistry.table.Remembers ∧ ModelRegistry.table.Remembers :=
  ⟨remembers _, remembers _⟩

/-- The second registration of a name is refused, even of the same tag. -/
example : let owner : Tag := { name := "owner", type := .owner }
    let r := TagRegistry.table.after [.register owner, .lookup "ghost", .register owner]
    r.size = 1 ∧ r.lookup "owner" = owner ∧ (r.lookup "ghost").isSentinel = true := by
  decide

end NameTable

end Stencil
