import Mathlib.Data.List.Induction
import Mathlib.Data.List.Pairwise
import Mathlib.Data.List.Perm.Basic
import Stencil.Proofs.Model.Equality
import Stencil.Registry

/-! # The scan of declarations

Filling the registries is one scan over the declarations of a configuration, models and tags alike.
It succeeds if declarations of one name are equal, and stops at the first that differs from an
earlier one. A declaration of nothing but the empty name is a case of its own: it equals the answer
for a name that is not registered, and so is not registered itself.
-/

namespace Stencil

inductive Declaration where
  | model (m : Model)
  | tag (t : Tag)

namespace Declaration

def kind : Declaration → String
  | model _ => "Model"
  | tag _ => "Tag"

def name : Declaration → String
  | model m => m.name
  | tag t => t.name

def equals : Declaration → Declaration → Bool
  | model m, model n => m.equals n
  | tag s, tag t => s == t
  | _, _ => false

def sameName (d e : Declaration) : Bool :=
  d.kind == e.kind && d.name == e.name

/-- Nothing but the empty name is declared. -/
def isBlank : Declaration → Bool
  | model m => Model.equals { name := "" } m
  | tag t => ({ name := "" } : Tag) == t

/-- Declarations of the same name are equal. -/
def Agree (d e : Declaration) : Prop :=
  d.sameName e = true → d.equals e = true

variable {d e f : Declaration}

theorem equals_comm (d e : Declaration) : d.equals e = e.equals d := by
  cases d with
  | model m =>
    cases e with
    | model n => exact m.equals_comm n
    | tag t => rfl
  | tag s =>
    cases e with
    | model n => rfl
    | tag t => exact Bool.beq_comm

theorem equals_trans (h : d.equals e = true) (h' : e.equals f = true) : d.equals f = true := by
  cases d <;> cases e <;> simp only [equals, Bool.false_eq_true] at h <;>
    cases f <;> simp only [equals, Bool.false_eq_true] at h' ⊢
  · exact Model.equals_trans h h'
  · exact beq_iff_eq.mpr ((beq_iff_eq.mp h).trans (beq_iff_eq.mp h'))

theorem sameName_iff : d.sameName e = true ↔ d.kind = e.kind ∧ d.name = e.name := by
  simp [sameName]

theorem sameName_symm (h : d.sameName e = true) : e.sameName d = true :=
  sameName_iff.mpr ⟨(sameName_iff.mp h).1.symm, (sameName_iff.mp h).2.symm⟩

theorem sameName_trans (h : d.sameName e = true) (h' : e.sameName f = true) :
    d.sameName f = true := by
  rw [sameName_iff] at h h' ⊢
  exact ⟨h.1.trans h'.1, h.2.trans h'.2⟩

theorem Agree.symm (h : d.Agree e) : e.Agree d := by
  intro hn
  rw [equals_comm]
  exact h (sameName_symm hn)

instance : Std.Symm Agree where
  symm _ _ := Agree.symm

theorem name_eq_of_isBlank (h : d.isBlank = true) : d.name = "" := by
  cases d with
  | model m => exact (Model.name_eq_of_equals h).symm
  | tag t => exact congrArg Tag.name (beq_iff_eq.mp h).symm

/-- All declarations of nothing but a name of one kind are equal. -/
theorem equals_of_isBlank (hn : d.sameName e = true) (hd : d.isBlank = true)
    (he : e.isBlank = true) : d.equals e = true := by
  have hk := (sameName_iff.mp hn).1
  cases d <;> cases e <;> simp only [kind, String.reduceEq] at hk
  · exact Model.equals_trans ((Model.equals_comm _ _).trans hd) he
  · exact beq_iff_eq.mpr ((beq_iff_eq.mp hd).symm.trans (beq_iff_eq.mp he))

end Declaration

/-- The declarations of a model: itself, then the tags of its fields. -/
def Model.declarations (m : Model) : List Declaration :=
  .model m :: (m.fields.flatMap (·.tags)).map .tag

namespace Config

/-- All declarations in the order in which they are registered. -/
def declarations (c : Config) : List Declaration :=
  c.models.flatMap (·.declarations)

/-- The tags of all fields, in the order of their declarations. -/
def fieldTags (c : Config) : List Tag :=
  c.models.flatMap fun m => m.fields.flatMap (·.tags)

/-- Apart from their order, the declarations are those of models and those of tags. -/
theorem declarations_perm (c : Config) :
    c.declarations.Perm (c.models.map .model ++ c.fieldTags.map .tag) := by
  have h := List.flatMap_append_perm c.models (fun m => [Declaration.model m])
    fun m => (m.fields.flatMap (·.tags)).map .tag
  rw [fieldTags, List.map_flatMap, List.map_eq_flatMap]
  exact h.symm

end Config

theorem ModelRegistry.name_of_find? {r : ModelRegistry} {n : String} {m : Model}
    (h : r.find? n = some m) : m.name = n := by
  simpa using List.find?_some h

theorem TagRegistry.name_of_find? {r : TagRegistry} {n : String} {t : Tag}
    (h : r.find? n = some t) : t.name = n := by
  simpa using List.find?_some h

namespace Registries

open Declaration

/-- Registers a declaration, unless it equals what the look-up of its name gives. -/
def add (r : Registries) : Declaration → Except ConfigError Registries
  | .model m =>
    if (r.models.lookup m.name).equals m then .ok r
    else (r.models.register m).map fun models => { r with models }
  | .tag t => r.addTag t

def registered? (r : Registries) : Declaration → Option Declaration
  | .model m => (r.models.find? m.name).map .model
  | .tag t => (r.tags.find? t.name).map .tag

def insert (r : Registries) : Declaration → Registries
  | .model m => { r with models := ⟨r.models.models ++ [m]⟩ }
  | .tag t => { r with tags := ⟨r.tags.tags ++ [t]⟩ }

variable {r r' : Registries} {c : Config} {d e : Declaration} {done ds : List Declaration}

theorem foldlM_flatMap {α β : Type} (f : α → List Declaration)
    (g : β → Declaration → Except ConfigError β) (l : List α) (b : β) :
    (l.flatMap f).foldlM g b = l.foldlM (fun b a => (f a).foldlM g b) b := by
  induction l generalizing b with
  | nil => rfl
  | cons a l ih => simp only [List.flatMap_cons, List.foldlM_append, List.foldlM_cons, ih]

theorem build_eq_foldlM (c : Config) : build c = c.declarations.foldlM add {} := by
  rw [build, Config.declarations, foldlM_flatMap]
  congr 1
  funext r m
  simp only [Model.declarations, List.foldlM_cons, List.foldlM_map, addModel, add]
  split <;> rfl

/-- Registering in one place: what is registered decides, and where nothing is, whether the
declaration is blank. -/
theorem add_eq (r : Registries) (d : Declaration) :
    r.add d = match r.registered? d with
      | some e => if e.equals d = true then .ok r else .error (.duplicate d.kind d.name)
      | none => if d.isBlank = true then .ok r else .ok (r.insert d) := by
  cases d with
  | model m =>
    rcases hf : r.models.find? m.name with _ | n
    · simp only [add, registered?, ModelRegistry.lookup, ModelRegistry.register, hf]
      rfl
    · simp only [add, registered?, ModelRegistry.lookup, ModelRegistry.register, hf]
      rfl
  | tag t =>
    rcases hf : r.tags.find? t.name with _ | s
    · simp only [add, addTag, registered?, TagRegistry.lookup, TagRegistry.register, hf]
      simp only [Option.getD_none, Option.map_none, Declaration.isBlank, beq_iff_eq]
      rfl
    · simp only [add, addTag, registered?, TagRegistry.lookup, TagRegistry.register, hf]
      simp only [Option.getD_some, Option.map_some, equals, beq_iff_eq]
      rfl

theorem sameName_of_registered? (h : r.registered? d = some e) : e.sameName d = true := by
  cases d with
  | model m =>
    obtain ⟨n, hn, rfl⟩ := Option.map_eq_some_iff.mp h
    exact sameName_iff.mpr ⟨rfl, ModelRegistry.name_of_find? hn⟩
  | tag t =>
    obtain ⟨s, hs, rfl⟩ := Option.map_eq_some_iff.mp h
    exact sameName_iff.mpr ⟨rfl, TagRegistry.name_of_find? hs⟩

theorem registered?_insert (r : Registries) (d e : Declaration) :
    (r.insert d).registered? e = (r.registered? e).or (if d.sameName e then some d else none) := by
  cases d <;> cases e <;>
    simp [insert, registered?, ModelRegistry.find?, TagRegistry.find?, List.find?_append, sameName,
      kind, name, List.find?_singleton, Option.map_or]

/-- Under each name stands its first declaration among those given that are not blank, and no name
stands twice. -/
structure Holds (r : Registries) (ds : List Declaration) : Prop where
  registered?_eq : ∀ d, r.registered? d = (ds.filter (!·.isBlank)).find? (·.sameName d)
  nodup_models : (r.models.models.map (·.name)).Nodup
  nodup_tags : (r.tags.tags.map (·.name)).Nodup

theorem holds_nil : Holds {} [] := by
  refine ⟨fun d => ?_, .nil, .nil⟩
  cases d <;> rfl

theorem Holds.mem_of_registered? (h : Holds r done) (he : r.registered? d = some e) : e ∈ done := by
  rw [h.registered?_eq] at he
  exact (List.mem_filter.mp (List.mem_of_find?_eq_some he)).1

theorem Holds.isBlank_of_registered? (h : Holds r done) (hd : r.registered? d = none)
    (he : e ∈ done) (hn : e.sameName d = true) : e.isBlank = true := by
  rw [h.registered?_eq, List.find?_eq_none] at hd
  by_contra hb
  exact hd e (List.mem_filter.mpr ⟨he, by simpa using hb⟩) hn

theorem Holds.insert (h : Holds r done) (hd : r.registered? d = none) (hb : d.isBlank = false) :
    Holds (r.insert d) (done ++ [d]) := by
  have hregistered : ∀ e, (r.insert d).registered? e =
      ((done ++ [d]).filter (!·.isBlank)).find? (·.sameName e) := by
    intro e
    rw [registered?_insert, h.registered?_eq, List.filter_append, List.find?_append]
    simp [hb, List.find?_singleton]
  cases d with
  | model m =>
    refine ⟨hregistered, ?_, h.nodup_tags⟩
    have hm : ∀ n ∈ r.models.models, n.name ≠ m.name := by
      simpa [registered?, ModelRegistry.find?] using hd
    simpa [Registries.insert, List.nodup_append, h.nodup_models] using hm
  | tag t =>
    refine ⟨hregistered, h.nodup_models, ?_⟩
    have ht : ∀ s ∈ r.tags.tags, s.name ≠ t.name := by
      simpa [registered?, TagRegistry.find?] using hd
    simpa [Registries.insert, List.nodup_append, h.nodup_tags] using ht

/-- A declaration that is not registered changes nothing if it is blank or its name is taken. -/
theorem Holds.skip (h : Holds r done) (hd : d.isBlank = true ∨ (r.registered? d).isSome = true) :
    Holds r (done ++ [d]) := by
  refine ⟨fun x => ?_, h.nodup_models, h.nodup_tags⟩
  rw [h.registered?_eq, List.filter_append, List.find?_append]
  by_cases hb : d.isBlank = true
  · simp [hb]
  · obtain ⟨e, he⟩ := Option.isSome_iff_exists.mp (hd.resolve_left hb)
    by_cases hx : d.sameName x = true
    · have hsome : ((done.filter (!·.isBlank)).find? (·.sameName x)).isSome = true := by
        have hn := sameName_trans (sameName_of_registered? he) hx
        rw [h.registered?_eq] at he
        exact List.find?_isSome.mpr ⟨e, List.mem_of_find?_eq_some he, hn⟩
      rw [Option.or_of_isSome hsome]
    · simp [hb, hx]

theorem Holds.add_of_agree (h : Holds r done) (hd : ∀ e ∈ done, e.Agree d) :
    ∃ r', r.add d = .ok r' ∧ Holds r' (done ++ [d]) := by
  rw [add_eq]
  rcases he : r.registered? d with _ | e
  · by_cases hb : d.isBlank = true
    · exact ⟨r, if_pos hb, h.skip (.inl hb)⟩
    · exact ⟨r.insert d, if_neg hb, h.insert he (by simpa using hb)⟩
  · have hequal := hd e (h.mem_of_registered? he) (sameName_of_registered? he)
    exact ⟨r, if_pos hequal, h.skip (.inr (by simp [he]))⟩

/-- Blank declarations stand only beside blank ones of the same name. -/
def BlanksAlone (ds : List Declaration) : Prop :=
  ∀ d ∈ ds, ∀ e ∈ ds, d.sameName e = true → d.isBlank = true → e.isBlank = true

theorem Holds.add_of_conflict (h : Holds r done) (hp : done.Pairwise Agree)
    (hb : BlanksAlone (done ++ [d])) (he : e ∈ done) (hn : e.sameName d = true)
    (hne : e.equals d = false) : r.add d = .error (.duplicate d.kind d.name) := by
  rw [add_eq]
  rcases hf : r.registered? d with _ | f
  · have heb := h.isBlank_of_registered? hf he hn
    have hdb := hb e (List.mem_append_left _ he) d (by simp) hn heb
    exact absurd (equals_of_isBlank hn heb hdb) (by simp [hne])
  · refine if_neg fun hfd => ?_
    have hfn := sameName_of_registered? hf
    -- The declaration that is registered equals the conflicting one, or is that one.
    by_cases hfe : e = f
    · simp [hfe, hfd] at hne
    · have hef := hp.forall he (h.mem_of_registered? hf) hfe
      have hed := equals_trans (hef (sameName_trans hn (sameName_symm hfn))) hfd
      simp [hed] at hne

theorem Holds.foldlM_of_agree (h : Holds r done) (ds : List Declaration)
    (hp : (done ++ ds).Pairwise Agree) :
    ∃ r', ds.foldlM add r = .ok r' ∧ Holds r' (done ++ ds) := by
  induction ds generalizing r done with
  | nil => exact ⟨r, rfl, by simpa using h⟩
  | cons d ds ih =>
    have hd : ∀ e ∈ done, e.Agree d :=
      fun e he => (List.pairwise_append.mp hp).2.2 e he d List.mem_cons_self
    obtain ⟨r₁, hr₁, h₁⟩ := h.add_of_agree hd
    obtain ⟨r', hr', h'⟩ := ih h₁ (by simpa using hp)
    refine ⟨r', ?_, by simpa using h'⟩
    rw [List.foldlM_cons, hr₁]
    exact hr'

/-- Whatever is declared, a step that succeeds registers the declaration, or skips it because it is
blank or its name is taken. -/
theorem Holds.add_of_ok (h : Holds r done) (ha : r.add d = .ok r') : Holds r' (done ++ [d]) := by
  rw [add_eq] at ha
  rcases he : r.registered? d with _ | e
  · simp only [he] at ha
    by_cases hb : d.isBlank = true
    · obtain rfl : r = r' := by simpa [hb] using ha
      exact h.skip (.inl hb)
    · obtain rfl : r.insert d = r' := by simpa [hb] using ha
      exact h.insert he (by simpa using hb)
  · simp only [he] at ha
    by_cases hequal : e.equals d = true
    · obtain rfl : r = r' := by simpa [hequal] using ha
      exact h.skip (.inr (by simp [he]))
    · simp [hequal] at ha

theorem Holds.foldlM_of_ok (h : Holds r done) (hr : ds.foldlM add r = .ok r') :
    Holds r' (done ++ ds) := by
  induction ds generalizing r done with
  | nil =>
    obtain rfl : r = r' := Except.ok.inj hr
    simpa using h
  | cons d ds ih =>
    rw [List.foldlM_cons] at hr
    cases ha : r.add d with
    | error e =>
      rw [ha] at hr
      cases hr
    | ok r₁ =>
      rw [ha] at hr
      simpa using ih (h.add_of_ok ha) hr

theorem holds_of_build (h : build c = .ok r) : Holds r c.declarations := by
  rw [build_eq_foldlM] at h
  exact holds_nil.foldlM_of_ok h

/-- A declaration differs from an earlier one of its name, and those before it agree. -/
def FirstConflict (ds : List Declaration) (d : Declaration) : Prop :=
  ∃ before after, ds = before ++ d :: after ∧ before.Pairwise Agree ∧
    ∃ e ∈ before, e.sameName d = true ∧ e.equals d = false

theorem exists_firstConflict (h : ¬ ds.Pairwise Agree) : ∃ d, FirstConflict ds d := by
  induction ds using List.reverseRecOn with
  | nil => exact absurd .nil h
  | append_singleton ds d ih =>
    by_cases hp : ds.Pairwise Agree
    · refine ⟨d, ds, [], rfl, hp, ?_⟩
      have hn : ¬ ∀ e ∈ ds, e.Agree d := by
        intro hd
        refine h (List.pairwise_append.mpr ⟨hp, List.pairwise_singleton _ _, ?_⟩)
        simpa using hd
      simpa [Agree] using hn
    · obtain ⟨e, before, after, rfl, hc⟩ := ih hp
      exact ⟨e, before, after ++ [d], by simp, hc⟩

theorem foldlM_of_firstConflict (hb : BlanksAlone ds) (h : FirstConflict ds d) :
    ds.foldlM add {} = .error (.duplicate d.kind d.name) := by
  obtain ⟨before, after, rfl, hp, e, he, hn, hne⟩ := h
  obtain ⟨r, hr, hholds⟩ := holds_nil.foldlM_of_agree before hp
  have hb' : BlanksAlone (before ++ [d]) := by
    have hsub : ∀ x ∈ before ++ [d], x ∈ before ++ d :: after := by simp; tauto
    exact fun x hx y hy => hb x (hsub x hx) y (hsub y hy)
  have hadd : r.add d = .error (.duplicate d.kind d.name) :=
    Holds.add_of_conflict hholds hp hb' he hn hne
  rw [List.foldlM_append, hr]
  change (d :: after).foldlM add r = _
  rw [List.foldlM_cons, hadd]
  rfl

theorem build_isOk_iff (hb : BlanksAlone c.declarations) :
    (build c).isOk = true ↔ c.declarations.Pairwise Agree := by
  rw [build_eq_foldlM]
  constructor
  · intro h
    by_contra hp
    obtain ⟨d, hd⟩ := exists_firstConflict hp
    rw [foldlM_of_firstConflict hb hd] at h
    cases h
  · intro hp
    obtain ⟨r, hr, -⟩ := holds_nil.foldlM_of_agree c.declarations hp
    rw [hr]
    rfl

end Registries

end Stencil
