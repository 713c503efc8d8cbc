import Mathlib.Data.Fin.Rev
import Mathlib.Data.List.OfFn
import Mathlib.Data.List.FinRange
import Mathlib.Logic.Equiv.Fin.Basic
import Stencil.Proofs.Registry.Build

/-! # Order of declarations

Reordering apis, microservices, secondary models, fields or tags does not decide whether the
registries can be built, as long as a declaration of nothing but the empty name stands beside no
other of that name.
-/

namespace Stencil

/-- A list in the order that a permutation of its places gives. -/
def rearrange {α : Type} (σ : ∀ n, Equiv.Perm (Fin n)) (l : List α) : List α :=
  List.ofFn fun i => l[σ l.length i]

/-- The elements of the second list stand for those of the first, in some order. -/
def Shuffled {α : Type} (R : α → α → Prop) (l l' : List α) : Prop :=
  ∃ m, List.Forall₂ R l m ∧ m.Perm l'

section Lists

variable {α : Type} {R : α → α → Prop} {σ : ∀ n, Equiv.Perm (Fin n)} {l l' : List α} {n : Nat}

theorem rearrange_perm (σ : ∀ n, Equiv.Perm (Fin n)) (l : List α) : (rearrange σ l).Perm l := by
  have h := (σ l.length).ofFn_comp_perm fun i => l[i]
  simpa [rearrange, Function.comp_def] using h

theorem rearrange_eq (h : l.length = n) :
    rearrange σ l = List.ofFn fun i => l.get ((σ n i).cast h.symm) := by
  subst h
  rfl

theorem forall₂_iff_of_length (h : l.length = n) (h' : l'.length = n) :
    List.Forall₂ R l l' ↔ ∀ i : Fin n, R (l.get (i.cast h.symm)) (l'.get (i.cast h'.symm)) := by
  rw [List.forall₂_iff_get]
  constructor
  · intro hr i
    exact hr.2 i (h ▸ i.isLt) (h' ▸ i.isLt)
  · intro hr
    exact ⟨h.trans h'.symm, fun i hi _ => hr ⟨i, h ▸ hi⟩⟩

/-- Two lists that are rearranged alike are related place by place as they were before. -/
theorem forall₂_rearrange_iff :
    List.Forall₂ R (rearrange σ l) (rearrange σ l') ↔ List.Forall₂ R l l' := by
  by_cases h : l'.length = l.length
  · rw [rearrange_eq rfl, rearrange_eq h, forall₂_iff_of_length List.length_ofFn List.length_ofFn,
      forall₂_iff_of_length rfl h]
    simp only [List.get_ofFn, Fin.cast_cast, Fin.cast_refl, id]
    exact (σ l.length).forall_congr_right (q := fun i => R (l.get i) (l'.get (i.cast h.symm)))
  · constructor
    · intro hr
      have hlen := hr.length_eq
      simp only [rearrange, List.length_ofFn] at hlen
      exact absurd hlen.symm h
    · intro hr
      exact absurd hr.length_eq.symm h

theorem rearrange_inj : rearrange σ l = rearrange σ l' ↔ l = l' := by
  rw [← List.forall₂_eq_eq_eq, forall₂_rearrange_iff]

theorem flatMap_perm_of_forall₂ {β : Type} {f g : α → List β} (h : List.Forall₂ R l l')
    (hfg : ∀ x y, R x y → (f x).Perm (g y)) : (l.flatMap f).Perm (l'.flatMap g) := by
  induction h with
  | nil => exact .nil
  | cons hxy _ ih => exact (hfg _ _ hxy).append ih

theorem Shuffled.flatMap_perm {β : Type} {f g : α → List β} (h : Shuffled R l l')
    (hfg : ∀ x y, R x y → (f x).Perm (g y)) : (l.flatMap f).Perm (l'.flatMap g) := by
  obtain ⟨m, hr, hp⟩ := h
  exact (flatMap_perm_of_forall₂ hr hfg).trans (hp.flatMap_right g)

end Lists

/-- An order for the fields of each model, and for the tags of each field of it. All declarations of
a model get the same order. -/
structure Arrangement where
  fields : (model : String) → ∀ n, Equiv.Perm (Fin n)
  tags : (model : String) → (position : Nat) → (field : String) → ∀ n, Equiv.Perm (Fin n)

namespace Arrangement

def field (a : Arrangement) (model : String) (position : Nat) (f : Field) : Field :=
  { f with tags := rearrange (a.tags model position f.name) f.tags }

def model (a : Arrangement) (m : Model) : Model :=
  { m with fields := rearrange (a.fields m.name) (m.fields.mapIdx (a.field m.name)) }

variable {a : Arrangement} {m n : Model}

theorem equals_field (a : Arrangement) (model : String) (position : Nat) (f g : Field) :
    (a.field model position f).equals (a.field model position g) = f.equals g := by
  rw [Bool.eq_iff_iff]
  simp only [Field.equals, field, Bool.and_eq_true, beq_iff_eq]
  constructor
  · rintro ⟨⟨⟨⟨⟨hn, ht⟩, hd⟩, ho⟩, hds⟩, hts⟩
    rw [hn, rearrange_inj] at hts
    exact ⟨⟨⟨⟨⟨hn, ht⟩, hd⟩, ho⟩, hds⟩, hts⟩
  · rintro ⟨⟨⟨⟨⟨hn, ht⟩, hd⟩, ho⟩, hds⟩, hts⟩
    refine ⟨⟨⟨⟨⟨hn, ht⟩, hd⟩, ho⟩, hds⟩, ?_⟩
    rw [hn, hts]

theorem equalLists_mapIdx (a : Arrangement) (model : String) (fs gs : List Field) :
    Field.equalLists (fs.mapIdx (a.field model)) (gs.mapIdx (a.field model)) =
      Field.equalLists fs gs := by
  rw [Bool.eq_iff_iff, Field.equalLists_iff_forall₂, Field.equalLists_iff_forall₂]
  simp [List.forall₂_iff_get, equals_field]

/-- Rearranged declarations of a model are equal exactly if the declarations are. -/
theorem equals_model (h : m.name = n.name) : (a.model m).equals (a.model n) = m.equals n := by
  have hfields : Field.equalLists (a.model m).fields (a.model n).fields =
      Field.equalLists m.fields n.fields := by
    rw [← a.equalLists_mapIdx n.name m.fields n.fields, Bool.eq_iff_iff,
      Field.equalLists_iff_forall₂, Field.equalLists_iff_forall₂]
    simp only [model, h, forall₂_rearrange_iff]
  simp only [Model.equals, hfields]
  rfl

theorem flatMap_tags_model (a : Arrangement) (m : Model) :
    ((a.model m).fields.flatMap (·.tags)).Perm (m.fields.flatMap (·.tags)) := by
  have hfields : List.Forall₂ (fun f g => f.tags.Perm g.tags)
      (m.fields.mapIdx (a.field m.name)) m.fields := by
    simp [List.forall₂_iff_get, field, rearrange_perm]
  exact ((rearrange_perm _ _).flatMap_right _).trans
    (flatMap_perm_of_forall₂ hfields fun _ _ h => h)

theorem isBlank_model (a : Arrangement) (m : Model) :
    (Declaration.model (a.model m)).isBlank = (Declaration.model m).isBlank := by
  by_cases h : "" = m.name
  · exact equals_model (m := { name := "" }) h
  · simp [Declaration.isBlank, Model.equals, model, beq_false_of_ne h]

end Arrangement

/-- Up to the arrangement, the microservices differ in the order of their secondary models only. -/
structure Microservice.Reordered (a : Arrangement) (ms ms' : Microservice) : Prop where
  label_eq : ms'.label = ms.label
  implementations_eq : ms'.implementations = ms.implementations
  primaryModel_eq : ms'.primaryModel = a.model ms.primaryModel
  secondaryModels_perm : (ms.secondaryModels.map a.model).Perm ms'.secondaryModels

/-- Up to the arrangement, the apis differ in the order of their microservices and of the secondary
models in these only. -/
structure Api.Reordered (a : Arrangement) (api api' : Api) : Prop where
  label_eq : api'.label = api.label
  package_eq : api'.package = api.package
  microservices_shuffled :
    Shuffled (Microservice.Reordered a) api.microservices api'.microservices

/-- The configurations differ in the order of apis, microservices, secondary models, fields and tags
only, and the declarations of a model are rearranged alike. -/
structure Config.Reordered (c c' : Config) : Prop where
  templateDir_eq : c'.templateDir = c.templateDir
  targets_eq : c'.targets = c.targets
  apis_shuffled : ∃ a, Shuffled (Api.Reordered a) c.apis c'.apis

theorem Config.Reordered.models_perm {c c' : Config} (h : c.Reordered c') :
    ∃ a : Arrangement, (c.models.map a.model).Perm c'.models := by
  obtain ⟨a, ha⟩ := h.apis_shuffled
  refine ⟨a, ?_⟩
  rw [models, models, List.map_flatMap]
  refine ha.flatMap_perm fun api api' hapi => ?_
  rw [List.map_flatMap]
  refine hapi.microservices_shuffled.flatMap_perm fun ms ms' hms => ?_
  rw [Microservice.models, Microservice.models, List.map_cons, hms.primaryModel_eq]
  exact hms.secondaryModels_perm.cons _

namespace Registries

open Declaration

variable {a : Arrangement} {c c' : Config}

theorem fieldTags_perm (h : (c.models.map a.model).Perm c'.models) :
    c.fieldTags.Perm c'.fieldTags := by
  refine .trans ?_ (h.flatMap_right _)
  rw [List.flatMap_map]
  exact (List.Perm.refl c.models).flatMap fun m _ => (a.flatMap_tags_model m).symm

theorem pairwise_agree_iff_of_perm (h : (c.models.map a.model).Perm c'.models) :
    c.declarations.Pairwise Agree ↔ c'.declarations.Pairwise Agree := by
  have hmodels : c'.models.Pairwise (fun m n => m.name = n.name → m.equals n = true) ↔
      c.models.Pairwise (fun m n => m.name = n.name → m.equals n = true) := by
    rw [← h.pairwise_iff fun hmn he => (Model.equals_comm _ _).trans (hmn he.symm),
      List.pairwise_map]
    refine List.Pairwise.iff fun m n => imp_congr_right fun he => ?_
    rw [Arrangement.equals_model (show m.name = n.name from he)]
  have htags : c'.fieldTags.Pairwise (fun s t => s.name = t.name → s = t) ↔
      c.fieldTags.Pairwise (fun s t => s.name = t.name → s = t) :=
    ((fieldTags_perm h).pairwise_iff fun hst he => (hst he.symm).symm).symm
  rw [Config.pairwise_agree_iff, Config.pairwise_agree_iff, hmodels, htags]

theorem exists_declaration_of_perm (h : (c.models.map a.model).Perm c'.models) {d' : Declaration}
    (hd : d' ∈ c'.declarations) :
    ∃ d ∈ c.declarations, d.kind = d'.kind ∧ d.name = d'.name ∧ d.isBlank = d'.isBlank := by
  rw [c'.declarations_perm.mem_iff, List.mem_append, List.mem_map, List.mem_map] at hd
  simp only [c.declarations_perm.mem_iff, List.mem_append, List.mem_map]
  rcases hd with ⟨m', hm', rfl⟩ | ⟨t, ht, rfl⟩
  · obtain ⟨m, hm, rfl⟩ := List.mem_map.mp (h.mem_iff.mpr hm')
    exact ⟨.model m, .inl ⟨m, hm, rfl⟩, rfl, rfl, (a.isBlank_model m).symm⟩
  · exact ⟨.tag t, .inr ⟨t, (fieldTags_perm h).mem_iff.mpr ht, rfl⟩, rfl, rfl, rfl⟩

theorem BlanksAlone.of_perm (hb : BlanksAlone c.declarations)
    (h : (c.models.map a.model).Perm c'.models) : BlanksAlone c'.declarations := by
  intro d' hd e' he hn hblank
  obtain ⟨d, hdc, hdk, hdn, hdb⟩ := exists_declaration_of_perm h hd
  obtain ⟨e, hec, hek, hen, heb⟩ := exists_declaration_of_perm h he
  rw [sameName_iff, ← hdk, ← hdn, ← hek, ← hen] at hn
  rw [← heb]
  exact hb d hdc e hec (sameName_iff.mpr hn) (hdb.trans hblank)

/-- Whether the registries can be built does not depend on the order of declarations, if no
declaration of nothing but the empty name stands beside another of that name. -/
theorem build_isOk_eq_of_reordered (h : c.Reordered c') (hb : BlanksAlone c.declarations) :
    (build c).isOk = (build c').isOk := by
  obtain ⟨a, hperm⟩ := h.models_perm
  rw [Bool.eq_iff_iff, build_isOk_iff hb, build_isOk_iff (hb.of_perm hperm),
    pairwise_agree_iff_of_perm hperm]

section Sample

def backwards : Arrangement where
  fields _ _ := Fin.revPerm
  tags _ _ _ _ := Fin.revPerm

def invoice : Model where
  name := "Invoice"
  fields :=
    [{ name := "id" }, { name := "by", tags := [{ name := "owner" }, { name := "parent" }] }]

def billing (model : Model) (others : List Model) : Api where
  label := "Billing"
  microservices := [{ label := "Invoice", primaryModel := model, secondaryModels := others }]

def shop (model : Model) : Api where
  label := "Shop"
  microservices := [{ label := "Cart", primaryModel := model }]

theorem reordered_billing (model m n : Model) :
    (billing model [m, n]).Reordered backwards
      (billing (backwards.model model) [backwards.model n, backwards.model m]) := by
  have hms : Microservice.Reordered backwards
      { label := "Invoice", primaryModel := model, secondaryModels := [m, n] }
      { label := "Invoice", primaryModel := backwards.model model,
        secondaryModels := [backwards.model n, backwards.model m] } :=
    ⟨rfl, rfl, rfl, .swap _ _ []⟩
  exact ⟨rfl, rfl, _, .cons hms .nil, .refl _⟩

theorem reordered_shop (model : Model) :
    (shop model).Reordered backwards (shop (backwards.model model)) := by
  have hms : Microservice.Reordered backwards { label := "Cart", primaryModel := model }
      { label := "Cart", primaryModel := backwards.model model } :=
    ⟨rfl, rfl, rfl, .nil⟩
  exact ⟨rfl, rfl, _, .cons hms .nil, .refl _⟩

theorem build_isOk_eq_of_reordered_sample :
    let c : Config :=
      { apis := [billing invoice [{ name := "A" }, { name := "B" }], shop invoice] }
    let c' : Config := { apis := [shop (backwards.model invoice),
      billing (backwards.model invoice) [{ name := "B" }, { name := "A" }]] }
    c.Reordered c' ∧ BlanksAlone c.declarations ∧ (build c).isOk = (build c').isOk := by
  intro c c'
  have hbilling := reordered_billing invoice { name := "A" } { name := "B" }
  have h : c.Reordered c' :=
    ⟨rfl, rfl, backwards, _, .cons hbilling (.cons (reordered_shop invoice) .nil), .swap _ _ []⟩
  have hb : BlanksAlone c.declarations := by
    unfold BlanksAlone
    decide
  exact ⟨h, hb, build_isOk_eq_of_reordered h hb⟩

/-- A model that is nothing but the empty name is not registered, so another model of that name
conflicts with it only if it comes first. -/
theorem build_depends_on_order_of_blanks :
    ¬ ∀ c c' : Config, c.Reordered c' → (build c).isOk = (build c').isOk := by
  intro hall
  have hswap := reordered_billing invoice { name := "" } { name := "", description := "d" }
  have h := hall { apis := [billing invoice [{ name := "" }, { name := "", description := "d" }]] }
    { apis :=
        [billing (backwards.model invoice) [{ name := "", description := "d" }, { name := "" }]] }
    ⟨rfl, rfl, backwards, _, .cons hswap .nil, .refl _⟩
  exact absurd h (by decide)

end Sample

end Registries

end Stencil
