import Mathlib.Data.List.Basic
import Stencil.Proofs.FieldType.Base
import Stencil.Proofs.Registry.Build

/-! # Validated configurations

Once the registries are built, a name is looked up as a model exactly if it is not empty and some
model of the configuration has it. So validation accepts a configuration exactly if the type of each
field refers to something that is declared, and else reports the first field whose type does not.
-/

namespace Stencil

section Checks

variable {α β ε : Type} {f : α → Except ε Unit} {l : List α} {e : ε}

theorem forM_flatMap (g : β → List α) (l : List β) :
    forM (l.flatMap g) f = forM l fun b => forM (g b) f := by
  induction l with
  | nil => rfl
  | cons b l ih => rw [List.flatMap_cons, List.forM_append, List.forM_cons, ih]

theorem forM_cons_ok {a : α} (h : f a = .ok ()) : forM (a :: l) f = forM l f := by
  rw [List.forM_cons, h]
  rfl

theorem forM_cons_error {a : α} (h : f a = .error e) : forM (a :: l) f = .error e := by
  rw [List.forM_cons, h]
  rfl

theorem forM_eq_ok_iff : forM l f = .ok () ↔ ∀ a ∈ l, f a = .ok () := by
  induction l with
  | nil => exact iff_of_true rfl (List.forall_mem_nil _)
  | cons a l ih =>
    rw [List.forall_mem_cons]
    cases ha : f a with
    | error e => simp [forM_cons_error ha]
    | ok u => rw [forM_cons_ok ha, ih, and_iff_right rfl]

theorem forM_eq_error_iff : forM l f = .error e ↔ ∃ before a after, l = before ++ a :: after ∧
    (∀ b ∈ before, f b = .ok ()) ∧ f a = .error e := by
  constructor
  · intro h
    induction l with
    | nil => cases h
    | cons a l ih =>
      cases ha : f a with
      | error e' =>
        rw [forM_cons_error ha] at h
        exact ⟨[], a, l, rfl, List.forall_mem_nil _, ha.trans h⟩
      | ok u =>
        rw [forM_cons_ok ha] at h
        obtain ⟨before, b, after, rfl, hbefore, hb⟩ := ih h
        exact ⟨a :: before, b, after, rfl, List.forall_mem_cons.mpr ⟨ha, hbefore⟩, hb⟩
  · rintro ⟨before, a, after, rfl, hbefore, ha⟩
    rw [List.forM_append, forM_eq_ok_iff.mpr hbefore]
    exact forM_cons_error ha

end Checks

/-- A field with the model that owns it, and where that model stands. -/
structure OwnedField where
  api : Api
  microservice : Microservice
  owner : Model
  field : Field

def OwnedField.unresolved (x : OwnedField) : ConfigError :=
  .unresolvedType x.owner.name x.field.name x.microservice.label x.api.label x.field.type

namespace Config

/-- The fields of all models in the order of their declarations. -/
def fields (c : Config) : List OwnedField :=
  c.apis.flatMap fun api => api.microservices.flatMap fun ms => ms.models.flatMap fun m =>
    m.fields.map fun f => ⟨api, ms, m, f⟩

/-- A text names something that a field of a model may be: a primitive type, an enum of that model,
or any model of the configuration, but none with the empty name. -/
inductive Names (c : Config) (owner : Model) : List Char → Prop where
  | primitive (p : Primitive) : Names c owner p.keyword
  | enum {e : EnumDef} : e ∈ owner.enums → Names c owner e.name.toList
  | model {m : Model} : m ∈ c.models → m.name ≠ "" → Names c owner m.name.toList

/-- Without its brackets, the type of a field names something. -/
def Resolves (c : Config) (x : OwnedField) : Prop :=
  ∃ n base, FieldType.HasBase x.field.type.toList n base ∧ c.Names x.owner base

variable {c : Config} {r : Registries} {owner : Model} {base : List Char} {x : OwnedField}

theorem validate_eq_forM (c : Config) (models : ModelRegistry) : c.validate models =
    forM c.fields fun x =>
      if fieldResolves models x.owner x.field then .ok () else .error x.unresolved := by
  unfold validate fields ownedFields
  simp only [List.forM_eq_forM, forM_flatMap, List.forM_map, OwnedField.unresolved]

theorem model_mem_declarations_iff {m : Model} : .model m ∈ c.declarations ↔ m ∈ c.models := by
  simp [c.declarations_perm.mem_iff]

theorem isSentinel_lookup_eq_false_iff (h : Registries.build c = .ok r) {name : String} :
    (r.models.lookup name).isSentinel = false ↔ name ≠ "" ∧ ∃ m ∈ c.models, m.name = name := by
  have hholds := Registries.holds_of_build h
  rw [ModelRegistry.lookup, Model.isSentinel, beq_eq_false_iff_ne]
  constructor
  · intro hn
    cases hf : r.models.find? name with
    | none => simp [hf] at hn
    | some m =>
      obtain rfl := ModelRegistry.name_of_find? hf
      have hr : r.registered? (.model m) = some (.model m) := by simp [Registries.registered?, hf]
      refine ⟨by simpa [hf] using hn, m, ?_, rfl⟩
      exact model_mem_declarations_iff.mp (hholds.mem_of_registered? hr)
  · rintro ⟨hne, m, hm, rfl⟩
    cases hf : r.models.find? m.name with
    | none =>
      -- Only a declaration of nothing but the empty name is not registered.
      have hr : r.registered? (.model m) = none := by simp [Registries.registered?, hf]
      have hb := hholds.isBlank_of_registered? hr (model_mem_declarations_iff.mpr hm)
        (Declaration.sameName_iff.mpr ⟨rfl, rfl⟩)
      exact absurd (Declaration.name_eq_of_isBlank hb) hne
    | some n => simpa [ModelRegistry.name_of_find? hf] using hne

theorem names_iff (h : Registries.build c = .ok r) : c.Names owner base ↔
    ((Primitive.ofKeyword? base).isSome || (owner.hasEnum (String.ofList base) ||
      !(r.models.lookup (String.ofList base)).isSentinel)) = true := by
  simp only [Bool.or_eq_true, Primitive.isSome_ofKeyword?_iff, Bool.not_eq_eq_eq_not, Bool.not_true,
    isSentinel_lookup_eq_false_iff h, Model.hasEnum, List.any_eq_true, beq_iff_eq]
  constructor
  · intro hn
    cases hn with
    | primitive p => exact .inl ⟨p, rfl⟩
    | enum he => exact .inr (.inl ⟨_, he, by simp⟩)
    | model hm hne => exact .inr (.inr ⟨by simpa using hne, _, hm, by simp⟩)
  · rintro (⟨p, rfl⟩ | ⟨e, he, hname⟩ | ⟨hne, m, hm, hname⟩)
    · exact .primitive p
    · have hbase : base = e.name.toList := by simp [hname]
      exact hbase ▸ .enum he
    · have hbase : base = m.name.toList := by simp [hname]
      exact hbase ▸ .model hm (hname ▸ hne)

theorem fieldResolves_iff (h : Registries.build c = .ok r) :
    fieldResolves r.models x.owner x.field = true ↔ c.Resolves x := by
  unfold fieldResolves
  constructor
  · intro hx
    obtain ⟨n, base, hb⟩ := FieldType.exists_hasBase x.field.type.toList
    rw [FieldType.resolves_eq _ hb] at hx
    exact ⟨n, base, hb, (names_iff h).mpr hx⟩
  · rintro ⟨n, base, hb, hn⟩
    rw [FieldType.resolves_eq _ hb]
    exact (names_iff h).mp hn

/-- Validation against the registries that have been built succeeds exactly if the types of all
fields refer to something, and else reports the first field whose type does not. -/
theorem validate_reports_first_unresolved (h : Registries.build c = .ok r) :
    (c.validate r.models = .ok () ↔ ∀ x ∈ c.fields, c.Resolves x) ∧
    ∀ e, c.validate r.models = .error e ↔ ∃ before x after, c.fields = before ++ x :: after ∧
      (∀ y ∈ before, c.Resolves y) ∧ ¬ c.Resolves x ∧ e = x.unresolved := by
  have hok (x : OwnedField) : (if fieldResolves r.models x.owner x.field then Except.ok ()
      else Except.error x.unresolved) = .ok () ↔ c.Resolves x := by
    rw [← fieldResolves_iff h]
    cases fieldResolves r.models x.owner x.field <;> simp
  have herror (x : OwnedField) (e : ConfigError) :
      (if fieldResolves r.models x.owner x.field then Except.ok ()
        else Except.error x.unresolved) = .error e ↔ ¬ c.Resolves x ∧ e = x.unresolved := by
    rw [← fieldResolves_iff h]
    cases fieldResolves r.models x.owner x.field <;> simp [eq_comm]
  rw [validate_eq_forM]
  constructor
  · rw [forM_eq_ok_iff]
    simp only [hok]
  · intro e
    rw [forM_eq_error_iff]
    simp only [hok, herror]

def invoice : Model where
  name := "Invoice"
  fields := [{ name := "status", type := "Status" }, { name := "lines", type := "[[LineItem]]" }]
  enums := [{ name := "Status" }]

def lineItem : Model where
  name := "LineItem"
  fields := [{ name := "id", type := "ID" }]

def payment : Model where
  name := "Payment"
  fields := [{ name := "status", type := "Status" }]

/-- The field with line items stands before their model, and the type of the second `status` is
declared in a model that does not own it. -/
def statusOfPayment : Config where
  apis := [{
    label := "Billing"
    microservices := [
      { label := "invoices", primaryModel := invoice, secondaryModels := [lineItem] },
      { label := "payments", primaryModel := payment }] }]

theorem validate_statusOfPayment : ∃ r, Registries.build statusOfPayment = .ok r ∧
    ∃ before x after, statusOfPayment.fields = before ++ x :: after ∧
      (∀ y ∈ before, statusOfPayment.Resolves y) ∧ ¬ statusOfPayment.Resolves x ∧
      ConfigError.unresolvedType "Payment" "status" "payments" "Billing" "Status" =
        x.unresolved := by
  have hb : Registries.build statusOfPayment =
      .ok ⟨⟨[]⟩, ⟨[invoice, lineItem, payment]⟩⟩ := by cbv
  have he : statusOfPayment.validate ⟨[invoice, lineItem, payment]⟩ =
      .error (.unresolvedType "Payment" "status" "payments" "Billing" "Status") := by
    decide +kernel
  exact ⟨_, hb, ((validate_reports_first_unresolved hb).2 _).mp he⟩

end Config

end Stencil
