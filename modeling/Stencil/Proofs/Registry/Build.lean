import Stencil.Proofs.Registry.Scan

/-! # Built registries

If no name is empty, building the registries succeeds exactly if declarations of one name are equal;
then the first declaration of each name is registered, and otherwise the first one that differs from
an earlier one is reported.
-/

namespace Stencil

namespace Declaration

def model? : Declaration → Option Model
  | model m => some m
  | tag _ => none

def tag? : Declaration → Option Tag
  | model _ => none
  | tag t => some t

variable {ds : List Declaration} {m n : Model} {s t : Tag}

theorem sameName_model_model : (model m).sameName (model n) = (m.name == n.name) := by
  simp [sameName, kind, name]

theorem sameName_tag_tag : (tag s).sameName (tag t) = (s.name == t.name) := by
  simp [sameName, kind, name]

theorem sameName_model_tag : (model m).sameName (tag t) = false := by
  simp [sameName, kind]

theorem sameName_tag_model : (tag t).sameName (model m) = false := by
  simp [sameName, kind]

theorem agree_model_iff :
    (model m).Agree (model n) ↔ (m.name = n.name → m.equals n = true) := by
  rw [Agree, sameName_model_model, beq_iff_eq]
  rfl

theorem agree_tag_iff : (tag s).Agree (tag t) ↔ (s.name = t.name → s = t) := by
  rw [Agree, sameName_tag_tag, beq_iff_eq, equals, beq_iff_eq]

theorem agree_model_tag (m : Model) (t : Tag) : (model m).Agree (tag t) := by
  simp [Agree, sameName_model_tag]

theorem find?_sameName_model : ds.find? (·.sameName (model m)) =
    ((ds.filterMap model?).find? (·.name == m.name)).map model := by
  induction ds with
  | nil => rfl
  | cons d ds ih =>
    cases d with
    | model n =>
      rw [List.filterMap_cons_some (rfl : model? (model n) = some n), List.find?_cons,
        List.find?_cons, sameName_model_model, ih]
      cases n.name == m.name <;> rfl
    | tag t => rw [List.find?_cons, List.filterMap_cons_none rfl, sameName_tag_model, ih]

theorem find?_sameName_tag : ds.find? (·.sameName (tag t)) =
    ((ds.filterMap tag?).find? (·.name == t.name)).map tag := by
  induction ds with
  | nil => rfl
  | cons d ds ih =>
    cases d with
    | model m => rw [List.find?_cons, List.filterMap_cons_none rfl, sameName_model_tag, ih]
    | tag s =>
      rw [List.filterMap_cons_some (rfl : tag? (tag s) = some s), List.find?_cons,
        List.find?_cons, sameName_tag_tag, ih]
      cases s.name == t.name <;> rfl

end Declaration

namespace Config

open Declaration

variable {c : Config}

theorem filterMap_model?_declarations (c : Config) :
    c.declarations.filterMap model? = c.models := by
  have hm : ∀ m : Model, m.declarations.filterMap model? = [m] := by
    intro m
    rw [Model.declarations, List.filterMap_cons_some (rfl : model? (.model m) = some m),
      List.filterMap_map]
    exact congrArg (m :: ·) (List.filterMap_eq_nil_iff.mpr fun _ _ => rfl)
  simp [declarations, List.filterMap_flatMap, hm]

theorem filterMap_tag?_declarations (c : Config) : c.declarations.filterMap tag? = c.fieldTags := by
  have hm : ∀ m : Model, m.declarations.filterMap tag? = m.fields.flatMap (·.tags) := by
    intro m
    rw [Model.declarations, List.filterMap_cons_none rfl, List.filterMap_map]
    exact List.filterMap_some
  simp [declarations, fieldTags, List.filterMap_flatMap, hm]

theorem pairwise_agree_iff : c.declarations.Pairwise Agree ↔
    c.models.Pairwise (fun m n => m.name = n.name → m.equals n = true) ∧
      c.fieldTags.Pairwise fun s t => s.name = t.name → s = t := by
  rw [c.declarations_perm.pairwise_iff Agree.symm, List.pairwise_append, List.pairwise_map,
    List.pairwise_map]
  simp only [agree_model_iff, agree_tag_iff]
  constructor
  · rintro ⟨hm, ht, -⟩
    exact ⟨hm, ht⟩
  · rintro ⟨hm, ht⟩
    refine ⟨hm, ht, ?_⟩
    simp [agree_model_tag]

theorem isBlank_of_mem_declarations {d : Declaration} (hm : ∀ m ∈ c.models, m.name ≠ "")
    (ht : ∀ t ∈ c.fieldTags, t.name ≠ "") (hd : d ∈ c.declarations) : d.isBlank = false := by
  rw [Bool.eq_false_iff]
  intro hb
  have hn := name_eq_of_isBlank hb
  rw [c.declarations_perm.mem_iff] at hd
  simp only [List.mem_append, List.mem_map] at hd
  rcases hd with ⟨m, hmem, rfl⟩ | ⟨t, hmem, rfl⟩
  · exact hm m hmem hn
  · exact ht t hmem hn

end Config

namespace Registries

open Declaration

/-- Exactly the declared names are registered, each of them once and with its first declaration. -/
structure KeepsFirsts (r : Registries) (c : Config) : Prop where
  nodup_models : (r.models.models.map (·.name)).Nodup
  nodup_tags : (r.tags.tags.map (·.name)).Nodup
  mem_models_iff : ∀ name, name ∈ r.models.models.map (·.name) ↔ name ∈ c.models.map (·.name)
  mem_tags_iff : ∀ name, name ∈ r.tags.tags.map (·.name) ↔ name ∈ c.fieldTags.map (·.name)
  lookup_model : ∀ earlier m later, c.models = earlier ++ m :: later →
    (∀ n ∈ earlier, n.name ≠ m.name) → r.models.lookup m.name = m
  lookup_tag : ∀ earlier t later, c.fieldTags = earlier ++ t :: later →
    (∀ s ∈ earlier, s.name ≠ t.name) → r.tags.lookup t.name = t

variable {r : Registries} {c : Config}

theorem find?_first {α : Type} {name : α → String} {l earlier later : List α} {a : α}
    (hl : l = earlier ++ a :: later) (he : ∀ b ∈ earlier, name b ≠ name a) :
    l.find? (name · == name a) = some a := by
  refine List.find?_eq_some_iff_append.mpr ⟨by simp, earlier, later, hl, fun b hb => ?_⟩
  simpa using he b hb

theorem mem_map_iff_find? {α : Type} {name : α → String} {l : List α} {n : String} :
    n ∈ l.map name ↔ (l.find? (name · == n)).isSome = true := by
  simp

theorem Holds.keepsFirsts (h : Holds r c.declarations)
    (hb : ∀ d ∈ c.declarations, d.isBlank = false) : KeepsFirsts r c := by
  have hregistered : ∀ d, r.registered? d = c.declarations.find? (·.sameName d) := by
    intro d
    rw [h.registered?_eq, List.filter_eq_self.mpr fun e he => by simp [hb e he]]
  have hmodel : ∀ name, r.models.find? name = c.models.find? (·.name == name) := by
    intro name
    have hfind := hregistered (.model { name })
    rw [find?_sameName_model, c.filterMap_model?_declarations] at hfind
    exact Option.map_injective (fun _ _ => model.inj) hfind
  have htag : ∀ name, r.tags.find? name = c.fieldTags.find? (·.name == name) := by
    intro name
    have hfind := hregistered (.tag { name })
    rw [find?_sameName_tag, c.filterMap_tag?_declarations] at hfind
    exact Option.map_injective (fun _ _ => tag.inj) hfind
  refine ⟨h.nodup_models, h.nodup_tags, fun name => ?_, fun name => ?_, ?_, ?_⟩
  · rw [mem_map_iff_find?, mem_map_iff_find?, ← hmodel, ModelRegistry.find?]
  · rw [mem_map_iff_find?, mem_map_iff_find?, ← htag, TagRegistry.find?]
  · intro earlier m later hc he
    rw [ModelRegistry.lookup, hmodel, find?_first hc he, Option.getD_some]
  · intro earlier t later hc he
    rw [TagRegistry.lookup, htag, find?_first hc he, Option.getD_some]

/-- Building the registries succeeds exactly if declarations of one name are equal. It registers the
first declaration of each name, or reports the first declaration that differs from an earlier
one. -/
theorem build_registers_or_reports_first (hm : ∀ m ∈ c.models, m.name ≠ "")
    (ht : ∀ t ∈ c.fieldTags, t.name ≠ "") :
    ((build c).isOk = true ↔
      c.models.Pairwise (fun m n => m.name = n.name → m.equals n = true) ∧
        c.fieldTags.Pairwise fun s t => s.name = t.name → s = t) ∧
    (∀ r, build c = .ok r → KeepsFirsts r c) ∧
    ∀ e, build c = .error e →
      ∃ d, FirstConflict c.declarations d ∧ e = .duplicate d.kind d.name := by
  have hblank : ∀ d ∈ c.declarations, d.isBlank = false :=
    fun d hd => Config.isBlank_of_mem_declarations hm ht hd
  have hb : BlanksAlone c.declarations := by
    intro d hd _ _ _ h
    simp [hblank d hd] at h
  refine ⟨?_, ?_, ?_⟩
  · rw [build_isOk_iff hb, Config.pairwise_agree_iff]
  · intro r hr
    have hp := (build_isOk_iff hb).mp (by rw [hr]; rfl)
    obtain ⟨r', hr', hholds⟩ := holds_nil.foldlM_of_agree c.declarations hp
    rw [build_eq_foldlM, hr'] at hr
    obtain rfl := Except.ok.inj hr
    exact Holds.keepsFirsts hholds hblank
  · intro e he
    have hp : ¬ c.declarations.Pairwise Agree := by
      rw [← build_isOk_iff hb, he]
      exact Bool.false_ne_true
    obtain ⟨d, hd⟩ := exists_firstConflict hp
    have herror := foldlM_of_firstConflict hb hd
    rw [← build_eq_foldlM, he] at herror
    exact ⟨d, hd, Except.error.inj herror⟩

def notANumber : Directives :=
  [("weight", .float ⟨0x7ff8000000000000⟩)]

/-- A model that is declared twice in the same way and does not equal itself. -/
def sampleConfig : Config where
  apis := [{
    label := "Billing"
    microservices := [
      { label := "a", primaryModel := { name := "Invoice", directives := notANumber } },
      { label := "b", primaryModel := { name := "Invoice", directives := notANumber } }] }]

theorem build_registers_or_reports_first_sample :
    (∀ m ∈ sampleConfig.models, m.name ≠ "") ∧ (∀ t ∈ sampleConfig.fieldTags, t.name ≠ "") ∧
      ∃ d, FirstConflict sampleConfig.declarations d ∧
        ConfigError.duplicate "Model" "Invoice" = .duplicate d.kind d.name := by
  have hm : ∀ m ∈ sampleConfig.models, m.name ≠ "" := by decide
  have ht : ∀ t ∈ sampleConfig.fieldTags, t.name ≠ "" := by decide
  have he : build sampleConfig = .error (.duplicate "Model" "Invoice") := by rfl
  exact ⟨hm, ht, (build_registers_or_reports_first hm ht).2.2 _ he⟩

end Registries

end Stencil
