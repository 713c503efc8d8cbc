import Stencil.Context
import Stencil.Helper
import Stencil.Macro.Shorthand

/-! # Helpers on projected values

Templates see fields and models as JSON objects. A helper that reads a directive, a tag or a type
there answers what the field or the model itself says.
-/

namespace Stencil

section Fields

variable {α : Type} {k key : String} {v : α}

theorem lookup_putField (k : String) (v : α) (fields : List (String × α)) :
    (putField k v fields).lookup key = if key = k then some v else fields.lookup key := by
  induction fields with
  | nil =>
    by_cases h : key = k
    · simp [putField, h]
    · simp [putField, List.lookup_cons, beq_false_of_ne h, h]
  | cons field fields ih =>
    obtain ⟨l, w⟩ := field
    unfold putField
    split
    · next hl =>
      subst hl
      by_cases h : key = k
      · simp [h]
      · simp [List.lookup_cons, beq_false_of_ne h, h]
    · next hl =>
      split
      · by_cases h : key = k
        · simp [h]
        · simp [List.lookup_cons, beq_false_of_ne h, h]
      · rw [List.lookup_cons, List.lookup_cons, ih]
        by_cases h : key = l
        · simp [h, Ne.symm hl]
        · simp [beq_false_of_ne h]

/-- Of several values for a key the last one counts. -/
theorem lookup_sortFields (fields : List (String × α)) :
    (sortFields fields).lookup key = fields.reverse.lookup key := by
  rw [← List.reverse_reverse fields]
  generalize fields.reverse = fields
  induction fields with
  | nil => rfl
  | cons field fields ih =>
    obtain ⟨k, v⟩ := field
    have hput : sortFields ((k, v) :: fields).reverse =
        putField k v (sortFields fields.reverse) := by
      simp [sortFields]
    rw [hput, lookup_putField, ih, List.reverse_reverse, List.reverse_reverse, List.lookup_cons]
    by_cases h : key = k
    · simp [h]
    · simp [beq_false_of_ne h, h]

theorem Json.field?_object (fields : List (String × Json)) :
    (Json.object fields).field? key = fields.reverse.lookup key :=
  lookup_sortFields fields

end Fields

namespace Context

variable {f : Field} {m : Model} {t : Tag}

@[simp]
theorem field?_name_ofTag : (ofTag t).field? "Name" = some (.str t.name) :=
  Json.field?_object _

@[simp]
theorem field?_name_ofField : (ofField f).field? "Name" = some (.str f.name) :=
  Json.field?_object _

@[simp]
theorem field?_type_ofField : (ofField f).field? "Type" = some (.str f.type) :=
  Json.field?_object _

@[simp]
theorem field?_directives_ofField :
    (ofField f).field? "Directives" = some f.directives.toJson :=
  Json.field?_object _

@[simp]
theorem field?_tags_ofField : (ofField f).field? "Tags" = some (.arr (f.tags.map ofTag)) :=
  Json.field?_object _

@[simp]
theorem field?_directives_ofModel :
    (ofModel m).field? "Directives" = some m.directives.toJson :=
  Json.field?_object _

@[simp]
theorem field?_fields_ofModel : (ofModel m).field? "Fields" = some (.arr (m.fields.map ofField)) :=
  Json.field?_object _

end Context

namespace Directive

theorem itemsToJson_eq_map (items : List Directive) : itemsToJson items = items.map toJson := by
  induction items with
  | nil => rfl
  | cons d ds ih => rw [itemsToJson, ih, List.map_cons]

theorem lookup_fieldsToJson (fields : List (String × Directive)) (name : String) :
    (fieldsToJson fields).lookup name = (fields.lookup name).map toJson := by
  induction fields with
  | nil => rfl
  | cons field fields ih =>
    obtain ⟨k, d⟩ := field
    rw [fieldsToJson, List.lookup_cons, List.lookup_cons, ih]
    split <;> rfl

end Directive

namespace Helper

variable {owner : Json} {ds : Directives} {name : String}

def Answers (name : String) (args : List Json) (v : Json) : Prop :=
  ∃ h ws, find? name = some h ∧ h.call args = .ok (v, ws)

section Directives

theorem directive_of_field? (h : owner.field? "Directives" = some ds.toJson) :
    (owner.field? "Directives").bind (·.field? name) = (ds.lookup name).map Directive.toJson := by
  rw [h]
  exact Directive.lookup_fieldsToJson ds name

/-- Values of other kinds count as absent on both sides, and so do numbers that are null in JSON. -/
theorem fst_directiveText? (name : String) (h : owner.field? "Directives" = some ds.toJson) :
    (directiveText? owner name).1 = (ds.text? name).1 := by
  unfold directiveText? Directives.text?
  rw [directive_of_field? h]
  rcases ds.lookup name with _ | d
  · rfl
  · cases d with
    | float x =>
      rcases hx : x.isFinite with _ | _ <;> simp [Directive.toJson, hx]
    | bool | integer | text | list | map => rfl

theorem call_ofDirective {fields : List (String × Json)} (helper param name default : String)
    (h : (Json.obj fields).field? "Directives" = some ds.toJson) :
    ∃ ws, (ofDirective helper param).call [.obj fields, .str name, .str default] =
      .ok (.str ((ds.text? name).1.getD default), ws) := by
  have hcall : (ofDirective helper param).call [.obj fields, .str name, .str default] =
      .ok (.str ((directiveText? (.obj fields) name).1.getD default),
        (directiveText? (.obj fields) name).2) := rfl
  exact ⟨_, hcall.trans (by rw [fst_directiveText? name h])⟩

theorem call_modelDirectiveList {fields : List (String × Json)} (name : String)
    (h : (Json.obj fields).field? "Directives" = some ds.toJson) :
    ∃ ws, modelDirectiveList.call [.obj fields, .str name] =
      .ok (.arr ((ds.items name).1.map Directive.toJson), ws) := by
  unfold modelDirectiveList Directives.items
  change ∃ ws, ((pure (.obj fields) : Except HelperError Json) >>= fun object =>
    (pure name : Except HelperError String) >>= fun name => _) = _
  rw [pure_bind, pure_bind, directive_of_field? h]
  rcases ds.lookup name with _ | d
  · exact ⟨[], rfl⟩
  · cases d with
    | float x =>
      rcases hx : x.isFinite with _ | _ <;>
        simp only [Option.map_some, Directive.toJson, hx, Bool.false_eq_true, if_true, if_false] <;>
        exact ⟨_, rfl⟩
    | list items =>
      simp only [Option.map_some, Directive.toJson, Directive.itemsToJson_eq_map]
      exact ⟨[], rfl⟩
    | bool | integer | text | map => exact ⟨_, rfl⟩

theorem call_ofMaskedField {fields : List (String × Json)} {text : String}
    (helper mask key : String) (spell : List Char → List Char)
    (h : (Json.obj fields).field? "Directives" = some ds.toJson)
    (hkey : (Json.obj fields).field? key = some (.str text)) :
    ∃ ws, (ofMaskedField helper mask key spell).call [.obj fields] =
      .ok (.str ((ds.text? mask).1.getD (String.ofList (spell text.toList))), ws) := by
  have hmask := fst_directiveText? mask h
  unfold ofMaskedField
  change ∃ ws, ((pure (.obj fields) : Except HelperError Json) >>= fun object => _) = _
  rw [pure_bind, hkey, ← hmask]
  rcases directiveText? (.obj fields) mask with ⟨_ | masked, ws⟩ <;> exact ⟨ws, rfl⟩

end Directives

section Tags

theorem carriesTag_ofField (f : Field) (tag : String) :
    carriesTag (Context.ofField f) tag = f.hasTag tag := by
  simp [carriesTag, Field.hasTag, Json.items?, Json.str?, List.any_map, Function.comp_def]

theorem find?_carriesTag (m : Model) (tag : String) :
    (m.fields.map Context.ofField).find? (carriesTag · tag) =
      (m.taggedField? tag).map Context.ofField := by
  have hcarries : (carriesTag · tag) ∘ Context.ofField = (·.hasTag tag) := by
    funext f
    rw [Function.comp_apply, carriesTag_ofField]
  rw [List.find?_map, hcarries]
  rfl

theorem call_fieldHasTag (f : Field) (tag : String) :
    fieldHasTag.call [Context.ofField f, .str tag] = .ok (.bool (f.hasTag tag), []) := by
  have hcall : fieldHasTag.call [Context.ofField f, .str tag] =
      .ok (.bool (carriesTag (Context.ofField f) tag), []) := rfl
  rw [hcall, carriesTag_ofField]

theorem call_modelTaggedFieldName (m : Model) (tag default : String) :
    modelTaggedFieldName.call [Context.ofModel m, .str tag, .str default] =
      .ok (.str (((m.taggedField? tag).map (·.name)).getD default), []) := by
  have hcall : modelTaggedFieldName.call [Context.ofModel m, .str tag, .str default] =
      .ok (.str (((((Context.ofModel m).field? "Fields").bind Json.items?).bind fun fields =>
        (fields.find? (carriesTag · tag)).bind fun field =>
          (field.field? "Name").bind Json.str?).getD default), []) := rfl
  rw [hcall, Context.field?_fields_ofModel]
  simp only [Option.bind_some, Json.items?, find?_carriesTag]
  rcases m.taggedField? tag with _ | f <;> simp [Json.str?]

end Tags

/-- The helpers that read directives, tags and types answer for the JSON of a field or a model what
the field or the model says. A tag names the same field in a helper and in a shorthand. -/
theorem answers_eq_accessors (f : Field) (m : Model) (n d : String) :
    Answers "field_directive" [Context.ofField f, .str n, .str d]
      (.str ((f.directives.text? n).1.getD d)) ∧
    Answers "model_directive" [Context.ofModel m, .str n, .str d]
      (.str ((m.directives.text? n).1.getD d)) ∧
    Answers "model_directive_list" [Context.ofModel m, .str n]
      (.arr ((m.directives.items n).1.map Directive.toJson)) ∧
    Answers "field_has_tag" [Context.ofField f, .str n] (.bool (f.hasTag n)) ∧
    Answers "model_tagged_field_name" [Context.ofModel m, .str n, .str d]
      (.str (((m.taggedField? n).map (·.name)).getD d)) ∧
    Macro.taggedFieldName? (some m) n.toList = (m.taggedField? n).map (·.name.toList) ∧
    Answers "graphql_type_for_field" [Context.ofField f]
      (.str ((f.directives.text? graphqlTypeMask).1.getD
        (String.ofList (FieldType.graphql f.type.toList)))) := by
  and_intros
  · obtain ⟨ws, hcall⟩ := call_ofDirective "field_directive" "field" n d
      (Context.field?_directives_ofField (f := f))
    exact ⟨_, ws, rfl, hcall⟩
  · obtain ⟨ws, hcall⟩ := call_ofDirective "model_directive" "model" n d
      (Context.field?_directives_ofModel (m := m))
    exact ⟨_, ws, rfl, hcall⟩
  · obtain ⟨ws, hcall⟩ := call_modelDirectiveList n (Context.field?_directives_ofModel (m := m))
    exact ⟨_, ws, rfl, hcall⟩
  · exact ⟨_, _, rfl, call_fieldHasTag f n⟩
  · exact ⟨_, _, rfl, call_modelTaggedFieldName m n d⟩
  · simp [Macro.taggedFieldName?]
  · obtain ⟨ws, hcall⟩ := call_ofMaskedField "graphql_type_for_field" graphqlTypeMask "Type"
      FieldType.graphql (Context.field?_directives_ofField (f := f)) Context.field?_type_ofField
    exact ⟨_, ws, rfl, hcall⟩

end Helper

end Stencil
