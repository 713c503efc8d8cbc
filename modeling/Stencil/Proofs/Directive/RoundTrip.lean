import Stencil.Directive

/-! # Values read back from their JSON

Reading takes a JSON value for the first kind of value that it fits. The JSON of a value fits the
value's own kind first, and only a number that is not finite leaves nothing to read.
-/

namespace Stencil.Directive

/-- The number is the value or stands in it, at any depth. -/
inductive Holds (x : Double) : Directive → Prop where
  | float : Holds x (.float x)
  | item {d : Directive} {items : List Directive} : d ∈ items → Holds x d → Holds x (.list items)
  | field {k : String} {d : Directive} {fields : List (String × Directive)} :
      (k, d) ∈ fields → Holds x d → Holds x (.map fields)

variable {x : Double} {k : String} {d : Directive} {ds : List Directive}
  {fs : List (String × Directive)}

section Kinds

/-- The kinds of values. -/
inductive Kind where
  | bool
  | integer
  | float
  | text
  | list
  | map

def fieldOfJson? (f : String × Json) : Option (String × Directive) :=
  (ofJson? f.2).map (f.1, ·)

/-- Takes a JSON value for one of a kind. A whole number can be taken for a floating point number
too. -/
def Kind.read? : Kind → Json → Option Directive
  | bool, .bool b => some (.bool b)
  | integer, .int n =>
    if Json.minInt ≤ n ∧ n ≤ Json.maxInt then some (.integer (Int64.ofInt n)) else none
  | float, .int n => some (.float (.ofInt n))
  | float, .float x => some (.float x)
  | text, .str s => some (.text s)
  | list, .arr items => (items.mapM ofJson?).map .list
  | map, .obj fields => (fields.mapM fieldOfJson?).map .map
  | _, _ => none

def Kind.order : List Kind :=
  [bool, integer, float, text, list, map]

theorem itemsOfJson?_eq_mapM (vs : List Json) : itemsOfJson? vs = vs.mapM ofJson? := by
  induction vs with
  | nil => rfl
  | cons v vs ih =>
    rw [itemsOfJson?, ih, List.mapM_cons]
    rcases ofJson? v with _ | d
    · rfl
    · rcases vs.mapM ofJson? with _ | ds <;> rfl

theorem fieldsOfJson?_eq_mapM (vs : List (String × Json)) :
    fieldsOfJson? vs = vs.mapM fieldOfJson? := by
  induction vs with
  | nil => rfl
  | cons v vs ih =>
    obtain ⟨k, v⟩ := v
    rw [fieldsOfJson?, ih, List.mapM_cons, fieldOfJson?]
    rcases ofJson? v with _ | d
    · rfl
    · rcases vs.mapM fieldOfJson? with _ | ds <;> rfl

/-- A value is read as the first kind that it fits. -/
theorem ofJson?_eq_findSome? (v : Json) : ofJson? v = Kind.order.findSome? (·.read? v) := by
  cases v with
  | int n =>
    simp only [ofJson?, ofInt, Kind.order, List.findSome?_cons, Kind.read?]
    split <;> rfl
  | arr items =>
    simp only [ofJson?, Kind.order, List.findSome?_cons, Kind.read?, itemsOfJson?_eq_mapM]
    rcases items.mapM ofJson? with _ | ds <;> rfl
  | obj fields =>
    simp only [ofJson?, Kind.order, List.findSome?_cons, Kind.read?, fieldsOfJson?_eq_mapM]
    rcases fields.mapM fieldOfJson? with _ | ds <;> rfl
  | _ => rfl

end Kinds

section Finite

theorem ofInt_toInt (n : Int64) : ofInt n.toInt = .integer n := by
  have hrange : Json.minInt ≤ n.toInt ∧ n.toInt ≤ Json.maxInt := by
    have hlow := Int64.le_toInt n
    have hhigh := Int64.toInt_lt n
    unfold Json.minInt Json.maxInt
    omega
  rw [ofInt, if_pos hrange, Int64.ofInt_toInt]

mutual

theorem ofJson?_toJson (d : Directive) (h : ∀ x, Holds x d → x.isFinite = true) :
    ofJson? d.toJson = some d := by
  cases d with
  | bool b => rfl
  | integer n => exact congrArg some (ofInt_toInt n)
  | float x =>
    rw [toJson, if_pos (h x .float)]
    rfl
  | text s => rfl
  | list items =>
    rw [toJson, ofJson?, itemsOfJson?_itemsToJson items fun d hd x hx => h x (.item hd hx)]
    rfl
  | map fields =>
    rw [toJson, ofJson?, fieldsOfJson?_fieldsToJson fields fun k d hd x hx => h x (.field hd hx)]
    rfl

theorem itemsOfJson?_itemsToJson (ds : List Directive)
    (h : ∀ d ∈ ds, ∀ x, Holds x d → x.isFinite = true) :
    itemsOfJson? (itemsToJson ds) = some ds := by
  cases ds with
  | nil => rfl
  | cons d ds =>
    rw [itemsToJson, itemsOfJson?, ofJson?_toJson d (h d List.mem_cons_self),
      itemsOfJson?_itemsToJson ds fun e he => h e (List.mem_cons_of_mem d he)]

theorem fieldsOfJson?_fieldsToJson (fs : List (String × Directive))
    (h : ∀ k d, (k, d) ∈ fs → ∀ x, Holds x d → x.isFinite = true) :
    fieldsOfJson? (fieldsToJson fs) = some fs := by
  cases fs with
  | nil => rfl
  | cons f fs =>
    obtain ⟨k, d⟩ := f
    rw [fieldsToJson, fieldsOfJson?, ofJson?_toJson d (h k d List.mem_cons_self),
      fieldsOfJson?_fieldsToJson fs fun l e he => h l e (List.mem_cons_of_mem _ he)]

end

end Finite

section Infinite

theorem itemsOfJson?_eq_none (hd : d ∈ ds) (h : ofJson? d.toJson = none) :
    itemsOfJson? (itemsToJson ds) = none := by
  induction ds with
  | nil => cases hd
  | cons e ds ih =>
    rw [itemsToJson, itemsOfJson?]
    rcases List.mem_cons.mp hd with rfl | hmem
    · rw [h]
    · rw [ih hmem]
      rcases ofJson? e.toJson with _ | e' <;> rfl

theorem fieldsOfJson?_eq_none (hd : (k, d) ∈ fs) (h : ofJson? d.toJson = none) :
    fieldsOfJson? (fieldsToJson fs) = none := by
  induction fs with
  | nil => cases hd
  | cons f fs ih =>
    obtain ⟨l, e⟩ := f
    rw [fieldsToJson, fieldsOfJson?]
    rcases List.mem_cons.mp hd with heq | hmem
    · obtain ⟨rfl, rfl⟩ := Prod.mk.inj heq
      rw [h]
    · rw [ih hmem]
      rcases ofJson? e.toJson with _ | e' <;> rfl

/-- A number that is not finite becomes null, which is no value, nor is anything that holds it. -/
theorem ofJson?_toJson_eq_none (h : Holds x d) (hx : x.isFinite = false) :
    ofJson? d.toJson = none := by
  induction h with
  | float =>
    rw [toJson, if_neg (by simp [hx])]
    rfl
  | item hd _ ih => rw [toJson, ofJson?, itemsOfJson?_eq_none hd ih]; rfl
  | field hd _ ih => rw [toJson, ofJson?, fieldsOfJson?_eq_none hd ih]; rfl

end Infinite

/-- Reading tries the kinds of values in their order. It gives back a value from its JSON if and
only if all floating point numbers in the value are finite, and it fails otherwise. -/
theorem reads_back_iff_finite :
    (∀ v, ofJson? v = Kind.order.findSome? (·.read? v)) ∧
    ∀ d : Directive, (ofJson? d.toJson = some d ↔ ∀ x, Holds x d → x.isFinite = true) ∧
      (ofJson? d.toJson = none ↔ ∃ x, Holds x d ∧ x.isFinite = false) := by
  refine ⟨ofJson?_eq_findSome?, fun d => ?_⟩
  by_cases h : ∀ x, Holds x d → x.isFinite = true
  · have hback := ofJson?_toJson d h
    refine ⟨iff_of_true hback h, iff_of_false (by simp [hback]) ?_⟩
    rintro ⟨x, hx, hinf⟩
    rw [h x hx] at hinf
    cases hinf
  · obtain ⟨x, hx, hinf⟩ : ∃ x, Holds x d ∧ x.isFinite = false := by simpa using h
    have hnone := ofJson?_toJson_eq_none hx hinf
    exact ⟨iff_of_false (by simp [hnone]) h, iff_of_true hnone ⟨x, hx, hinf⟩⟩

end Stencil.Directive
