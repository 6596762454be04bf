import AlertEngine.Document.Record
import Mathlib.Data.List.Forall2

/-! # The order of fields

Who writes an object chooses the order of its fields. As long as no name is there twice, a record
cannot tell one order from another, so that what a reader makes of a value is the same for all of
them.
-/

namespace AlertEngine

section Named

variable {name : String} {json : Json} {fields : List (String × Json)}

theorem name_mem (here : (name, json) ∈ fields) : name ∈ fields.map (·.1) :=
  List.mem_map.2 ⟨_, here, rfl⟩

theorem lookup_of_mem (distinct : (fields.map (·.1)).Nodup) (here : (name, json) ∈ fields) :
    fields.lookup name = some json := by
  induction fields with
  | nil => cases here
  | cons field rest ih =>
      rw [List.map_cons, List.nodup_cons] at distinct
      cases here with
      | head => exact List.lookup_cons_self
      | tail _ later =>
          have differ : name ≠ field.1 := by
            rintro rfl
            exact distinct.1 (name_mem later)
          rw [List.lookup_cons, beq_eq_false_iff_ne.2 differ]
          exact ih distinct.2 later

theorem filter_of_mem (distinct : (fields.map (·.1)).Nodup) (here : (name, json) ∈ fields) :
    fields.filter (·.1 = name) = [(name, json)] := by
  induction fields with
  | nil => cases here
  | cons field rest ih =>
      rw [List.map_cons, List.nodup_cons] at distinct
      cases here with
      | head =>
          have none : rest.filter (·.1 = name) = [] := by
            rw [List.filter_eq_nil_iff]
            intro other here same
            exact distinct.1 (of_decide_eq_true same ▸ name_mem here)
          simp [none]
      | tail _ later =>
          have differ : field.1 ≠ name := by
            rintro rfl
            exact distinct.1 (name_mem later)
          simp [differ, ih distinct.2 later]

end Named

namespace Json

mutual

/-- The same value up to the order of the fields of its objects, at any depth. -/
inductive Reordered : Json → Json → Prop where
  | refl (json : Json) : Reordered json json
  | array {items other : List Json} (each : List.Forall₂ Reordered items other) :
      Reordered (.array items) (.array other)
  | object {fields inner other : List (String × Json)}
      (each : List.Forall₂ FieldReordered fields inner) (moved : inner.Perm other) :
      Reordered (.object fields) (.object other)

/-- A field of the same name. -/
inductive FieldReordered : String × Json → String × Json → Prop where
  | field (name : String) {json other : Json} (value : Reordered json other) :
      FieldReordered (name, json) (name, other)

end

/-- The fields of another object in any order. -/
def FieldsReordered (fields other : List (String × Json)) : Prop :=
  ∃ inner, List.Forall₂ FieldReordered fields inner ∧ inner.Perm other

theorem FieldReordered.refl (field : String × Json) : FieldReordered field field :=
  .field field.1 (.refl field.2)

namespace Reordered

variable {other : Json}

theorem eq_string {text : String} (same : Reordered (.string text) other) :
    other = .string text := by
  cases same
  rfl

theorem eq_number {n : Number} (same : Reordered (.number n) other) : other = .number n := by
  cases same
  rfl

theorem eq_null (same : Reordered .null other) : other = .null := by
  cases same
  rfl

theorem of_array {items : List Json} (same : Reordered (.array items) other) :
    ∃ items', other = .array items' ∧ List.Forall₂ Reordered items items' := by
  cases same with
  | refl => exact ⟨items, rfl, List.forall₂_same.2 fun item _ => .refl item⟩
  | array each => exact ⟨_, rfl, each⟩

theorem of_object {fields : List (String × Json)} (same : Reordered (.object fields) other) :
    ∃ fields', other = .object fields' ∧ FieldsReordered fields fields' := by
  cases same with
  | refl =>
      exact ⟨fields, rfl, fields, List.forall₂_same.2 fun field _ => .refl field, .refl fields⟩
  | object each moved => exact ⟨_, rfl, _, each, moved⟩

end Reordered

theorem exists_of_mem_right {α β : Type} {R : α → β → Prop} {xs : List α} {ys : List β}
    (each : List.Forall₂ R xs ys) {y : β} (here : y ∈ ys) : ∃ x ∈ xs, R x y := by
  induction each with
  | nil => cases here
  | cons first _ ih =>
      cases here with
      | head => exact ⟨_, .head _, first⟩
      | tail _ later =>
          obtain ⟨x, inside, related⟩ := ih later
          exact ⟨x, .tail _ inside, related⟩

namespace FieldsReordered

variable {fields other : List (String × Json)} {name : String} {json : Json}

theorem names (same : FieldsReordered fields other) :
    (fields.map (·.1)).Perm (other.map (·.1)) := by
  obtain ⟨inner, each, moved⟩ := same
  have kept : fields.map (·.1) = inner.map (·.1) := by
    clear moved
    induction each with
    | nil => rfl
    | cons first _ ih =>
        cases first
        rw [List.map_cons, List.map_cons, ih]
  rw [kept]
  exact moved.map _

theorem exists_of_mem (same : FieldsReordered fields other) (here : (name, json) ∈ fields) :
    ∃ json', (name, json') ∈ other ∧ Reordered json json' := by
  obtain ⟨inner, each, moved⟩ := same
  obtain ⟨⟨name', json'⟩, inside, value⟩ := exists_of_mem_right each.flip here
  cases value with
  | field _ value => exact ⟨json', moved.mem_iff.1 inside, value⟩

theorem of_singleton (same : FieldsReordered [(name, json)] other) :
    ∃ json', other = [(name, json')] ∧ Reordered json json' := by
  obtain ⟨inner, each, moved⟩ := same
  cases each with
  | cons first rest =>
      cases rest
      cases first with
      | field _ value => exact ⟨_, moved.singleton_eq.symm, value⟩

theorem mem_of_right (same : FieldsReordered fields other) (here : (name, json) ∈ other) :
    ∃ json', (name, json') ∈ fields ∧ Reordered json' json := by
  obtain ⟨inner, each, moved⟩ := same
  obtain ⟨⟨name', json'⟩, inside, value⟩ := exists_of_mem_right each (moved.mem_iff.2 here)
  cases value with
  | field _ value => exact ⟨json', inside, value⟩

end FieldsReordered

/-! ### Meaning -/

theorem itemsAreMeaningful_iff {items : List Json} :
    itemsAreMeaningful items ↔ ∀ item ∈ items, item.isMeaningful := by
  induction items with
  | nil => simp [itemsAreMeaningful]
  | cons item rest ih => simp [itemsAreMeaningful, ih]

theorem fieldsAreMeaningful_iff {fields : List (String × Json)} :
    fieldsAreMeaningful fields ↔ ∀ field ∈ fields, field.2.isMeaningful := by
  induction fields with
  | nil => simp [fieldsAreMeaningful]
  | cons field rest ih => simp [fieldsAreMeaningful, ih]

theorem Reordered.isMeaningful : ∀ {json other : Json}, Reordered json other →
    json.isMeaningful → other.isMeaningful
  | .array items, other, same, whole => by
      obtain ⟨items', rfl, each⟩ := same.of_array
      rw [Json.isMeaningful, itemsAreMeaningful_iff] at whole ⊢
      intro item' here
      obtain ⟨item, inside, same⟩ := exists_of_mem_right each here
      exact same.isMeaningful (whole item inside)
  | .object fields, other, same, whole => by
      obtain ⟨fields', rfl, moved⟩ := same.of_object
      rw [Json.isMeaningful, fieldsAreMeaningful_iff] at whole ⊢
      rintro ⟨name, value'⟩ here
      obtain ⟨value, inside, same⟩ := moved.mem_of_right here
      have smaller : sizeOf value < 1 + sizeOf fields := by
        have member := List.sizeOf_lt_of_mem inside
        rw [Prod.mk.sizeOf_spec] at member
        omega
      exact same.isMeaningful (whole _ inside)
  | .null, _, same, whole => by cases same; exact whole
  | .bool _, _, same, whole => by cases same; exact whole
  | .number _, _, same, whole => by cases same; exact whole
  | .string _, _, same, whole => by cases same; exact whole
  | .meaningless, _, same, whole => by cases same; exact whole
termination_by json => sizeOf json

end Json

namespace Document

variable {α : Type} {read : Reader α} {json : Json} {result : Option α}

/-- What a reader makes of a value, in whatever order the fields in it are. -/
def Reads (read : Reader α) (json : Json) (result : Option α) : Prop :=
  ∀ other, json.Reordered other → read other = result

theorem reads_string {text : String} (reads : read (.string text) = result) :
    Reads read (.string text) result := by
  intro other same
  rw [same.eq_string, reads]

theorem reads_number {n : Json.Number} (reads : read (.number n) = result) :
    Reads read (.number n) result := by
  intro other same
  rw [same.eq_number, reads]

theorem reads_null (reads : read .null = result) : Reads read .null result := by
  intro other same
  rw [same.eq_null, reads]

namespace Record

variable {record : Record} {name : String}

/-- A record gives a field, up to the order of the fields in its value. -/
def Gives (record : Record) (name : String) (json : Json) : Prop :=
  ∃ other, record.field? name = some other ∧ json.Reordered other

theorem Gives.required (gives : record.Gives name json) (reads : Reads read json result) :
    record.required name read = result := by
  obtain ⟨other, here, same⟩ := gives
  rw [Record.required, here, Option.bind_some, reads other same]

theorem Gives.withDefault (gives : record.Gives name json) (reads : Reads read json result)
    (default : α) : record.withDefault name read default = result := by
  obtain ⟨other, here, same⟩ := gives
  rw [Record.withDefault, here]
  exact reads other same

/-- An object without two fields of one name is taken as a record of its declared fields. -/
theorem exists_of_reordered (names : List String) {fields : List (String × Json)} {other : Json}
    (distinct : (fields.map (·.1)).Nodup) (same : Json.Reordered (.object fields) other) :
    ∃ record, ofJson? names other = some record ∧
      (∀ name json, (name, json) ∈ fields → name ∈ names → record.Gives name json) ∧
      ∀ name, name ∉ fields.map (·.1) → record.field? name = none := by
  obtain ⟨fields', rfl, moved⟩ := same.of_object
  have distinct' := moved.names.nodup_iff.1 distinct
  have declared : ((fields'.filter fun field => names.contains field.1).map (·.1)).Nodup :=
    (List.filter_sublist.map _).nodup distinct'
  refine ⟨⟨fields'.filter fun field => names.contains field.1, false⟩, if_pos declared, ?_, ?_⟩
  · intro name json here known
    obtain ⟨json', inside, value⟩ := moved.exists_of_mem here
    have kept : (name, json') ∈ fields'.filter fun field => names.contains field.1 :=
      List.mem_filter.2 ⟨inside, by simpa using known⟩
    exact ⟨json', lookup_of_mem declared kept, value⟩
  · intro name missing
    rw [field?, List.lookup_eq_none_iff]
    intro field kept
    have inside := name_mem (List.mem_filter.1 kept).1
    rw [← moved.names.mem_iff] at inside
    have differ : name ≠ field.1 := by
      rintro rfl
      exact missing inside
    simpa using differ

end Record

end Document

end AlertEngine
