import AlertEngine.Document.Task
import AlertEngine.Proofs.FieldOrder
import AlertEngine.Settings.Basic
import Mathlib.Tactic.MkIffOfInductiveProp

/-! # What an object states

An object states something under a name if it has one field of that name. Reading an object as a
record comes down to what it states under each of the declared names, so that a default of one field
has no bearing on any other.
-/

namespace AlertEngine

open Document

theorem Json.field?_eq (name : String) (fields : List (String × Json)) :
    field? name fields = ((fields.filter (·.1 = name)).getLast?).map (·.2) := by
  rw [field?, ← List.head?_filter, List.filter_reverse, List.head?_reverse]

namespace Document

variable {α : Type} {fields : List (String × Json)} {names : List String} {name : String}
  {read : Reader α} {default : Option α} {value : α} {record : Record}

/-- What an object states under a name: what its only field of that name is read as, or the default
    if it has none. -/
def stated? (fields : List (String × Json)) (name : String) (read : Reader α)
    (default : Option α) : Option α :=
  match fields.filter (·.1 = name) with
  | [] => default
  | [(_, json)] => read json
  | _ => none

theorem stated?_eq_some_iff :
    stated? fields name read default = some value ↔
      (fields.filter (·.1 = name)).length ≤ 1 ∧
        (Json.field? name fields).elim default read = some value := by
  rw [stated?, Json.field?_eq]
  generalize fields.filter (·.1 = name) = found
  rcases found with _ | ⟨_, _ | _⟩ <;> simp

theorem stated?_of_missing (missing : name ∉ fields.map (·.1)) :
    stated? fields name read default = default := by
  have none : fields.filter (·.1 = name) = [] := by
    rw [List.filter_eq_nil_iff]
    rintro ⟨other, json⟩ here same
    obtain rfl : other = name := of_decide_eq_true same
    exact missing (name_mem here)
  rw [stated?, none]

theorem stated?_of_mem {json : Json} (distinct : (fields.map (·.1)).Nodup)
    (here : (name, json) ∈ fields) : stated? fields name read default = read json := by
  rw [stated?, filter_of_mem distinct here]

theorem stated?_eq_lookup (distinct : (fields.map (·.1)).Nodup) (read : Reader α)
    (default : Option α) :
    stated? fields name read default = (fields.lookup name).elim default read := by
  by_cases given : name ∈ fields.map (·.1)
  · obtain ⟨⟨_, json⟩, here, rfl⟩ := List.mem_map.1 given
    rw [stated?_of_mem distinct here, lookup_of_mem distinct here, Option.elim_some]
  · have none : fields.lookup name = none := by
      rw [List.lookup_eq_none_iff]
      rintro ⟨other, json⟩ here
      have differ : name ≠ other := fun same => given (same ▸ name_mem here)
      simpa using differ
    rw [stated?_of_missing given, none, Option.elim_none]

theorem length_filter_of_stated? (stated : stated? fields name read default = some value) :
    (fields.filter (·.1 = name)).length ≤ 1 :=
  (stated?_eq_some_iff.1 stated).1

theorem filter_of_stated? (stated : stated? fields name read default = some value) {json : Json}
    (here : (name, json) ∈ fields) : fields.filter (·.1 = name) = [(name, json)] := by
  have member : (name, json) ∈ fields.filter (·.1 = name) :=
    List.mem_filter.2 ⟨here, decide_eq_true rfl⟩
  obtain ⟨field, only⟩ := List.length_eq_one_iff.1
    (Nat.le_antisymm (length_filter_of_stated? stated) (List.length_pos_of_mem member))
  rw [only, List.mem_singleton] at member
  rw [only, member]

/-- The fields of the declared names. -/
def declared (names : List String) (fields : List (String × Json)) : List (String × Json) :=
  fields.filter fun field => names.contains field.1

theorem filter_declared_of_mem (known : name ∈ names) :
    (declared names fields).filter (·.1 = name) = fields.filter (·.1 = name) := by
  rw [declared, List.filter_filter]
  apply List.filter_congr
  rintro ⟨other, json⟩ -
  by_cases same : other = name <;> simp [same, known]

theorem stated?_declared (known : name ∈ names) (read : Reader α) (default : Option α) :
    stated? (declared names fields) name read default = stated? fields name read default := by
  rw [stated?, stated?, filter_declared_of_mem known]

theorem filter_declared_of_not_mem (unknown : name ∉ names) :
    (declared names fields).filter (·.1 = name) = [] := by
  rw [declared, List.filter_filter, List.filter_eq_nil_iff]
  rintro ⟨other, json⟩ - kept
  simp only [Bool.and_eq_true, decide_eq_true_eq, List.contains_iff_mem] at kept
  exact unknown (kept.1 ▸ kept.2)

theorem count_names (fields : List (String × Json)) (name : String) :
    (fields.map (·.1)).count name = (fields.filter (·.1 = name)).length := by
  rw [List.count_eq_countP, List.countP_map, List.countP_eq_length_filter]
  rfl

namespace Record

/-- Only a declared name that is there twice keeps an object from being a record. -/
theorem exists_of_length_filter (once : ∀ name ∈ names, (fields.filter (·.1 = name)).length ≤ 1) :
    ∃ record, ofJson? names (.object fields) = some record := by
  refine ⟨⟨declared names fields, false⟩, if_pos (List.nodup_iff_count.2 fun name => ?_)⟩
  show ((declared names fields).map (·.1)).count name ≤ 1
  rw [count_names]
  by_cases known : name ∈ names
  · rw [filter_declared_of_mem known]
    exact once name known
  · rw [filter_declared_of_not_mem known]
    exact Nat.zero_le 1

theorem eq_of_ofJson? (taken : ofJson? names (.object fields) = some record) :
    record = ⟨declared names fields, false⟩ ∧ ((declared names fields).map (·.1)).Nodup := by
  rw [ofJson?] at taken
  split at taken
  · next distinct => exact ⟨(Option.some.inj taken).symm, distinct⟩
  · cases taken

theorem withDefault_eq (taken : ofJson? names (.object fields) = some record)
    (known : name ∈ names) (read : Reader α) (default : α) :
    record.withDefault name read default = stated? fields name read (some default) := by
  obtain ⟨rfl, distinct⟩ := eq_of_ofJson? taken
  rw [← stated?_declared known, stated?_eq_lookup distinct, withDefault, field?]
  cases (declared names fields).lookup name <;> rfl

theorem required_eq (taken : ofJson? names (.object fields) = some record)
    (known : name ∈ names) (read : Reader α) :
    record.required name read = stated? fields name read none := by
  obtain ⟨rfl, distinct⟩ := eq_of_ofJson? taken
  rw [← stated?_declared known, stated?_eq_lookup distinct, required, field?]
  cases (declared names fields).lookup name <;> rfl

end Record

end Document

/-- The parameters that an object states, with these counts where it states none. -/
@[mk_iff]
structure TaskParameters.Stated (defaults : ProcessorSettings) (fields : List (String × Json))
    (p : TaskParameters) : Prop where
  metricGroup : stated? fields "metric_group" text (some "") = some p.metricGroup
  labelSelector :
    stated? fields "label_selector" (table text) (some .empty) = some p.labelSelector
  zoneLabel : stated? fields "zone_label" text (some "") = some p.zoneLabel
  quorum : stated? fields "zone_quorum_count" uint64 (some defaults.quorum) = some p.quorum
  consecutive :
    stated? fields "default_consecutive_count" uint32 (some defaults.consecutive) =
      some p.consecutive
  rules : stated? fields "state_expressions" (list Rule.ofJson?) (some []) = some p.rules

theorem TaskParameters.ofJson?_eq_some_iff {fields : List (String × Json)} {p : TaskParameters} :
    ofJson? (.object fields) = some p ↔ Stated {} fields p := by
  constructor
  · intro read
    obtain ⟨record, taken, read⟩ := Option.bind_eq_some_iff.1 read
    simp only [Record.withDefault_eq taken, List.mem_cons, true_or, or_true,
      Option.bind_eq_bind, Option.bind_eq_some_iff, Option.pure_def, Option.some.injEq] at read
    obtain ⟨_, metricGroup, _, labelSelector, _, zoneLabel, _, quorum, _, consecutive, _, rules,
      rfl⟩ := read
    exact ⟨metricGroup, labelSelector, zoneLabel, quorum, consecutive, rules⟩
  · rintro ⟨metricGroup, labelSelector, zoneLabel, quorum, consecutive, rules⟩
    have once : ∀ name ∈ ["metric_group", "label_selector", "zone_label", "zone_quorum_count",
        "default_consecutive_count", "state_expressions"],
        (fields.filter (·.1 = name)).length ≤ 1 := by
      simp only [List.forall_mem_cons]
      exact ⟨length_filter_of_stated? metricGroup, length_filter_of_stated? labelSelector,
        length_filter_of_stated? zoneLabel, length_filter_of_stated? quorum,
        length_filter_of_stated? consecutive, length_filter_of_stated? rules, nofun⟩
    obtain ⟨record, taken⟩ := Record.exists_of_length_filter once
    simp [ofJson?, taken, Record.withDefault_eq taken, metricGroup, labelSelector, zoneLabel,
      quorum, consecutive, rules]

theorem Task.ofJson?_eq_some_iff {fields : List (String × Json)} {task : Task} :
    ofJson? (.object fields) = some task ↔
      stated? fields "id" Uuid.ofJson? none = some task.id ∧
      stated? fields "tenant_id" text none = some task.tenant ∧
      stated? fields "name" text (some "") = some task.name ∧
      stated? fields "task_parameters" TaskParameters.ofJson? none = some task.parameters := by
  constructor
  · intro read
    obtain ⟨record, taken, read⟩ := Option.bind_eq_some_iff.1 read
    simp only [Record.withDefault_eq taken, Record.required_eq taken, List.mem_cons, true_or,
      or_true, Option.bind_eq_bind, Option.bind_eq_some_iff, Option.pure_def,
      Option.some.injEq] at read
    obtain ⟨_, id, _, tenant, _, name, _, parameters, rfl⟩ := read
    exact ⟨id, tenant, name, parameters⟩
  · rintro ⟨id, tenant, name, parameters⟩
    have once : ∀ name ∈ ["id", "tenant_id", "name", "task_parameters"],
        (fields.filter (·.1 = name)).length ≤ 1 := by
      simp only [List.forall_mem_cons]
      exact ⟨length_filter_of_stated? id, length_filter_of_stated? tenant,
        length_filter_of_stated? name, length_filter_of_stated? parameters, nofun⟩
    obtain ⟨record, taken⟩ := Record.exists_of_length_filter once
    simp [ofJson?, taken, Record.withDefault_eq taken, Record.required_eq taken, id, tenant, name,
      parameters]

end AlertEngine
