import AlertEngine.Document.Sample
import AlertEngine.Document.Task
import AlertEngine.Proofs.ExpressionTree
import AlertEngine.Proofs.FieldOrder
import AlertEngine.Proofs.WrittenTexts

/-! # Documents that are read back

What is written as a document is read back as it was, down to the kind of every value and whatever
order the fields have come to stand in. There is one exception, for which documents have no form: a
number that is not finite is written as nothing, and what holds such a number is refused.
-/

namespace AlertEngine

open Document

namespace Keyed

variable {κ α : Type} [Ord κ] [Std.TransOrd κ] [Std.LawfulEqOrd κ] [DecidableEq κ]

theorem get?_foldl_insert_iff {key : κ} {value : α} {entries : List (κ × α)}
    (distinct : (entries.map (·.1)).Nodup) (collection : Keyed κ α) :
    (entries.foldl (fun done entry => done.insert entry.1 entry.2) collection).get? key
        = some value ↔
      (key, value) ∈ entries ∨
        key ∉ entries.map (·.1) ∧ collection.get? key = some value := by
  induction entries generalizing collection with
  | nil => simp
  | cons entry rest ih =>
      obtain ⟨key', value'⟩ := entry
      rw [List.map_cons, List.nodup_cons] at distinct
      rw [List.foldl_cons, ih distinct.2, get?_insert]
      by_cases same : key = key'
      · subst same
        have elsewhere : (key, value) ∉ rest := fun here =>
          distinct.1 (List.mem_map.2 ⟨_, here, rfl⟩)
        simp [elsewhere, distinct.1, eq_comm]
      · simp [same]

theorem ofList_of_perm {collection : Keyed κ α} {entries : List (κ × α)}
    (moved : collection.entries.Perm entries) : ofList entries = collection := by
  have distinct : (entries.map (·.1)).Nodup :=
    (moved.map Prod.fst).nodup_iff.1 collection.nodup_keys
  ext key value
  rw [ofList, get?_foldl_insert_iff distinct, get?_empty, get?_eq_some_iff, moved.mem_iff]
  simp

end Keyed

namespace Document

variable {α β γ : Type}

/-- A value is taken exactly if the part of it that may be refused is. -/
theorem map_guard {p : α → Bool} {q : β → Bool} {part : α} {rebuild : α → β}
    (same : q (rebuild part) = p part) :
    (Option.guard p part).map rebuild = Option.guard q (rebuild part) := by
  rw [Option.guard, Option.guard, same]
  split <;> rfl

theorem mapM_guard {read : β → Option α} {p : α → Bool} {values : List α} {items : List β}
    (back : List.Forall₂ (fun value item => read item = Option.guard p value) values items) :
    items.mapM read = Option.guard (·.all p) values := by
  induction back with
  | nil => rfl
  | @cons value _ rest _ first _ ih =>
      rw [List.mapM_cons, first, ih]
      cases holds : p value <;> cases all : rest.all p <;> simp [Option.guard, holds, all]

theorem mapM_perm (read : β → Option α) {items other : List β} (moved : items.Perm other) :
    Option.Rel List.Perm (items.mapM read) (other.mapM read) := by
  induction moved with
  | nil => exact .some (.refl [])
  | @cons item items other _ ih =>
      rw [List.mapM_cons, List.mapM_cons]
      cases read item with
      | none => exact .none
      | some value =>
          revert ih
          cases items.mapM read <;> cases other.mapM read <;> intro ih <;> cases ih
          · exact .none
          · next moved => exact .some (moved.cons value)
  | swap x y rest =>
      simp only [List.mapM_cons]
      cases read x <;> cases read y <;> cases rest.mapM read <;>
        first | exact .none | exact .some (.swap _ _ _)
  | @trans items middle other _ _ ih ih' =>
      revert ih ih'
      cases items.mapM read <;> cases middle.mapM read <;> cases other.mapM read <;>
        intro ih ih' <;> cases ih <;> cases ih'
      · exact .none
      · next moved moved' => exact .some (moved.trans moved')

theorem list_reads {item : Reader α} {write : α → Json} {p : α → Bool} {values : List α}
    (back : ∀ value ∈ values, Reads item (write value) (Option.guard p value)) :
    Reads (list item) (.array (values.map write)) (Option.guard (·.all p) values) := by
  intro other same
  obtain ⟨items, rfl, each⟩ := same.of_array
  rw [List.forall₂_map_left_iff] at each
  apply mapM_guard
  have both := (List.forall₂_and_left _ _).2 ⟨back, each⟩
  exact both.imp fun value item both => both.1 item both.2

theorem table_reads {item : Reader α} {write : α → Json} {p : α → Bool}
    (back : ∀ value, Reads item (write value) (Option.guard p value))
    (collection : Keyed String α) :
    Reads (table item) (.object (collection.mapValues write).entries)
      (Option.guard (·.values.all p) collection) := by
  intro other same
  obtain ⟨fields, rfl, inner, each, moved⟩ := same.of_object
  let read (field : String × Json) := (item field.2).map fun value => (field.1, value)
  rw [Keyed.mapValues, List.forall₂_map_left_iff] at each
  have ordered : inner.mapM read =
      Option.guard (·.all fun entry => p entry.2) collection.entries := by
    refine mapM_guard (each.imp fun entry field same => ?_)
    cases same with
    | @field _ _ other same =>
        show (item other).map (fun value => (entry.1, value)) = _
        rw [back entry.2 other same]
        exact map_guard rfl
  have values : (collection.entries.all fun entry => p entry.2) = collection.values.all p := by
    rw [Keyed.values, List.all_map]
    rfl
  have unordered := mapM_perm read moved
  rw [ordered, Option.guard, values] at unordered
  show (fields.mapM read).map Keyed.ofList = _
  rw [Option.guard]
  revert unordered
  cases fields.mapM read <;> split <;> intro unordered <;> cases unordered
  · rfl
  · next moved => exact congrArg some (Keyed.ofList_of_perm moved)

theorem text_reads (s : String) : Reads text (.string s) (some s) := reads_string rfl

theorem table_text (labels : Keyed String String) :
    Reads (table text) (.object (labels.mapValues Json.string).entries) (some labels) := by
  have reads : Reads (table text) (.object (labels.mapValues Json.string).entries)
      (Option.guard (·.values.all fun _ => true) labels) :=
    table_reads text_reads labels
  have all : Option.guard (·.values.all fun _ => true) labels = some labels := by
    simp [Option.guard]
  rwa [all] at reads

theorem natBelow_nat {bound n : Nat} (below : n < bound) : natBelow bound (.nat n) = some n := by
  rw [Json.nat, Json.int, natBelow, if_pos ⟨by omega, by omega⟩, Int.toNat_natCast]

theorem uint32_reads (n : UInt32) : Reads uint32 (.nat n.toNat) (some n) := by
  refine reads_number ?_
  show uint32 (.nat n.toNat) = some n
  rw [uint32, natBelow_nat n.toNat_lt_size, Option.map_some, UInt32.ofNat_toNat]

theorem uint64_reads (n : UInt64) : Reads uint64 (.nat n.toNat) (some n) := by
  refine reads_number ?_
  show uint64 (.nat n.toNat) = some n
  rw [uint64, natBelow_nat n.toNat_lt_size, Option.map_some, UInt64.ofNat_toNat]

theorem int64_int (n : Int64) : int64 (.int n.toInt) = some n := by
  have fits : fitsSigned n.toInt := by
    have low := n.le_toInt
    have high := n.toInt_lt
    simp only [fitsSigned, Bool.and_eq_true, decide_eq_true_eq]
    omega
  rw [Json.int, int64, if_pos fits, Int64.ofInt_toInt]

end Document

namespace Source

theorem of_reads {name : String} {content : Json}
    (same : Json.Reordered (.object [("of", .string name)]) content) :
    ∃ record, Record.ofJson? ["of"] content = some record ∧
      record.required "of" text = some name := by
  obtain ⟨record, taken, gives, -⟩ := Record.exists_of_reordered ["of"] (by simp) same
  exact ⟨record, taken, (gives "of" _ (by simp) (by simp)).required (text_reads name)⟩

theorem reads (source : Source) : Reads ofJson? source.toJson (some source) := by
  intro other same
  cases source <;> obtain ⟨_, rfl, moved⟩ := same.of_object <;> clear same <;>
    obtain ⟨content, rfl, same⟩ := moved.of_singleton
  case metric name =>
    rw [same.eq_string]
    rfl
  case rate name | previous name =>
    obtain ⟨record, taken, read⟩ := of_reads same
    simp [ofJson?, taken, read]
  case percentage part whole =>
    obtain ⟨record, taken, gives, -⟩ :=
      Record.exists_of_reordered ["part", "whole"] (by simp) same
    have first := (gives "part" _ (by simp) (by simp)).required (text_reads part)
    have second := (gives "whole" _ (by simp) (by simp)).required (text_reads whole)
    simp [ofJson?, taken, first, second]

end Source

def Literal.isFinite : Literal → Bool
  | .number value => value.isFinite
  | .text _ => true

theorem Literal.reads (literal : Literal) :
    Reads ofJson? literal.toJson (Option.guard isFinite literal) := by
  cases literal with
  | number value =>
      rw [toJson, Json.float, Option.guard, isFinite]
      split
      · exact reads_number rfl
      · exact reads_null rfl
  | text value => exact reads_string rfl

theorem Comparison.ofRecord?_of_gives {c : Comparison} {record : Record}
    (gives : ∀ name json, (name, json) ∈ c.fields → record.Gives name json) :
    ofRecord? record = Option.guard (·.literal.isFinite) c := by
  have comparator : Reads (fun json => (choiceName isNullOrEmpty json).bind Comparator.ofSymbol?)
      (.string c.comparator.symbol) (some c.comparator) :=
    reads_string (Comparator.ofSymbol?_symbol c.comparator)
  have source := (gives "input" _ (by simp [fields])).required c.source.reads
  have comparator := (gives "comparator" _ (by simp [fields])).required comparator
  have literal := (gives "comparison_value" _ (by simp [fields])).required c.literal.reads
  rw [ofRecord?, source, comparator, literal]
  exact Option.map_eq_bind.symm.trans (map_guard rfl)

namespace Expression

/-- Whether every number that is compared with is finite. -/
def isFinite (e : Expression) : Bool :=
  e.comparisons.all (·.literal.isFinite)

theorem isFinite_comparison (c : Comparison) : (comparison c).isFinite = c.literal.isFinite := by
  rw [isFinite, comparisons, List.all_cons, List.all_nil, Bool.and_true]

theorem isFinite_junction (j : Junction) (parts : List Expression) :
    (junction j parts).isFinite = parts.all isFinite := by
  rw [isFinite, comparisons, comparisonsOfParts_eq_flatMap, List.all_flatMap]
  rfl

theorem partsJson_eq_map (parts : List Expression) : partsJson parts = parts.map toJson := by
  induction parts with
  | nil => rfl
  | cons part rest ih => rw [partsJson, ih, List.map_cons]

theorem partsList_eq_mapM (items : List Json) : partsList items = items.mapM (ofJsonAt? true) := by
  induction items with
  | nil => rfl
  | cons item rest ih =>
      rw [partsList, ih, List.mapM_cons]
      cases ofJsonAt? true item <;> cases rest.mapM (ofJsonAt? true) <;> rfl

theorem partsOf_eq_list : partsOf = list (ofJsonAt? true) := by
  funext json
  cases json with
  | array items => rw [partsOf, partsList_eq_mapM, list]
  | _ => rfl

theorem partsIn_eq_lookup (fields : List (String × Json)) :
    partsIn fields = (fields.lookup "expressions").bind partsOf := by
  induction fields with
  | nil => rfl
  | cons field rest ih =>
      obtain ⟨name, json⟩ := field
      rw [partsIn, List.lookup_cons]
      by_cases same : name = "expressions"
      · subst same
        simp
      · rw [if_neg same, ih, beq_eq_false_iff_ne.2 (Ne.symm same)]

theorem kind?_of_mem {fields : List (String × Json)} (distinct : (fields.map (·.1)).Nodup)
    {json : Json} (here : ("type", json) ∈ fields) (inner : Bool) :
    kind? inner fields = Kind.ofJson? inner json := by
  rw [kind?, filter_of_mem distinct here]

/-- A tree is read where it stands, at the top or inside another one. -/
theorem readsAt (e : Expression) (inner : Bool) :
    Reads (ofJsonAt? inner) e.toJson (Option.guard isFinite e) := by
  induction e using rec_parts generalizing inner with
  | comparison c =>
      intro other same
      rw [toJson] at same
      have distinct : ((("type", Json.string "comparison") :: c.fields).map (·.1)).Nodup := by
        simp [Comparison.fields]
      obtain ⟨record, taken, gives, -⟩ :=
        Record.exists_of_reordered Comparison.fieldNames distinct same
      obtain ⟨fields, rfl, moved⟩ := same.of_object
      obtain ⟨type, here, same⟩ := moved.exists_of_mem (.head _)
      rw [same.eq_string] at here
      have kind := kind?_of_mem (moved.names.nodup_iff.1 distinct) here inner
      have read : Comparison.ofRecord? record = Option.guard (·.literal.isFinite) c := by
        apply Comparison.ofRecord?_of_gives
        intro name json here
        exact gives name json (.tail _ here) (name_mem here)
      rw [ofJsonAt?, kind]
      show ((Record.ofJson? _ _).bind _).map _ = _
      rw [taken, Option.bind_some, read]
      exact map_guard (isFinite_comparison c)
  | junction j parts ih =>
      intro other same
      rw [toJson, partsJson_eq_map] at same
      have distinct : ([("type", Json.string "logical"), ("operator", .string j.name),
          ("expressions", .array (parts.map toJson))].map (·.1)).Nodup := by
        simp
      obtain ⟨record, taken, gives, -⟩ :=
        Record.exists_of_reordered ["operator", "expressions"] distinct same
      obtain ⟨fields, rfl, moved⟩ := same.of_object
      have distinct := moved.names.nodup_iff.1 distinct
      obtain ⟨type, typed, same⟩ := moved.exists_of_mem (.head _)
      rw [same.eq_string] at typed
      have kind := kind?_of_mem distinct typed inner
      have junction : Reads Junction.ofJson? (.string j.name) (some j) :=
        reads_string (by cases j <;> rfl)
      have junction := (gives "operator" _ (by simp) (by simp)).required junction
      obtain ⟨items, listed, same⟩ := moved.exists_of_mem (.tail _ (.tail _ (.head _)))
      have read : partsIn fields = Option.guard (·.all isFinite) parts := by
        rw [partsIn_eq_lookup, lookup_of_mem distinct listed, Option.bind_some, partsOf_eq_list]
        exact list_reads (fun part here => ih part here true) items same
      rw [ofJsonAt?, kind]
      simp only [taken, junction, read, Option.bind_eq_bind, Option.bind_some]
      exact Option.map_eq_bind.symm.trans (map_guard (isFinite_junction j parts))

end Expression

/-! The outermost reader also looks through what it does not read; nothing written is without a
meaning. -/

theorem Source.isMeaningful_toJson (source : Source) : source.toJson.isMeaningful := by
  cases source <;> rfl

theorem Literal.isMeaningful_toJson (literal : Literal) : literal.toJson.isMeaningful := by
  cases literal with
  | number value =>
      rw [toJson, Json.float]
      split <;> rfl
  | text value => rfl

namespace Expression

theorem isMeaningful_toJson (e : Expression) : e.toJson.isMeaningful := by
  induction e using rec_parts with
  | comparison c =>
      simp [toJson, Comparison.fields, Json.isMeaningful, Json.fieldsAreMeaningful,
        Source.isMeaningful_toJson, Literal.isMeaningful_toJson]
  | junction j parts ih =>
      simpa [toJson, partsJson_eq_map, Json.isMeaningful, Json.fieldsAreMeaningful,
        Json.itemsAreMeaningful_iff] using ih

theorem reads (e : Expression) : Reads ofJson? e.toJson (Option.guard isFinite e) := by
  intro other same
  rw [ofJson?, if_pos (same.isMeaningful e.isMeaningful_toJson), e.readsAt false other same]

end Expression

theorem AlertState.reads (state : AlertState) : Reads ofJson? state.toJson (some state) :=
  reads_string (by cases state <;> rfl)

theorem Uuid.reads (id : Uuid) : Reads ofJson? id.toJson (some id) :=
  reads_string id.ofText?_text

theorem Rule.reads (rule : Rule) :
    Reads ofJson? rule.toJson (Option.guard (·.expression.isFinite) rule) := by
  intro other same
  obtain ⟨state, expression, message⟩ := rule
  obtain ⟨record, taken, gives, missing⟩ := Record.exists_of_reordered
    ["state", "expression", "message"] (by cases message <;> simp) same
  have stated := (gives "state" _ (by simp) (by simp)).required state.reads
  have expressed := (gives "expression" _ (by simp) (by simp)).required expression.reads
  have messaged : record.optional "message" text = some message := by
    cases message with
    | none => rw [Record.optional, Record.withDefault, missing "message" (by simp)]
    | some message =>
        have reads : Reads (nullable text) (.string message) (some (some message)) :=
          reads_string rfl
        exact (gives "message" _ (by simp) (by simp)).withDefault reads none
  simp only [ofJson?, taken, stated, expressed, messaged, Option.bind_eq_bind, Option.bind_some]
  exact Option.map_eq_bind.symm.trans (map_guard rfl)

theorem TaskParameters.reads (p : TaskParameters) :
    Reads ofJson? p.toJson (Option.guard (·.rules.all (·.expression.isFinite)) p) := by
  intro other same
  obtain ⟨record, taken, gives, -⟩ := Record.exists_of_reordered ["metric_group",
    "label_selector", "zone_label", "zone_quorum_count", "default_consecutive_count",
    "state_expressions"] (by simp) same
  have metricGroup := (gives "metric_group" _ (by simp) (by simp)).withDefault
    (text_reads p.metricGroup) ""
  have labelSelector := (gives "label_selector" _ (by simp) (by simp)).withDefault
    (table_text p.labelSelector) .empty
  have zoneLabel := (gives "zone_label" _ (by simp) (by simp)).withDefault
    (text_reads p.zoneLabel) ""
  have quorum := (gives "zone_quorum_count" _ (by simp) (by simp)).withDefault
    (uint64_reads p.quorum) 1
  have consecutive := (gives "default_consecutive_count" _ (by simp) (by simp)).withDefault
    (uint32_reads p.consecutive) 1
  have rules := (gives "state_expressions" _ (by simp) (by simp)).withDefault
    (list_reads fun rule (_ : rule ∈ p.rules) => rule.reads) []
  simp only [ofJson?, taken, metricGroup, labelSelector, zoneLabel, quorum, consecutive, rules,
    Option.bind_eq_bind, Option.bind_some]
  exact Option.map_eq_bind.symm.trans (map_guard rfl)

namespace Task

/-- Whether every number that the rules compare with is finite. -/
def isFinite (task : Task) : Bool :=
  task.parameters.rules.all (·.expression.isFinite)

theorem reads (task : Task) : Reads ofJson? task.toJson (Option.guard isFinite task) := by
  intro other same
  obtain ⟨record, taken, gives, -⟩ := Record.exists_of_reordered
    ["id", "tenant_id", "name", "task_parameters"] (by simp) same
  have id := (gives "id" _ (by simp) (by simp)).required task.id.reads
  have tenant := (gives "tenant_id" _ (by simp) (by simp)).required (text_reads task.tenant)
  have name := (gives "name" _ (by simp) (by simp)).withDefault (text_reads task.name) ""
  have parameters :=
    (gives "task_parameters" _ (by simp) (by simp)).required task.parameters.reads
  simp only [ofJson?, taken, id, tenant, name, parameters, Option.bind_eq_bind, Option.bind_some]
  exact Option.map_eq_bind.symm.trans (map_guard rfl)

end Task

def Metric.isFinite : Metric → Bool
  | .double value => value.isFinite
  | _ => true

theorem Metric.reads (metric : Metric) :
    Reads ofJson? metric.toJson (Option.guard isFinite metric) := by
  cases metric with
  | integer value =>
      apply reads_number
      have read := int64_int value
      rw [Json.int] at read
      rw [ofJson?, read]
      rfl
  | double value =>
      rw [toJson, Json.float, Option.guard, isFinite]
      split
      · exact reads_number rfl
      · exact reads_null rfl
  | text value => exact reads_string rfl

theorem Timestamp.reads (t : Timestamp) :
    Reads ofJson? t.toJson (if inRange t.date.year then some t else none) :=
  reads_string t.ofText?_text

namespace Sample

/-- Whether every double among the values is finite. -/
def isFinite (sample : Sample) : Bool :=
  sample.metrics.values.all Metric.isFinite

theorem reads (sample : Sample) :
    Reads ofJson? sample.toJson
      (if Timestamp.inRange sample.timestamp.date.year then Option.guard isFinite sample
        else none) := by
  intro other same
  obtain ⟨record, taken, gives, -⟩ := Record.exists_of_reordered
    ["timestamp", "zone", "metrics"] (by simp) same
  have timestamp := (gives "timestamp" _ (by simp) (by simp)).required sample.timestamp.reads
  have zone := (gives "zone" _ (by simp) (by simp)).required (text_reads sample.zone)
  have metrics := (gives "metrics" (metricsJson sample.metrics) (by simp) (by simp)).withDefault
    (table_reads Metric.reads sample.metrics) .empty
  simp only [ofJson?, taken, timestamp, zone, metrics, Option.bind_eq_bind, Option.bind_some]
  split
  · exact Option.map_eq_bind.symm.trans (map_guard rfl)
  · rfl

end Sample

/-- Every task and every sample is read back from its document as it was: each part of an
    expression, at any depth, and each value with the kind that it has, whatever it looks like, and
    whatever order the fields of the objects have come to stand in. The reader refuses a document
    only where a number is lost that is not finite, or for a moment beyond the years that
    timestamps may lie in. -/
theorem Document.read_back :
    (∀ (task : Task) (json : Json), task.toJson.Reordered json →
      Task.ofJson? json = if task.isFinite then some task else none) ∧
    ∀ (sample : Sample) (json : Json), sample.toJson.Reordered json →
      Sample.ofJson? json =
        if Timestamp.inRange sample.timestamp.date.year ∧ sample.isFinite then some sample
        else none := by
  constructor
  · intro task json same
    exact task.reads json same
  · intro sample json same
    rw [ite_and]
    exact sample.reads json same

theorem Document.read_back_from_sorted_fields :
    let down : Expression := .comparison ⟨.metric "up", .equal, .text "7.0"⟩
    let rule : Rule := ⟨.critical, .junction .any [down], none⟩
    let task : Task := ⟨default, "tenant", "up", { rules := [rule] }⟩
    let sample := (Sample.new default "west").withMetric "up" (.text "7.0")
    Task.ofJson? (.object [("id", task.id.toJson), ("name", .string "up"),
      ("task_parameters", task.parameters.toJson), ("tenant_id", .string "tenant")]) = some task ∧
    Sample.ofJson? (.object [("metrics", Sample.metricsJson sample.metrics),
      ("timestamp", sample.timestamp.toJson), ("zone", .string "west")]) = some sample := by
  intro down rule task sample
  have same (fields : List (String × Json)) : List.Forall₂ Json.FieldReordered fields fields :=
    List.forall₂_same.2 fun field _ => .refl field
  constructor
  · refine (read_back.1 task _ (.object (same _) (.cons _ ?_))).trans (if_pos rfl)
    exact (List.perm_append_singleton _ [_, _]).symm
  · refine (read_back.2 sample _ (.object (same _) ?_)).trans (if_pos ⟨rfl, rfl⟩)
    exact List.perm_append_singleton _ [_, _]

example : Metric.ofJson? (Metric.text "7.0").toJson = some (.text "7.0") := rfl

end AlertEngine
