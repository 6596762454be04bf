import AlertEngine.Proofs.MonitorRun
import AlertEngine.Proofs.ReadBack
import AlertEngine.Proofs.StatedFields
import AlertEngine.TaskFile

/-! # Defaults of tasks

What the document of a task leaves out is filled in before it is read, and what it gives is read as
given. So the counts of a task are those of its document or else those of the settings, and of
settings that are valid none makes a task fail.
-/

namespace AlertEngine

open Document

namespace Json

variable {fields : List (String × Json)} {name other : String} {value : Json}

theorem any_iff : fields.any (·.1 = name) ↔ fields.filter (·.1 = name) ≠ [] := by
  simp

theorem filter_of_field?_eq_none (missing : field? name fields = none) :
    fields.filter (·.1 = name) = [] := by
  simpa [field?_eq] using missing

theorem filter_of_field?_eq_some (given : field? name fields = some value) :
    fields.filter (·.1 = name) ≠ [] := by
  intro none
  rw [field?_eq, none] at given
  cases given

theorem filter_setField_self (given : fields.filter (·.1 = name) ≠ []) :
    (setField name value fields).filter (·.1 = name) =
      (fields.filter (·.1 = name)).map fun _ => (name, value) := by
  rw [setField, if_pos (any_iff.2 given)]
  clear given
  induction fields with
  | nil => rfl
  | cons field rest ih =>
      by_cases same : field.1 = name <;> simp [same, ih]

theorem filter_setField_of_ne (differ : other ≠ name) :
    (setField name value fields).filter (·.1 = other) = fields.filter (·.1 = other) := by
  rw [setField]
  split
  · next given =>
    clear given
    induction fields with
    | nil => rfl
    | cons field rest ih =>
        by_cases same : field.1 = name
        · simp [same, Ne.symm differ, ih]
        · simp only [List.map_cons, if_neg same, List.filter_cons, ih]
  · simp [Ne.symm differ]

theorem eq_of_mem_setField {field : String × Json} (here : field ∈ setField name value fields)
    (same : field.1 = name) : field = (name, value) := by
  rw [setField] at here
  split at here
  · obtain ⟨field', -, rfl⟩ := List.mem_map.1 here
    by_cases named : field'.1 = name
    · exact if_pos named
    · rw [if_neg named] at same
      exact absurd same named
  · next missing =>
    rcases List.mem_append.1 here with here | here
    · exact absurd (List.any_eq_true.2 ⟨field, here, decide_eq_true same⟩) missing
    · exact List.mem_singleton.1 here

theorem setField_setField (name : String) (value : Json) (fields : List (String × Json)) :
    setField name value (setField name value fields) = setField name value fields := by
  have again : (setField name value fields).any (·.1 = name) := by
    rw [setField]
    split
    · next given => simpa [Function.comp_def, apply_ite Prod.fst] using given
    · simp
  rw [setField, if_pos again]
  conv_rhs => rw [← List.map_id (setField name value fields)]
  apply List.map_congr_left
  intro field here
  split
  · next same => exact (eq_of_mem_setField here same).symm
  · rfl

theorem field?_setField (given : fields.filter (·.1 = name) ≠ []) :
    field? name (setField name value fields) = some value := by
  rw [field?_eq, filter_setField_self given, List.getLast?_map, List.getLast?_eq_some_getLast given]
  rfl

/-- The fields of an object. -/
def objectFields? : Reader (List (String × Json))
  | .object fields => some fields
  | _ => none

theorem objectFields?_eq_some_iff {json : Json} :
    objectFields? json = some fields ↔ json = .object fields := by
  cases json <;> simp [objectFields?]

end Json

namespace TaskFile

section Fill

variable {α : Type} {fields : List (String × Json)} {name other : String} {value : Json}

theorem fill_of_given (given : fields.filter (·.1 = name) ≠ []) :
    fill name value fields = fields :=
  if_pos (Json.any_iff.2 given)

theorem fill_of_missing (missing : fields.filter (·.1 = name) = []) :
    fill name value fields = fields ++ [(name, value)] :=
  if_neg fun given => Json.any_iff.1 given missing

theorem filter_fill_of_ne (differ : other ≠ name) :
    (fill name value fields).filter (·.1 = other) = fields.filter (·.1 = other) := by
  rw [fill]
  split
  · rfl
  · simp [Ne.symm differ]

theorem filter_fill_ne_nil : (fill name value fields).filter (·.1 = name) ≠ [] := by
  by_cases missing : fields.filter (·.1 = name) = []
  · simp [fill_of_missing missing]
  · rwa [fill_of_given missing]

theorem fill_fill {value' : Json} :
    fill name value' (fill name value fields) = fill name value fields :=
  fill_of_given filter_fill_ne_nil

theorem filter_fill_of_missing (missing : fields.filter (·.1 = name) = []) :
    (fill name value fields).filter (·.1 = name) = [(name, value)] := by
  rw [fill_of_missing missing, List.filter_append, missing]
  simp

theorem stated?_fill (read : Reader α) (default : Option α) :
    stated? (fill name value fields) name read default = stated? fields name read (read value) := by
  by_cases missing : fields.filter (·.1 = name) = []
  · rw [stated?, stated?, filter_fill_of_missing missing, missing]
  · rw [fill_of_given missing, stated?, stated?]
    split <;> simp_all

theorem stated?_setField (given : fields.filter (·.1 = name) ≠ []) (read : Reader α)
    (default : Option α) :
    stated? (Json.setField name value fields) name read default =
      stated? fields name (fun _ => read value) (read value) := by
  rw [stated?, stated?, Json.filter_setField_self given]
  generalize fields.filter (·.1 = name) = found at given
  rcases found with _ | ⟨_, _ | _⟩
  · exact absurd rfl given
  · rfl
  · rfl

theorem stated?_setField_of_ne (differ : other ≠ name) (read : Reader α) (default : Option α) :
    stated? (Json.setField name value fields) other read default =
      stated? fields other read default := by
  rw [stated?, stated?, Json.filter_setField_of_ne differ]

theorem stated?_fill_of_ne (differ : other ≠ name) (read : Reader α) (default : Option α) :
    stated? (fill name value fields) other read default = stated? fields other read default := by
  rw [stated?, stated?, filter_fill_of_ne differ]

end Fill

variable {defaults : ProcessorSettings} {newId : Uuid} {fields parameters : List (String × Json)}

/-- The fields of the parameters that a document gives, or none if it gives no parameters. -/
def parametersIn? (fields : List (String × Json)) : Option (List (String × Json)) :=
  (Json.field? "task_parameters" fields).elim (some []) Json.objectFields?

/-- The fields of a document when all is filled in. -/
def completed (defaults : ProcessorSettings) (newId : Uuid)
    (fields parameters : List (String × Json)) : List (String × Json) :=
  Json.setField "task_parameters" (.object (fillCounts defaults parameters))
    (fill "task_parameters" (.object []) (fill "id" newId.toJson fields))

theorem complete_eq (tables : parametersIn? fields = some parameters) :
    complete defaults newId (.object fields) =
      .ok (.object (completed defaults newId fields parameters)) := by
  have elsewhere : (fill "id" newId.toJson fields).filter (·.1 = "task_parameters") =
      fields.filter (·.1 = "task_parameters") := filter_fill_of_ne (by decide)
  have filled : Json.field? "task_parameters"
      (fill "task_parameters" (.object []) (fill "id" newId.toJson fields)) =
        some (.object parameters) := by
    rw [parametersIn?, Json.field?_eq, ← elsewhere, ← Json.field?_eq] at tables
    cases given : Json.field? "task_parameters" (fill "id" newId.toJson fields) with
    | none =>
        obtain rfl : [] = parameters := by simpa [given] using tables
        have missing := Json.filter_of_field?_eq_none given
        rw [Json.field?_eq, filter_fill_of_missing missing]
        rfl
    | some json =>
        rw [given, Option.elim_some, Json.objectFields?_eq_some_iff] at tables
        rw [fill_of_given (Json.filter_of_field?_eq_some given), given, tables]
  simp only [complete, filled, completed]

theorem fillCounts_fillCounts (defaults defaults' : ProcessorSettings)
    (fields : List (String × Json)) :
    fillCounts defaults' (fillCounts defaults fields) = fillCounts defaults fields := by
  have quorum : (fillCounts defaults fields).filter (·.1 = "zone_quorum_count") ≠ [] := by
    rw [fillCounts, filter_fill_of_ne (by decide)]
    exact filter_fill_ne_nil
  rw [fillCounts, fill_of_given quorum]
  exact fill_fill

theorem complete_completed (defaults defaults' : ProcessorSettings) (newId newId' : Uuid)
    (fields parameters : List (String × Json)) :
    complete defaults' newId' (.object (completed defaults newId fields parameters)) =
      .ok (.object (completed defaults newId fields parameters)) := by
  have tables : (fill "task_parameters" (.object []) (fill "id" newId.toJson fields)).filter
      (·.1 = "task_parameters") ≠ [] := filter_fill_ne_nil
  have id : (completed defaults newId fields parameters).filter (·.1 = "id") ≠ [] := by
    rw [completed, Json.filter_setField_of_ne (by decide), filter_fill_of_ne (by decide)]
    exact filter_fill_ne_nil
  have again :
      (completed defaults newId fields parameters).filter (·.1 = "task_parameters") ≠ [] := by
    rw [completed, Json.filter_setField_self tables]
    exact mt List.map_eq_nil_iff.1 tables
  have filled : Json.field? "task_parameters" (completed defaults newId fields parameters) =
      some (.object (fillCounts defaults parameters)) := Json.field?_setField tables
  simp only [complete, fill_of_given id, fill_of_given again, filled, fillCounts_fillCounts]
  rw [completed, Json.setField_setField]

theorem ofJson?_fillCounts {p : TaskParameters} :
    TaskParameters.ofJson? (.object (fillCounts defaults parameters)) = some p ↔
      p.Stated defaults parameters := by
  have quorum : stated? (fillCounts defaults parameters) "zone_quorum_count" uint64 (some 1) =
      stated? parameters "zone_quorum_count" uint64 (some defaults.quorum) := by
    rw [fillCounts, stated?_fill_of_ne (by decide), stated?_fill, uint64_reads _ _ (.refl _)]
  have consecutive :
      stated? (fillCounts defaults parameters) "default_consecutive_count" uint32 (some 1) =
        stated? parameters "default_consecutive_count" uint32 (some defaults.consecutive) := by
    rw [fillCounts, stated?_fill, stated?_fill_of_ne (by decide), uint32_reads _ _ (.refl _)]
  have others {α : Type} {name : String} (read : Reader α) (default : Option α)
      (notQuorum : name ≠ "zone_quorum_count")
      (notConsecutive : name ≠ "default_consecutive_count") :
      stated? (fillCounts defaults parameters) name read default =
        stated? parameters name read default := by
    rw [fillCounts, stated?_fill_of_ne notConsecutive, stated?_fill_of_ne notQuorum]
  rw [TaskParameters.ofJson?_eq_some_iff, TaskParameters.stated_iff, TaskParameters.stated_iff]
  show _ ∧ _ ∧ _ ∧ stated? _ _ _ (some 1) = _ ∧ stated? _ _ _ (some 1) = _ ∧ _ ↔ _
  rw [quorum, consecutive, others _ _ (by decide) (by decide), others _ _ (by decide) (by decide),
    others _ _ (by decide) (by decide), others _ _ (by decide) (by decide)]

/-- The task that a document states: what it gives is read as it is given, and what it leaves out is
    a default. -/
@[mk_iff]
structure Stated (defaults : ProcessorSettings) (newId : Uuid)
    (fields parameters : List (String × Json)) (task : Task) : Prop where
  id : stated? fields "id" Uuid.ofJson? (some newId) = some task.id
  tenant : stated? fields "tenant_id" text none = some task.tenant
  name : stated? fields "name" text (some "") = some task.name
  /-- A document without parameters has those of an empty object. -/
  table : stated? fields "task_parameters" Json.objectFields? (some []) = some parameters
  parameters : task.parameters.Stated defaults parameters

theorem ofJson?_completed {task : Task} (tables : parametersIn? fields = some parameters) :
    Task.ofJson? (.object (completed defaults newId fields parameters)) = some task ↔
      Stated defaults newId fields parameters task := by
  have others {α : Type} {name : String} (read : Reader α) (default : Option α)
      (notId : name ≠ "id") (notTable : name ≠ "task_parameters") :
      stated? (completed defaults newId fields parameters) name read default =
        stated? fields name read default := by
    rw [completed, stated?_setField_of_ne notTable, stated?_fill_of_ne notTable,
      stated?_fill_of_ne notId]
  have id : stated? (completed defaults newId fields parameters) "id" Uuid.ofJson? none =
      stated? fields "id" Uuid.ofJson? (some newId) := by
    rw [completed, stated?_setField_of_ne (by decide), stated?_fill_of_ne (by decide),
      stated?_fill, Uuid.reads newId _ (.refl _)]
  have table : stated? (completed defaults newId fields parameters) "task_parameters"
        TaskParameters.ofJson? none = some task.parameters ↔
      stated? fields "task_parameters" Json.objectFields? (some []) = some parameters ∧
        task.parameters.Stated defaults parameters := by
    rw [completed, stated?_setField filter_fill_ne_nil, stated?_fill,
      stated?_fill_of_ne (by decide), stated?_eq_some_iff, stated?_eq_some_iff,
      ← ofJson?_fillCounts, ← parametersIn?]
    simp only [tables, and_true]
    cases Json.field? "task_parameters" fields <;> rfl
  rw [Task.ofJson?_eq_some_iff, stated_iff, id, table, others _ _ (by decide) (by decide),
    others _ _ (by decide) (by decide)]

theorem givesId_iff : givesId (.object fields) ↔ "id" ∈ fields.map (·.1) := by
  simp [givesId]

theorem ofContent_eq (tables : parametersIn? fields = some parameters) :
    ofContent defaults newId (.object fields) =
      (Task.ofJson? (.object (completed defaults newId fields parameters))).elim (.error .task)
        fun task => .ok ⟨task, !givesId (.object fields)⟩ := by
  simp only [ofContent, complete_eq tables]
  cases Task.ofJson? (.object (completed defaults newId fields parameters)) <;> rfl

theorem ofContent_eq_ok_iff {loaded : LoadedTask}
    (tables : parametersIn? fields = some parameters) :
    ofContent defaults newId (.object fields) = .ok loaded ↔
      Stated defaults newId fields parameters loaded.task ∧
        (loaded.idIsNew ↔ "id" ∉ fields.map (·.1)) := by
  obtain ⟨task, idIsNew⟩ := loaded
  rw [ofContent_eq tables, ← ofJson?_completed tables, ← givesId_iff]
  cases Task.ofJson? (.object (completed defaults newId fields parameters)) with
  | none => simp
  | some read => cases givesId (.object fields) <;> simp [eq_comm]

/-- With an object for the parameters, only what is read can be wrong. -/
theorem ofContent_eq_error {e : TaskFileError} (tables : parametersIn? fields = some parameters)
    (failed : ofContent defaults newId (.object fields) = .error e) : e = .task := by
  rw [ofContent_eq tables] at failed
  cases read : Task.ofJson? (.object (completed defaults newId fields parameters)) with
  | none =>
      rw [read] at failed
      exact (Except.error.inj failed).symm
  | some task =>
      rw [read] at failed
      cases failed

end TaskFile

namespace Document

theorem natBelow_eq_some_iff {bound n : Nat} {json : Json} :
    natBelow bound json = some n ↔ json = .nat n ∧ n < bound := by
  constructor
  · intro read
    unfold natBelow at read
    split at read
    · next i =>
      split at read
      · next fits =>
        obtain rfl := Option.some.inj read
        rw [Json.nat, Json.int, Int.toNat_of_nonneg fits.1]
        exact ⟨rfl, by omega⟩
      · cases read
    · cases read
  · rintro ⟨rfl, below⟩
    exact natBelow_nat below

theorem map_natBelow_eq_some_iff {α : Type} {bound : Nat} {ofNat : Nat → α}
    (injective : ∀ n < bound, ofNat n = ofNat 0 → n = 0) (some : 0 < bound) {json : Json} :
    (natBelow bound json).map ofNat = .some (ofNat 0) ↔ json = .nat 0 := by
  rw [Option.map_eq_some_iff]
  constructor
  · rintro ⟨n, read, zero⟩
    obtain ⟨rfl, below⟩ := natBelow_eq_some_iff.1 read
    rw [injective n below zero]
  · rintro rfl
    exact ⟨0, natBelow_nat some, rfl⟩

theorem uint64_eq_zero_iff {json : Json} : uint64 json = some 0 ↔ json = .nat 0 :=
  map_natBelow_eq_some_iff (fun _ below zero => by
    simpa [UInt64.toNat_ofNat_of_lt' below] using congrArg UInt64.toNat zero) (by decide)

theorem uint32_eq_zero_iff {json : Json} : uint32 json = some 0 ↔ json = .nat 0 :=
  map_natBelow_eq_some_iff (fun _ below zero => by
    simpa [UInt32.toNat_ofNat_of_lt' below] using congrArg UInt32.toNat zero) (by decide)

variable {α : Type} {fields : List (String × Json)} {name : String} {read : Reader α}
  {default value zero : α} {json : Json}

theorem read_of_stated? (stated : stated? fields name read (some default) = some value)
    (here : (name, json) ∈ fields) : read json = some value := by
  rwa [stated?, filter_of_stated? stated here] at stated

theorem eq_zero_iff_of_stated? (stated : stated? fields name read (some default) = some value)
    (other : default ≠ zero) (reads : ∀ {json'}, read json' = some zero ↔ json' = json) :
    value = zero ↔ (name, json) ∈ fields := by
  constructor
  · rintro rfl
    by_cases given : name ∈ fields.map (·.1)
    · obtain ⟨⟨_, json'⟩, here, rfl⟩ := List.mem_map.1 given
      rwa [← reads.1 (read_of_stated? stated here)]
    · rw [stated?_of_missing given] at stated
      exact absurd (Option.some.inj stated) other
  · intro here
    have same := (read_of_stated? stated here).symm.trans (reads.2 rfl)
    exact Option.some.inj same

end Document

theorem Monitor.ofTask_eq_error_iff {task : Task} :
    (∃ e, Monitor.ofTask task = .error e) ↔
      task.parameters.quorum = 0 ∨ task.parameters.consecutive = 0 := by
  rw [← UInt64.toNat_inj, ← UInt32.toNat_inj]
  show _ ↔ task.parameters.quorum.toNat = 0 ∨ task.parameters.consecutive.toNat = 0
  constructor
  · rintro ⟨e, failed⟩
    by_contra positive
    rw [not_or] at positive
    rw [ofTask_eq_initial task (Nat.pos_of_ne_zero positive.1)
      (Nat.pos_of_ne_zero positive.2)] at failed
    cases failed
  · intro zero
    cases started : Monitor.ofTask task with
    | error e => exact ⟨e, rfl⟩
    | ok m =>
        obtain ⟨positive, new, -, -⟩ := ofTask_eq_ok started
        have some : 0 < task.parameters.quorum.toNat :=
          (Quorum.fresh_of_new new).2.1 ▸ m.zones.size_pos
        omega

theorem Settings.counts_of_validate {settings : Settings} (valid : settings.validate = .ok ()) :
    settings.processor.quorum ≠ 0 ∧ settings.processor.consecutive ≠ 0 := by
  rw [validate] at valid
  split at valid
  · cases valid
  · next quorum =>
    split at valid
    · cases valid
    · next consecutive => exact ⟨quorum, consecutive⟩

namespace TaskFile

theorem content_of_toml {path text : String} {json : Json} (toml : extension? path = some "toml")
    (read : (Toml.read? text).map Toml.toJson = some json) : content path text = .ok json := by
  rw [content, toml]
  simp only [read, Option.elim_some]

/-- The law of defaults. A document is loaded as the task that it states: what it gives is read as
    given, also a zero, and what it leaves out is a default. If it is not loaded, then something
    that it gives cannot be read; a count that is null never can. To fill in defaults again,
    whichever, changes nothing. With valid settings, a task that is loaded fails to start only if
    its document gives zero for a count. -/
theorem loaded_with_defaults (path text : String) (settings : Settings) (newId : Uuid)
    {fields parameters : List (String × Json)}
    (document : content path text = .ok (.object fields))
    (tables : parametersIn? fields = some parameters) :
    let outcome := load path text (some settings) newId
    (∀ loaded, outcome = .ok loaded ↔
      Stated settings.processor newId fields parameters loaded.task ∧
        (loaded.idIsNew ↔ "id" ∉ fields.map (·.1))) ∧
    (∀ e, outcome = .error e → e = .task) ∧
    (("zone_quorum_count", .null) ∈ parameters ∨ ("default_consecutive_count", .null) ∈ parameters →
      outcome = .error .task) ∧
    (∃ filled, complete settings.processor newId (.object fields) = .ok filled ∧
      ∀ defaults otherId, complete defaults otherId filled = .ok filled) ∧
    (settings.validate = .ok () → ∀ loaded, outcome = .ok loaded →
      ((∃ e, Monitor.ofTask loaded.task = .error e) ↔
        ("zone_quorum_count", .nat 0) ∈ parameters ∨
          ("default_consecutive_count", .nat 0) ∈ parameters)) := by
  intro outcome
  have read : outcome = ofContent settings.processor newId (.object fields) := by
    simp only [outcome, load, document]
  simp only [read]
  refine ⟨fun loaded => ofContent_eq_ok_iff tables, fun e => ofContent_eq_error tables, ?_,
    ⟨_, complete_eq tables, fun _ _ => complete_completed _ _ _ _ _ _⟩, ?_⟩
  · intro null
    cases given : ofContent settings.processor newId (.object fields) with
    | error e => rw [ofContent_eq_error tables given]
    | ok loaded =>
        obtain ⟨stated, -⟩ := (ofContent_eq_ok_iff tables).1 given
        rcases null with null | null
        · cases read_of_stated? stated.parameters.quorum null
        · cases read_of_stated? stated.parameters.consecutive null
  · intro valid loaded given
    obtain ⟨quorum, consecutive⟩ := Settings.counts_of_validate valid
    obtain ⟨stated, -⟩ := (ofContent_eq_ok_iff tables).1 given
    rw [Monitor.ofTask_eq_error_iff,
      eq_zero_iff_of_stated? stated.parameters.quorum quorum uint64_eq_zero_iff,
      eq_zero_iff_of_stated? stated.parameters.consecutive consecutive uint32_eq_zero_iff]

/-- A quorum of zero is kept in the place of the default of two, and the task fails to start. -/
theorem loaded_with_defaults_zero_quorum :
    let settings : Settings := { processor := ⟨2, 3⟩, discovery := { ports := some {} } }
    let text := "tenant_id = \"t\"\n[task_parameters]\nzone_quorum_count = 0x0"
    let parameters := [("zone_quorum_count", Json.nat 0)]
    let fields := [("tenant_id", .string "t"), ("task_parameters", Json.object parameters)]
    content "task.toml" text = .ok (.object fields) ∧ parametersIn? fields = some parameters ∧
    settings.validate = .ok () ∧
    ∃ loaded, load "task.toml" text (some settings) default = .ok loaded ∧
      loaded.task.id = default ∧ loaded.task.parameters.quorum = 0 ∧
      loaded.task.parameters.consecutive = 3 ∧ ∃ e, Monitor.ofTask loaded.task = .error e := by
  intro settings text parameters fields
  have document : content "task.toml" text = .ok (.object fields) :=
    content_of_toml (by decide +kernel) (by decide +kernel)
  have tables : parametersIn? fields = some parameters := rfl
  obtain ⟨stated, -, -, -, counts⟩ :=
    loaded_with_defaults "task.toml" text settings default document tables
  let task : Task := ⟨default, "t", "", { quorum := 0, consecutive := 3 }⟩
  have given : load "task.toml" text (some settings) default = .ok ⟨task, true⟩ := by
    refine (stated ⟨task, true⟩).2 ⟨⟨rfl, rfl, rfl, rfl, ⟨rfl, rfl, rfl, rfl, rfl, rfl⟩⟩, ?_⟩
    exact iff_of_true rfl (by decide)
  exact ⟨document, tables, rfl, ⟨task, true⟩, given, rfl, rfl, rfl,
    (counts rfl _ given).2 (.inl (.head _))⟩

end TaskFile

end AlertEngine
