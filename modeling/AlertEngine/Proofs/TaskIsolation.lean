import AlertEngine.Pattern.Reader
import AlertEngine.Proofs.RegistryRun

/-! # Task isolation

Tasks share a registry and nothing else. What is registered under an id is the monitor of the
latest registration that worked, fed with the samples for that id since, and nothing if it has been
removed. A registration that fails does not count as one.
-/

namespace AlertEngine

namespace Request

/-- A request that puts another monitor under an id, or takes away what is there. -/
def Disturbs (id : Uuid) : Request → Prop
  | .register task => task.id = id ∧ ∃ start, Monitor.ofTask task = .ok start
  | .remove other => other = id
  | .contains _ | .process _ _ => False

def sampleFor? (id : Uuid) : Request → Option Sample
  | .process other sample => if other = id then some sample else none
  | _ => none

theorem sampleFor?_of_ne {request : Request} {id : Uuid} (other : request.id ≠ id) :
    request.sampleFor? id = none := by
  cases request with
  | process named sample => exact if_neg other
  | register | remove | contains => rfl

end Request

namespace Registry

/-- The latest registration under an id that worked has started a monitor, and none of the requests
    since then has removed it. -/
def InForce (id : Uuid) (requests : List Request) (start : Monitor) (since : List Request) : Prop :=
  ∃ earlier task, requests = earlier ++ .register task :: since ∧ task.id = id ∧
    Monitor.ofTask task = .ok start ∧ ∀ request ∈ since, ¬request.Disturbs id

/-- The samples for an id, in order. -/
def samplesFor (id : Uuid) (requests : List Request) : List Sample :=
  requests.filterMap (Request.sampleFor? id)

theorem samplesFor_concat (id : Uuid) (requests : List Request) (request : Request) :
    samplesFor id (requests ++ [request]) =
      samplesFor id requests ++ (request.sampleFor? id).toList := by
  rw [samplesFor, List.filterMap_append, ← samplesFor]
  cases h : request.sampleFor? id <;> simp [h]

theorem InForce.concat {id : Uuid} {requests since : List Request} {start : Monitor}
    {request : Request} (inForce : InForce id requests start since)
    (undisturbed : ¬request.Disturbs id) :
    InForce id (requests ++ [request]) start (since ++ [request]) := by
  obtain ⟨earlier, task, rfl, named, started, kept⟩ := inForce
  refine ⟨earlier, task, ?_, named, started, ?_⟩
  · rw [List.append_assoc, List.cons_append]
  · rw [List.forall_mem_append, List.forall_mem_singleton]
    exact ⟨kept, undisturbed⟩

section Language

variable [PatternLanguage]

/-- Other requests feed the monitor under an id, if there is one, with the samples for it. -/
theorem get?_after_of_undisturbed {id : Uuid} {request : Request} (registry : Registry)
    (undisturbed : ¬request.Disturbs id) :
    (registry.after request).monitors.get? id =
      (registry.monitors.get? id).map fun m => m.run (request.sampleFor? id).toList := by
  by_cases named : request.id = id
  · subst named
    rw [after, (perform_spec registry request).2, if_pos rfl]
    generalize registry.monitors.get? request.id = monitor
    cases request with
    | register task =>
        cases started : Monitor.ofTask task with
        | ok start => exact absurd ⟨rfl, start, started⟩ undisturbed
        | error e =>
            simp only [Request.handle, started]
            exact Option.map_id'.symm
    | remove id => exact absurd rfl undisturbed
    | contains id => exact Option.map_id'.symm
    | process id sample =>
        simp only [Request.handle, Request.sampleFor?, Request.id, if_true]
        cases monitor <;> rfl
  · rw [get?_after_of_ne named, Request.sampleFor?_of_ne named]
    exact Option.map_id'.symm

theorem get?_run_of_undisturbed {id : Uuid} {since : List Request} (registry : Registry)
    (undisturbed : ∀ request ∈ since, ¬request.Disturbs id) :
    (registry.run since).monitors.get? id =
      (registry.monitors.get? id).map fun m => m.run (samplesFor id since) := by
  induction since using List.reverseRecOn with
  | nil => exact Option.map_id'.symm
  | append_singleton since request ih =>
      rw [List.forall_mem_append, List.forall_mem_singleton] at undisturbed
      rw [run_concat, get?_after_of_undisturbed _ undisturbed.2, ih undisturbed.1, Option.map_map,
        samplesFor_concat]
      simp only [Function.comp_def, Monitor.run_append]

theorem get?_after_register {task : Task} {start : Monitor} (registry : Registry)
    (started : Monitor.ofTask task = .ok start) :
    (registry.after (.register task)).monitors.get? task.id = some start := by
  rw [after, (perform_spec _ _).2, Request.id, if_pos rfl]
  simp only [Request.handle, started]

theorem get?_after_remove (registry : Registry) (id : Uuid) :
    (registry.after (.remove id)).monitors.get? id = none := by
  rw [after, (perform_spec _ _).2, Request.id, if_pos rfl]
  rfl

theorem InForce.get?_run {id : Uuid} {requests since : List Request} {start : Monitor}
    (inForce : InForce id requests start since) (registry : Registry) :
    (registry.run requests).monitors.get? id = some (start.run (samplesFor id since)) := by
  obtain ⟨earlier, task, rfl, rfl, started, kept⟩ := inForce
  rw [run, List.foldl_append, List.foldl_cons, ← run, ← run, get?_run_of_undisturbed _ kept,
    get?_after_register _ started, Option.map_some]

theorem get?_run_eq_some_iff {id : Uuid} {requests : List Request} {m : Monitor} :
    (empty.run requests).monitors.get? id = some m ↔
      ∃ start since, InForce id requests start since ∧ m = start.run (samplesFor id since) := by
  constructor
  · intro known
    induction requests using List.reverseRecOn generalizing m with
    | nil => cases known
    | append_singleton requests request ih =>
        rw [run_concat] at known
        by_cases disturbed : request.Disturbs id
        · cases request with
          | register task =>
              obtain ⟨rfl, start, started⟩ := disturbed
              rw [get?_after_register _ started, Option.some_inj] at known
              exact ⟨start, [], ⟨requests, task, rfl, rfl, started, nofun⟩, known.symm⟩
          | remove other =>
              obtain rfl : other = id := disturbed
              rw [get?_after_remove] at known
              cases known
          | contains | process => exact disturbed.elim
        · rw [get?_after_of_undisturbed _ disturbed, Option.map_eq_some_iff] at known
          obtain ⟨before, known, rfl⟩ := known
          obtain ⟨start, since, inForce, rfl⟩ := ih known
          refine ⟨start, since ++ [request], inForce.concat disturbed, ?_⟩
          rw [samplesFor_concat, Monitor.run_append]
  · rintro ⟨start, since, inForce, rfl⟩
    exact inForce.get?_run empty

/-- Task isolation. The answers to the requests that name an id are the same without all others. A
    task that is in force answers as a monitor of its own that is fed with the samples since its
    registration; an id under which nothing is in force is unknown. A registration that fails
    changes nothing, and the ids that are listed are those under which something is in force. -/
theorem isolated_tasks (requests : List Request) :
    let now := empty.run requests
    let known := fun id => ∃ start since, InForce id requests start since
    (∀ id, empty.answersFor id requests = empty.answers (requestsFor id requests)) ∧
    (∀ id start since, InForce id requests start since →
      now.monitors.get? id = some (start.run (samplesFor id since)) ∧
      ∀ sample, (now.process id sample).2 =
        ((start.run (samplesFor id since)).process sample).2.mapError .ofMonitor) ∧
    (∀ id, ¬known id → ∀ sample, now.process id sample = (now, .error (.unknownTask id))) ∧
    (∀ id, (now.contains id ↔ known id) ∧ ((now.remove id).2 ↔ known id) ∧
      (id ∈ now.ids ↔ known id)) ∧
    now.ids.Nodup ∧
    ∀ task, (now.register task).2 = (Monitor.ofTask task).map (fun _ => ()) ∧
      ∀ e, (now.register task).2 = .error e → (now.register task).1 = now := by
  intro now known
  have known_iff : ∀ id, (now.monitors.get? id).isSome ↔ known id := by
    intro id
    simp only [Option.isSome_iff_exists, now, get?_run_eq_some_iff, known]
    constructor
    · rintro ⟨m, start, since, inForce, rfl⟩
      exact ⟨start, since, inForce⟩
    · rintro ⟨start, since, inForce⟩
      exact ⟨_, start, since, inForce, rfl⟩
  refine ⟨fun id => (answers_requestsFor empty requests id).symm, fun id start since inForce => ?_,
    fun id unknown sample => ?_, fun id => ⟨known_iff id, known_iff id, ?_⟩,
    Keyed.nodup_keys _, fun task => ?_⟩
  · have registered := inForce.get?_run empty
    refine ⟨registered, fun sample => ?_⟩
    rw [process_of_some registered]
  · rw [← known_iff, Option.not_isSome_iff_eq_none] at unknown
    exact process_of_none unknown sample
  · rw [ids, Keyed.mem_keys_iff]
    exact known_iff id
  · rw [register]
    cases Monitor.ofTask task with
    | ok start =>
        refine ⟨rfl, fun e failed => ?_⟩
        cases failed
    | error e => exact ⟨rfl, fun _ _ => rfl⟩

end Language

/-- A registration that fails and samples for an id that is not known leave no trace. -/
theorem isolated_tasks_failed_registration :
    let task : Task := default
    let broken : Task := { task with parameters := { quorum := 0 } }
    let other : Uuid := ⟨List.replicate 32 1, rfl⟩
    let sample := Sample.new default "west"
    let requests : List Request :=
      [.register task, .process task.id sample, .register broken, .process other sample]
    ∃ start, Monitor.ofTask task = .ok start ∧
      (empty.run requests).monitors.get? task.id = some (start.run [sample]) ∧
      (empty.run requests).process other sample =
        (empty.run requests, .error (.unknownTask other)) := by
  intro task broken other sample requests
  let start : Monitor := .initial task (by decide) (by decide)
  have started : Monitor.ofTask task = .ok start := Monitor.ofTask_eq_initial task _ _
  obtain ⟨-, inForce, unknown, known, -⟩ := isolated_tasks requests
  have undisturbed : ∀ request ∈ requests.tail, ¬request.Disturbs task.id := by
    simp only [requests, List.tail_cons, List.forall_mem_cons]
    exact ⟨nofun, (fun ⟨_, _, accepted⟩ => nomatch accepted), nofun, nofun⟩
  refine ⟨start, started, ?_, unknown other ?_ sample⟩
  · exact (inForce task.id start requests.tail ⟨[], task, rfl, rfl, started, undisturbed⟩).1
  · rw [← (known other).1]
    decide +kernel

end Registry

end AlertEngine
