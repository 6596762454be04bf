import AlertEngine.Proofs.MonitorRun
import AlertEngine.Registry

/-! # Runs of a registry

A registry is asked one thing after another. A request names one id, and all that it reads and
writes is the monitor under that id. So a run looks, from under an id, like the run on the requests
that name it.
-/

namespace AlertEngine

inductive Request where
  | register (task : Task)
  | remove (id : Uuid)
  | contains (id : Uuid)
  | process (id : Uuid) (sample : Sample)

/-- What comes back; what is announced on a sample is a part of it. -/
inductive Answer where
  | registered (outcome : Except (ConfigError AlertState) Unit)
  | removed (known : Bool)
  | contained (known : Bool)
  | processed (outcome : Except EventError (Option Announcement))

/-- The id that a request names. -/
def Request.id : Request → Uuid
  | .register task => task.id
  | .remove id | .contains id | .process id _ => id

/-- What a request makes of the monitor under its id, if there is one, and the answer to it. -/
def Request.handle [PatternLanguage] (monitor : Option Monitor) :
    Request → Option Monitor × Answer
  | .register task =>
    match Monitor.ofTask task with
    | .ok start => (some start, .registered (.ok ()))
    | .error e => (monitor, .registered (.error e))
  | .remove _ => (none, .removed monitor.isSome)
  | .contains _ => (monitor, .contained monitor.isSome)
  | .process id sample =>
    match monitor with
    | none => (none, .processed (.error (.unknownTask id)))
    | some m => (some (m.after sample), .processed ((m.process sample).2.mapError .ofMonitor))

namespace Registry

/-- The requests that name an id. -/
def requestsFor (id : Uuid) (requests : List Request) : List Request :=
  requests.filter fun request => request.id = id

theorem requestsFor_concat (id : Uuid) (requests : List Request) (request : Request) :
    requestsFor id (requests ++ [request]) =
      requestsFor id requests ++ if request.id = id then [request] else [] := by
  by_cases named : request.id = id <;> simp [requestsFor, named]

variable [PatternLanguage]

def perform (registry : Registry) : Request → Registry × Answer
  | .register task => ((registry.register task).1, .registered (registry.register task).2)
  | .remove id => ((registry.remove id).1, .removed (registry.remove id).2)
  | .contains id => (registry, .contained (registry.contains id))
  | .process id sample =>
    ((registry.process id sample).1, .processed (registry.process id sample).2)

theorem process_of_none {registry : Registry} {id : Uuid}
    (unknown : registry.monitors.get? id = none) (sample : Sample) :
    registry.process id sample = (registry, .error (.unknownTask id)) := by
  simp only [process, unknown]

theorem process_of_some {registry : Registry} {id : Uuid} {m : Monitor}
    (known : registry.monitors.get? id = some m) (sample : Sample) :
    registry.process id sample =
      (⟨registry.monitors.insert id (m.after sample)⟩,
        (m.process sample).2.mapError .ofMonitor) := by
  simp only [process, known, Monitor.after]
  obtain ⟨next, outcome⟩ := m.process sample
  cases outcome <;> rfl

/-- A request reads and writes nothing but the monitor under its id. -/
theorem perform_spec (registry : Registry) (request : Request) :
    (registry.perform request).2 = (request.handle (registry.monitors.get? request.id)).2 ∧
    ∀ id, (registry.perform request).1.monitors.get? id =
      if id = request.id then (request.handle (registry.monitors.get? request.id)).1
      else registry.monitors.get? id := by
  have same : ∀ id other : Uuid, registry.monitors.get? other =
      if other = id then registry.monitors.get? id else registry.monitors.get? other := by
    intro id other
    by_cases here : other = id
    · rw [if_pos here, here]
    · rw [if_neg here]
  cases request with
  | register task =>
      simp only [perform, register, Request.handle, Request.id]
      cases Monitor.ofTask task with
      | ok start => exact ⟨rfl, fun other => Keyed.get?_insert _ _ _ _⟩
      | error e => exact ⟨rfl, same task.id⟩
  | remove id => exact ⟨rfl, fun other => Keyed.get?_erase _ _ _⟩
  | contains id => exact ⟨rfl, same id⟩
  | process id sample =>
      simp only [perform, Request.handle, Request.id]
      cases known : registry.monitors.get? id with
      | none =>
          have unknown := same id
          rw [known] at unknown
          rw [process_of_none known]
          exact ⟨rfl, unknown⟩
      | some m =>
          rw [process_of_some known]
          exact ⟨rfl, fun other => Keyed.get?_insert _ _ _ _⟩

def after (registry : Registry) (request : Request) : Registry :=
  (registry.perform request).1

def run (registry : Registry) (requests : List Request) : Registry :=
  requests.foldl after registry

/-- The answers to the requests of a run, in order. -/
def answers (registry : Registry) (requests : List Request) : List Answer :=
  Run.collect after (fun r request => some (r.perform request).2) registry requests

/-- The answers to those requests of a run that name an id. -/
def answersFor (id : Uuid) (registry : Registry) (requests : List Request) : List Answer :=
  Run.collect after
    (fun r request => if request.id = id then some (r.perform request).2 else none)
    registry requests

theorem run_concat (registry : Registry) (requests : List Request) (request : Request) :
    registry.run (requests ++ [request]) = (registry.run requests).after request :=
  List.foldl_concat after registry request requests

theorem get?_after_of_ne {registry : Registry} {request : Request} {id : Uuid}
    (other : request.id ≠ id) :
    (registry.after request).monitors.get? id = registry.monitors.get? id := by
  rw [after, (registry.perform_spec request).2, if_neg other.symm]

theorem get?_run_requestsFor (registry : Registry) (requests : List Request) (id : Uuid) :
    (registry.run (requestsFor id requests)).monitors.get? id =
      (registry.run requests).monitors.get? id := by
  induction requests using List.reverseRecOn with
  | nil => rfl
  | append_singleton requests request ih =>
      rw [run_concat, requestsFor_concat]
      by_cases named : request.id = id
      · subst named
        rw [if_pos rfl, run_concat, after, after, (perform_spec _ request).2,
          (perform_spec _ request).2, ih]
      · rw [if_neg named, List.append_nil, ih, get?_after_of_ne named]

theorem answers_concat (registry : Registry) (requests : List Request) (request : Request) :
    registry.answers (requests ++ [request]) =
      registry.answers requests ++ [((registry.run requests).perform request).2] :=
  Run.collect_concat after _ registry requests request

theorem answersFor_concat (id : Uuid) (registry : Registry) (requests : List Request)
    (request : Request) :
    answersFor id registry (requests ++ [request]) = answersFor id registry requests ++
      if request.id = id then [((registry.run requests).perform request).2] else [] := by
  rw [answersFor, Run.collect_concat]
  split <;> rfl

theorem answers_requestsFor (registry : Registry) (requests : List Request) (id : Uuid) :
    registry.answers (requestsFor id requests) = answersFor id registry requests := by
  induction requests using List.reverseRecOn with
  | nil => rfl
  | append_singleton requests request ih =>
      rw [requestsFor_concat, answersFor_concat]
      by_cases named : request.id = id
      · subst named
        rw [if_pos rfl, if_pos rfl, answers_concat, ih, (perform_spec _ request).1,
          (perform_spec _ request).1, get?_run_requestsFor]
      · rw [if_neg named, if_neg named, List.append_nil, List.append_nil, ih]

end Registry

end AlertEngine
