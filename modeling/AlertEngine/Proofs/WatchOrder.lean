import AlertEngine.Proofs.WatcherRun
import AlertEngine.Routing.WatchSteps
import Mathlib.Logic.Basic

/-! # The order of a watch

However the steps of a watch come about, the events of the calls that it makes are taken once each
and in the order in which they were sent, and a call is over with that before the next one is made.
So a watch that was given its time has done what the script says, and nothing else.
-/

namespace AlertEngine

/-- The first `n` calls of a source with a script; beyond the script it is quiet. -/
def attempts (script : List WatchAttempt) (n : Nat) : List WatchAttempt :=
  (List.range n).map fun i => script.getD i .quiet

theorem attempts_succ (script : List WatchAttempt) (n : Nat) :
    attempts script (n + 1) = attempts script n ++ [script.getD n .quiet] := by
  rw [attempts, List.range_succ, List.map_append]
  rfl

theorem attempts_cons_succ (first : WatchAttempt) (rest : List WatchAttempt) (n : Nat) :
    attempts (first :: rest) (n + 1) = first :: attempts rest n := by
  rw [attempts, List.range_succ_eq_map, List.map_cons, List.map_map]
  rfl

theorem headD_drop (script : List WatchAttempt) (n : Nat) :
    (script.drop n).headD .quiet = script.getD n .quiet := by
  rw [List.headD_eq_head?_getD, List.head?_drop, List.getD_eq_getElem?_getD]

/-- The events that some calls send, in order. -/
def sentBy (calls : List WatchAttempt) : List EndpointEvent :=
  calls.flatMap (·.events)

theorem sentBy_concat (calls : List WatchAttempt) (call : WatchAttempt) :
    sentBy (calls ++ [call]) = sentBy calls ++ call.events := by
  rw [sentBy, List.flatMap_append, List.flatMap_singleton]
  rfl

/-- The engines once some events have been applied. -/
def enginesAfter (engines : List Engine) (events : List EndpointEvent) : List Engine :=
  events.getLast?.elim engines EndpointEvent.engines

theorem enginesAfter_append (engines : List Engine) (front back : List EndpointEvent) :
    enginesAfter engines (front ++ back) = enginesAfter (enginesAfter engines front) back := by
  rw [enginesAfter, List.getLast?_append]
  cases last : back.getLast? with
  | none => simp [enginesAfter, last]
  | some event => simp [enginesAfter, last]

namespace ServiceWatcher

theorem foldl_handle (w : ServiceWatcher) (events : List EndpointEvent) :
    events.foldl handle w = { w with engines := enginesAfter w.engines events } := by
  induction events generalizing w with
  | nil => rfl
  | cons event rest ih =>
      have split := enginesAfter_append w.engines [event] rest
      rw [List.foldl_cons, ih, List.singleton_append.symm, split]
      rfl

/-- `m` calls of a source fail and the next one does not. -/
structure Stretch (script : List WatchAttempt) (m : Nat) : Prop where
  failed : ∀ call ∈ attempts script m, call.finish = .failed
  ends : (script.getD m .quiet).finish ≠ .failed

theorem follow_eq {script : List WatchAttempt} {m : Nat} (stretch : Stretch script m)
    (w : ServiceWatcher) :
    w.follow script = { w with
      engines := enginesAfter w.engines (sentBy (attempts script (m + 1)))
      script := script.drop (m + 1)
      calls := w.calls + (m + 1) } := by
  induction script generalizing w m with
  | nil =>
      cases m with
      | zero => rfl
      | succ m =>
          have first : .quiet ∈ attempts [] (m + 1) :=
            List.mem_map.2 ⟨0, List.mem_range.2 m.succ_pos, rfl⟩
          cases stretch.failed .quiet first
  | cons first rest ih =>
      rw [follow]
      cases m with
      | zero =>
          have ends : first.finish ≠ .failed := stretch.ends
          have only : sentBy (attempts (first :: rest) 1) = first.events := by
            simp [sentBy, attempts]
          rw [only]
          cases finish : first.finish with
          | failed => exact absurd finish ends
          | done => simp [attempt, foldl_handle]
          | silent => simp [attempt, foldl_handle]
      | succ m =>
          have all := stretch.failed
          rw [attempts_cons_succ, List.forall_mem_cons] at all
          have shorter : Stretch rest m := ⟨all.2, stretch.ends⟩
          rw [attempts_cons_succ, sentBy, List.flatMap_cons, enginesAfter_append]
          simp only [all.1, ih shorter, attempt, foldl_handle, List.drop_succ_cons]
          congr 1
          omega

end ServiceWatcher

namespace Watch

open ServiceWatcher (Stretch Turn)

/-- What has been sent or will be sent in the present call and is not yet taken. -/
def waiting (w : Watch) : List EndpointEvent :=
  match w.phase with
  | .listening unsent _ => w.queue ++ unsent
  | .draining _ => w.queue
  | .asking | .pausing | .ended => []

/-- How the first `n` calls of a watch have ended when it stands in a phase. -/
def Made (script : List WatchAttempt) (n : Nat) : WatchPhase → Prop
  | .asking | .pausing => ∀ call ∈ attempts script n, call.finish = .failed
  | .listening _ finish => ∃ m, n = m + 1 ∧
      (∀ call ∈ attempts script m, call.finish = .failed) ∧ (script.getD m .quiet).finish = finish
  | .draining finish => ∃ m, n = m + 1 ∧
      (∀ call ∈ attempts script m, call.finish = .failed) ∧
      (script.getD m .quiet).finish = finish ∧ finish ≠ .silent
  | .ended => ∃ m, n = m + 1 ∧
      (∀ call ∈ attempts script m, call.finish = .failed) ∧ (script.getD m .quiet).finish = .done

/-- A watch that has made `n` calls since its start and has heard some events in them. -/
structure Follows (start : Watch) (heard : List EndpointEvent) (n : Nat) (w : Watch) : Prop where
  seed : w.seed = start.seed
  running : w.running = true
  told : w.told = false
  script : w.script = start.script.drop n
  calls : w.calls = start.calls + n
  engines : w.engines = enginesAfter start.engines heard
  inOrder : heard ++ w.waiting = sentBy (attempts start.script n)
  made : Made start.script n w.phase

variable {start w next : Watch} {heard : List EndpointEvent} {event : Option EndpointEvent}
  {n : Nat}

theorem follows_begun (start : Watch) : Follows start [] 0 start.begun :=
  ⟨rfl, rfl, rfl, rfl, rfl, rfl, rfl, nofun⟩

theorem Follows.toServiceWatcher_eq (follows : Follows start heard n w) :
    w.toServiceWatcher =
      ⟨start.seed, enginesAfter start.engines heard, true, start.script.drop n,
        start.calls + n⟩ := by
  rw [← follows.seed, ← follows.engines, ← follows.running, ← follows.script, ← follows.calls]

theorem Follows.step (follows : Follows start heard n w) (step : Step w event next) :
    ∃ n', Follows start (heard ++ event.toList) n' next := by
  obtain ⟨seed, running, told, script, calls, engines, inOrder, made⟩ := follows
  have unheard : heard ++ (none : Option EndpointEvent).toList = heard := List.append_nil heard
  cases step with
  | ask phase here =>
      rw [phase] at made
      rw [script, headD_drop] at here
      rw [waiting, phase, List.append_nil] at inOrder
      rw [unheard]
      refine ⟨n + 1, seed, running, told, ?_, ?_, engines, ?_, n, rfl, made, congrArg _ here⟩
      · rw [script, List.tail_drop]
      · rw [calls, Nat.add_assoc]
      · rw [attempts_succ, sentBy_concat, here, ← inOrder]
        rfl
  | send phase fits =>
      rw [phase] at made
      rw [unheard]
      refine ⟨n, seed, running, told, script, calls, engines, ?_, made⟩
      rw [← inOrder]
      simp [waiting, phase]
  | receive phase waits =>
      refine ⟨n, seed, running, told, script, calls, ?_, ?_, made⟩
      · rw [enginesAfter_append]
        rfl
      · rw [← inOrder]
        simp [waiting, phase, waits]
  | finish phase ends =>
      rw [phase] at made
      obtain ⟨m, count, failed, last⟩ := made
      rw [unheard]
      refine ⟨n, seed, running, told, script, calls, engines, ?_, m, count, failed, last, ends⟩
      rw [← inOrder]
      simp [waiting, phase]
  | drain phase waits =>
      refine ⟨n, seed, running, told, script, calls, ?_, ?_, made⟩
      · rw [enginesAfter_append]
        rfl
      · rw [← inOrder]
        simp [waiting, phase, waits]
  | pause phase empty =>
      rw [phase] at made
      obtain ⟨m, rfl, failed, last, -⟩ := made
      rw [unheard]
      refine ⟨m + 1, seed, running, told, script, calls, engines, ?_, ?_⟩
      · rw [← inOrder]
        simp [waiting, phase, empty]
      · intro call made
        rw [attempts_succ, List.mem_append, List.mem_singleton] at made
        cases made with
        | inl earlier => exact failed call earlier
        | inr latest => rw [latest, last]
  | close phase empty =>
      rw [phase] at made
      obtain ⟨m, count, failed, last, -⟩ := made
      rw [unheard]
      refine ⟨n, seed, running, told, script, calls, engines, ?_, m, count, failed, last⟩
      rw [← inOrder]
      simp [waiting, phase, empty]
  | resume phase =>
      rw [phase] at made
      rw [unheard]
      refine ⟨n, seed, running, told, script, calls, engines, ?_, made⟩
      rw [← inOrder]
      simp [waiting, phase]
  | leaveCall phase left =>
      rw [told] at left
      cases left
  | leavePause phase left =>
      rw [told] at left
      cases left

theorem follows_of_steps (steps : Steps start.begun heard w) :
    ∃ n, Follows start heard n w := by
  induction steps with
  | refl => exact ⟨0, follows_begun start⟩
  | step _ step ih =>
      obtain ⟨n, follows⟩ := ih
      exact follows.step step

/-- A watch that has nothing to do: it is over, or its source is silent. -/
def Still (w : Watch) : Prop :=
  w.phase = .ended ∨ w.phase = .listening [] .silent ∧ w.queue = []

/-- A watch at rest has made all calls of a stretch, and has taken everything. -/
theorem Follows.of_atRest (follows : Follows start heard n w) (rests : w.AtRest) :
    w.Still ∧ w.waiting = [] ∧ ∃ m, n = m + 1 ∧ Stretch start.script m := by
  have made := follows.made
  cases phase : w.phase with
  | asking => exact absurd (.ask phase rfl) (rests _ _)
  | listening unsent finish =>
      rw [phase] at made
      obtain ⟨m, count, failed, last⟩ := made
      cases waits : w.queue with
      | cons event queue => exact absurd (.receive phase waits) (rests _ _)
      | nil =>
          cases unsent with
          | cons event unsent =>
              have fits : w.queue.length < room := by
                rw [waits]
                exact Nat.succ_pos 15
              exact absurd (.send phase fits) (rests _ _)
          | nil =>
              by_cases ends : finish = .silent
              · subst ends
                refine ⟨.inr ⟨phase, waits⟩, by simp [waiting, phase, waits], m, count, failed, ?_⟩
                rw [last]
                nofun
              · exact absurd (.finish phase ends) (rests _ _)
  | draining finish =>
      rw [phase] at made
      obtain ⟨m, count, failed, last, ends⟩ := made
      cases waits : w.queue with
      | cons event queue => exact absurd (.drain phase waits) (rests _ _)
      | nil =>
          cases finish with
          | failed => exact absurd (.pause phase waits) (rests _ _)
          | done => exact absurd (.close phase waits) (rests _ _)
          | silent => exact absurd rfl ends
  | pausing => exact absurd (.resume phase) (rests _ _)
  | ended =>
      rw [phase] at made
      obtain ⟨m, count, failed, last⟩ := made
      refine ⟨.inl phase, by rw [waiting, phase], m, count, failed, ?_⟩
      rw [last]
      nofun

/-- More than the steps that the calls of a script can take, from before they are made. -/
def cost : List WatchAttempt → Nat
  | [] => 0
  | call :: rest => 2 * call.events.length + 4 + cost rest

/-- More than the steps that a call can take once it has sent everything. -/
def endCost : WatchEnd → Nat
  | .silent => 1
  | .failed | .done => 5

/-- A bound on the steps that are left. An event that is not sent yet counts twice, because it is
    sent and then taken. -/
def stepsLeft (w : Watch) : Nat :=
  cost w.script +
    match w.phase with
    | .asking => 2
    | .listening unsent finish => 2 * unsent.length + w.queue.length + endCost finish
    | .draining _ => w.queue.length + 4
    | .pausing => 3
    | .ended => 0

theorem Step.stepsLeft_lt (step : Step w event next) : next.stepsLeft < w.stepsLeft := by
  cases step with
  | ask phase here =>
      subst here
      simp only [stepsLeft, phase]
      cases w.script with
      | nil => decide
      | cons call rest =>
          simp only [List.headD_cons, List.tail_cons, cost, List.length_nil]
          cases call.finish <;> simp only [endCost] <;> omega
  | send phase fits =>
      simp only [stepsLeft, phase, List.length_cons, List.length_append, List.length_nil]
      omega
  | receive phase waits =>
      simp only [stepsLeft, phase, waits, List.length_cons]
      omega
  | @finish finish phase ends =>
      simp only [stepsLeft, phase, List.length_nil]
      cases finish with
      | silent => exact absurd rfl ends
      | failed => simp only [endCost]; omega
      | done => simp only [endCost]; omega
  | drain phase waits =>
      simp only [stepsLeft, phase, waits, List.length_cons]
      omega
  | pause phase empty =>
      simp only [stepsLeft, phase]
      omega
  | close phase empty =>
      simp only [stepsLeft, phase]
      omega
  | resume phase =>
      simp only [stepsLeft, phase]
      omega
  | @leaveCall unsent finish phase told =>
      simp only [stepsLeft, phase]
      cases finish <;> simp only [endCost] <;> omega
  | leavePause phase told =>
      simp only [stepsLeft, phase]
      omega

/-- A watch comes to rest whatever steps it takes, since it cannot go on forever. -/
theorem exists_atRest {start w : Watch} {heard : List EndpointEvent} (steps : Steps start heard w) :
    ∃ all last, Steps start all last ∧ last.AtRest := by
  by_cases rests : w.AtRest
  · exact ⟨heard, w, steps, rests⟩
  · simp only [AtRest, not_forall, not_not] at rests
    obtain ⟨event, next, step⟩ := rests
    exact exists_atRest (steps.step step)
termination_by w.stepsLeft
decreasing_by exact step.stepsLeft_lt

end Watch

end AlertEngine
