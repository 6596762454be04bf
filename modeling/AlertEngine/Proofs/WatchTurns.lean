import AlertEngine.Proofs.WatchOrder
import Mathlib.Data.List.Induction

/-! # Turns of a watch

A watcher is started, stopped and handed events in any order, and is given its time at every turn.
Whatever its watches do meanwhile, in the end it is the watcher that a summary of each turn says.
-/

namespace AlertEngine

open ServiceWatcher (Stretch Turn)

theorem ServiceWatcher.run_concat (w : ServiceWatcher) (turns : List Turn) (turn : Turn) :
    w.run (turns ++ [turn]) = (w.run turns).turn turn :=
  List.foldl_append

namespace Watch

/-- A turn, and the events that are applied in it. A start leads to a watch that is at rest, and a
    stop waits until the watch is over. -/
inductive Turned (w : Watch) : Turn → List EndpointEvent → Watch → Prop where
  | event (event : EndpointEvent) :
      Turned w (.event event) [event] { w with engines := event.engines }
  | start {heard : List EndpointEvent} {last : Watch} (free : w.running = false)
      (steps : Steps w.begun heard last) (rests : last.AtRest) : Turned w .start heard last
  | startHeld (held : w.running = true) : Turned w .start [] w
  | stop {heard : List EndpointEvent} {last : Watch} (held : w.running = true)
      (steps : Steps { w with told := true } heard last) (ended : last.phase = .ended) :
      Turned w .stop heard { last with running := false }
  | stopFree (free : w.running = false) : Turned w .stop [] w

/-- Any number of turns, and the events that are applied in them. -/
inductive Turns (start : Watch) : List Turn → List EndpointEvent → Watch → Prop where
  | refl : Turns start [] [] start
  | turn {turns : List Turn} {heard more : List EndpointEvent} {w next : Watch} {turn : Turn}
      (reached : Turns start turns heard w) (turned : Turned w turn more next) :
      Turns start (turns ++ [turn]) (heard ++ more) next

variable {start w next : Watch} {heard : List EndpointEvent} {turns : List Turn}

/-- A watch that is still can only leave, if it is told to. -/
theorem Still.step {event : Option EndpointEvent} (still : w.Still) (step : Step w event next) :
    event = none ∧ next.toServiceWatcher = w.toServiceWatcher ∧ next.Still := by
  cases step with
  | leaveCall => exact ⟨rfl, rfl, .inl rfl⟩
  | leavePause => exact ⟨rfl, rfl, .inl rfl⟩
  | ask phase => simp [Still, phase] at still
  | send phase => simp [Still, phase] at still
  | receive phase waits => simp [Still, waits, phase] at still
  | finish phase ends => simp [Still, phase, ends] at still
  | drain phase => simp [Still, phase] at still
  | pause phase => simp [Still, phase] at still
  | close phase => simp [Still, phase] at still
  | resume phase => simp [Still, phase] at still

theorem Still.steps (still : start.Still) (steps : Steps start heard w) :
    heard = [] ∧ w.toServiceWatcher = start.toServiceWatcher ∧ w.Still := by
  induction steps with
  | refl => exact ⟨rfl, rfl, still⟩
  | step _ step ih =>
      obtain ⟨rfl, same, still⟩ := ih
      obtain ⟨rfl, kept, still⟩ := still.step step
      exact ⟨rfl, kept.trans same, still⟩

/-- What a start comes to: the calls of one stretch, with nothing left over. -/
theorem Turned.of_start (free : w.running = false) (turned : Turned w .start heard next) :
    next.Still ∧ ∃ m, Stretch w.script m ∧ Follows w heard (m + 1) next ∧
      heard = sentBy (attempts w.script (m + 1)) := by
  cases turned with
  | start _ steps rests =>
      obtain ⟨n, follows⟩ := follows_of_steps steps
      obtain ⟨still, taken, m, rfl, stretch⟩ := follows.of_atRest rests
      refine ⟨still, m, stretch, follows, ?_⟩
      rw [← follows.inOrder, taken, List.append_nil]
  | startHeld held =>
      rw [free] at held
      cases held

theorem Turned.of_startHeld (held : w.running = true) (turned : Turned w .start heard next) :
    heard = [] ∧ next = w := by
  cases turned with
  | start free =>
      rw [held] at free
      cases free
  | startHeld => exact ⟨rfl, rfl⟩

theorem Turned.of_stop (still : w.running = true → w.Still) (turned : Turned w .stop heard next) :
    heard = [] ∧ next.toServiceWatcher = w.toServiceWatcher.stop := by
  cases turned with
  | stop held steps =>
      have told : ({ w with told := true } : Watch).Still := still held
      obtain ⟨rfl, same, -⟩ := told.steps steps
      exact ⟨rfl, congrArg ServiceWatcher.stop same⟩
  | stopFree free =>
      refine ⟨rfl, ?_⟩
      rw [ServiceWatcher.stop, ← free]

theorem Turned.of_event {event : EndpointEvent} (turned : Turned w (.event event) heard next) :
    heard = [event] ∧ next.toServiceWatcher = w.toServiceWatcher.handle event := by
  cases turned with
  | event => exact ⟨rfl, rfl⟩

theorem exists_turned (still : w.running = true → w.Still) (turn : Turn) :
    ∃ heard next, Turned w turn heard next := by
  cases turn with
  | event event => exact ⟨_, _, .event event⟩
  | start =>
      cases running : w.running with
      | false =>
          obtain ⟨heard, last, steps, rests⟩ := exists_atRest (.refl : Steps w.begun [] w.begun)
          exact ⟨heard, last, .start running steps rests⟩
      | true => exact ⟨[], w, .startHeld running⟩
  | stop =>
      cases running : w.running with
      | false => exact ⟨[], w, .stopFree running⟩
      | true =>
          cases still running with
          | inl ended => exact ⟨_, _, .stop running .refl ended⟩
          | inr silent => exact ⟨_, _, .stop running (.step .refl (.leaveCall silent.1 rfl)) rfl⟩

/-- A watcher that has been through some turns and has heard some events in them. -/
structure Through (seed : UInt32) (script : List WatchAttempt) (turns : List Turn)
    (heard : List EndpointEvent) (w : Watch) : Prop where
  watcher : w.toServiceWatcher = (ServiceWatcher.new seed script).run turns
  engines : w.engines = enginesAfter [] heard
  script : w.script = script.drop w.calls
  still : w.running = true → w.Still

section Runs

variable {seed : UInt32} {script : List WatchAttempt} {more : List EndpointEvent} {turn : Turn}

theorem through_idle (seed : UInt32) (script : List WatchAttempt) :
    Through seed script [] [] (idle seed script) :=
  ⟨rfl, rfl, rfl, nofun⟩

theorem Through.turned (through : Through seed script turns heard w)
    (turned : Turned w turn more next) :
    Through seed script (turns ++ [turn]) (heard ++ more) next := by
  have summary (same : next.toServiceWatcher = w.toServiceWatcher.turn turn) :
      next.toServiceWatcher = (ServiceWatcher.new seed script).run (turns ++ [turn]) := by
    rw [ServiceWatcher.run_concat, ← through.watcher, same]
  cases turn with
  | event event =>
      cases turned with
      | event =>
          refine ⟨summary rfl, ?_, through.script, through.still⟩
          rw [enginesAfter_append]
          rfl
  | start =>
      cases running : w.running with
      | false =>
          obtain ⟨still, m, stretch, follows, heard⟩ := turned.of_start running
          refine ⟨summary ?_, ?_, ?_, fun _ => still⟩
          · rw [follows.toServiceWatcher_eq, heard]
            simp [ServiceWatcher.turn, ServiceWatcher.start, running,
              ServiceWatcher.follow_eq stretch]
          · rw [follows.engines, through.engines, enginesAfter_append]
          · rw [follows.script, follows.calls, through.script, List.drop_drop]
      | true =>
          obtain ⟨rfl, rfl⟩ := turned.of_startHeld running
          refine ⟨summary ?_, ?_, through.script, through.still⟩
          · simp [ServiceWatcher.turn, ServiceWatcher.start, running]
          · rw [List.append_nil, through.engines]
  | stop =>
      obtain ⟨rfl, stopped⟩ := turned.of_stop through.still
      refine ⟨summary stopped, ?_, ?_, ?_⟩
      · rw [stopped, List.append_nil]
        exact through.engines
      · rw [stopped]
        exact through.script
      · rw [stopped]
        intro running
        cases running

theorem through_of_turns (reached : Turns (idle seed script) turns heard w) :
    Through seed script turns heard w := by
  induction reached with
  | refl => exact through_idle seed script
  | turn _ turned ih => exact ih.turned turned

theorem exists_turns (seed : UInt32) (script : List WatchAttempt) (turns : List Turn) :
    ∃ heard w, Turns (idle seed script) turns heard w := by
  induction turns using List.reverseRecOn with
  | nil => exact ⟨[], _, .refl⟩
  | append_singleton turns turn ih =>
      obtain ⟨heard, w, reached⟩ := ih
      obtain ⟨more, next, turned⟩ := exists_turned (through_of_turns reached).still turn
      exact ⟨heard ++ more, next, .turn reached turned⟩

/-- The law of watching, for a source with any script and for any turns, each of which is given its
    time; that time is finite, since every step leaves fewer to be taken. The engines are then those
    of the last event that was applied, and the script stands at as many calls as were made. A start
    makes the calls of one stretch, until one of them does not fail: at every moment what was heard
    and what is on its way is what these calls send, in that order, and nothing is on its way when
    the source is asked again. A start of a watch that is held does nothing, and a stop only ends
    it. -/
theorem watched_in_order (seed : UInt32) (script : List WatchAttempt) (turns : List Turn) :
    (∃ heard w, Turns (idle seed script) turns heard w) ∧
    (∀ w event next, Step w event next → next.stepsLeft < w.stepsLeft) ∧
    ∀ heard w, Turns (idle seed script) turns heard w →
      (w.engines = heard.getLast?.elim [] EndpointEvent.engines ∧
        w.script = script.drop w.calls ∧
        w.toServiceWatcher = (ServiceWatcher.new seed script).run turns) ∧
      (w.running = false →
        (∀ more now, Steps w.begun more now → ∃ n, now.calls = w.calls + n ∧
          more ++ now.waiting = sentBy (attempts w.script n) ∧
          (now.phase = .asking → more = sentBy (attempts w.script n) ∧
            ∀ call ∈ attempts w.script n, call.finish = .failed)) ∧
        ∀ more next, Turned w .start more next → next.running = true ∧
          ∃ m, Stretch w.script m ∧ more = sentBy (attempts w.script (m + 1)) ∧
            next.calls = w.calls + (m + 1) ∧ next.script = w.script.drop (m + 1)) ∧
      (w.running = true → ∀ more next, Turned w .start more next → more = [] ∧ next = w) ∧
      (∀ more next, Turned w .stop more next → more = [] ∧
        next.toServiceWatcher = { w.toServiceWatcher with running := false }) ∧
      ∀ event more next, Turned w (.event event) more next → more = [event] ∧
        next.toServiceWatcher = { w.toServiceWatcher with engines := event.engines } := by
  refine ⟨exists_turns seed script turns, fun w event next step => step.stepsLeft_lt,
    fun heard w reached => ?_⟩
  have through := through_of_turns reached
  refine ⟨⟨through.engines, through.script, through.watcher⟩, fun free => ⟨?_, ?_⟩,
    fun held more next turned => turned.of_startHeld held,
    fun more next turned => turned.of_stop through.still,
    fun event more next turned => turned.of_event⟩
  · intro more now steps
    obtain ⟨n, follows⟩ := follows_of_steps steps
    refine ⟨n, follows.calls, follows.inOrder, fun asking => ?_⟩
    have inOrder := follows.inOrder
    have made := follows.made
    rw [waiting, asking, List.append_nil] at inOrder
    rw [asking] at made
    exact ⟨inOrder, made⟩
  · intro more next turned
    obtain ⟨-, m, stretch, follows, heard⟩ := turned.of_start free
    exact ⟨follows.running, m, stretch, heard, follows.calls, follows.script⟩

/-- A source that fails once is asked twice, and then no more. -/
example : ((ServiceWatcher.new 0 [⟨[.added []], .failed⟩, ⟨[.deleted], .silent⟩]).run
    [.start, .start]).calls = 2 := rfl

end Runs

end Watch

end AlertEngine
