import AlertEngine.Routing.Watch

/-! # A watch in steps

What goes on between a watcher and its source while a watch runs. A call of the source hands its
events over through a channel with limited room. The watcher takes them one by one; it may see that
the call has ended before it has taken all of them, and then takes the rest first. After a failure
it pauses and asks again, through a new channel. While it listens and while it pauses it can be told
to stop. Where several steps are possible it is left open which of them comes next.
-/

namespace AlertEngine

/-- What a source does when it is asked beyond its script. -/
def WatchAttempt.quiet : WatchAttempt := ⟨[], .silent⟩

inductive WatchPhase where
  /-- The source is about to be asked. -/
  | asking
  /-- A call is under way. It has still to send some events, and will then come to its end. -/
  | listening (unsent : List EndpointEvent) (finish : WatchEnd)
  /-- The call has ended, and what it has left in the channel is taken. -/
  | draining (finish : WatchEnd)
  /-- A call has failed, and the source will be asked again. -/
  | pausing
  | ended
  deriving Repr, DecidableEq

/-- A watcher with the watch that it runs. -/
structure Watch extends ServiceWatcher where
  phase : WatchPhase
  /-- What the channel holds. -/
  queue : List EndpointEvent
  /-- Whether the watch has been told to stop. -/
  told : Bool
  deriving Repr, DecidableEq

namespace Watch

/-- How many events a channel holds at most. -/
def room : Nat := 16

/-- A watcher that has not been started. -/
def idle (seed : UInt32) (script : List WatchAttempt) : Watch :=
  ⟨ServiceWatcher.new seed script, .ended, [], false⟩

/-- The watcher with a new watch. -/
def begun (w : Watch) : Watch :=
  { w with running := true, phase := .asking, queue := [], told := false }

/-- One step of a watch, and the event that is taken in it. -/
inductive Step : Watch → Option EndpointEvent → Watch → Prop where
  | ask {w : Watch} {attempt : WatchAttempt} (phase : w.phase = .asking)
      (next : w.script.headD .quiet = attempt) :
      Step w none { w with
        phase := .listening attempt.events attempt.finish
        queue := []
        script := w.script.tail
        calls := w.calls + 1 }
  | send {w : Watch} {event : EndpointEvent} {unsent : List EndpointEvent} {finish : WatchEnd}
      (phase : w.phase = .listening (event :: unsent) finish) (fits : w.queue.length < room) :
      Step w none { w with phase := .listening unsent finish, queue := w.queue ++ [event] }
  | receive {w : Watch} {event : EndpointEvent} {unsent queue : List EndpointEvent}
      {finish : WatchEnd} (phase : w.phase = .listening unsent finish)
      (waits : w.queue = event :: queue) :
      Step w (some event) { w with engines := event.engines, queue := queue }
  /-- The end of a call is seen, whatever the channel still holds. -/
  | finish {w : Watch} {finish : WatchEnd} (phase : w.phase = .listening [] finish)
      (ends : finish ≠ .silent) :
      Step w none { w with phase := .draining finish }
  | drain {w : Watch} {event : EndpointEvent} {queue : List EndpointEvent} {finish : WatchEnd}
      (phase : w.phase = .draining finish) (waits : w.queue = event :: queue) :
      Step w (some event) { w with engines := event.engines, queue := queue }
  | pause {w : Watch} (phase : w.phase = .draining .failed) (empty : w.queue = []) :
      Step w none { w with phase := .pausing }
  | close {w : Watch} (phase : w.phase = .draining .done) (empty : w.queue = []) :
      Step w none { w with phase := .ended }
  | resume {w : Watch} (phase : w.phase = .pausing) :
      Step w none { w with phase := .asking }
  | leaveCall {w : Watch} {unsent : List EndpointEvent} {finish : WatchEnd}
      (phase : w.phase = .listening unsent finish) (told : w.told = true) :
      Step w none { w with phase := .ended }
  | leavePause {w : Watch} (phase : w.phase = .pausing) (told : w.told = true) :
      Step w none { w with phase := .ended }

/-- Any number of steps, and the events that are taken in them. -/
inductive Steps (start : Watch) : List EndpointEvent → Watch → Prop where
  | refl : Steps start [] start
  | step {heard : List EndpointEvent} {w next : Watch} {event : Option EndpointEvent}
      (steps : Steps start heard w) (step : Step w event next) :
      Steps start (heard ++ event.toList) next

/-- Nothing is left to be done. -/
def AtRest (w : Watch) : Prop :=
  ∀ event next, ¬ Step w event next

end Watch

end AlertEngine
