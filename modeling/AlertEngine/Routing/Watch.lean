import AlertEngine.Routing.Endpoint

/-! # Watching a service

A watcher asks its source for events. The source answers by a script: each time it is asked it
sends some events and then fails, is done, or stays silent. After a failure the watcher asks
again; beyond the script the source is silent from the start.
-/

namespace AlertEngine

inductive WatchEnd where
  | failed
  | done
  | silent
  deriving Repr, DecidableEq

/-- What a source does when it is asked once. -/
structure WatchAttempt where
  events : List EndpointEvent
  finish : WatchEnd
  deriving Repr, DecidableEq

structure ServiceWatcher where
  seed : UInt32
  engines : List Engine
  /-- Whether a watch was started and not stopped; it may have come to its end. -/
  running : Bool
  /-- What the source has still to do. -/
  script : List WatchAttempt
  /-- How often the source has been asked. -/
  calls : Nat
  deriving Repr, DecidableEq

namespace ServiceWatcher

def new (seed : UInt32) (script : List WatchAttempt) : ServiceWatcher :=
  ⟨seed, [], false, script, 0⟩

def fleet (w : ServiceWatcher) : Fleet :=
  .ofList w.engines w.seed

def handle (w : ServiceWatcher) (event : EndpointEvent) : ServiceWatcher :=
  { w with engines := event.engines }

/-- Ask the source once. -/
def attempt (w : ServiceWatcher) (attempt : WatchAttempt) : ServiceWatcher :=
  { attempt.events.foldl handle w with calls := w.calls + 1 }

/-- Ask the source, again after every failure, until it is done or silent. -/
def follow (w : ServiceWatcher) : List WatchAttempt → ServiceWatcher
  | [] => { w with script := [], calls := w.calls + 1 }
  | first :: rest =>
    let w := w.attempt first
    match first.finish with
    | .failed => w.follow rest
    | .done | .silent => { w with script := rest }

/-- Start to watch, and let the source do all that its script allows. -/
def start (w : ServiceWatcher) : ServiceWatcher :=
  if w.running then w else { w.follow w.script with running := true }

def stop (w : ServiceWatcher) : ServiceWatcher :=
  { w with running := false }

end ServiceWatcher

end AlertEngine
