import AlertEngine.Routing.Watch

/-! # Runs of watchers

Events come to a watcher one by one from outside, or from its source while it watches. Each of them
replaces the list of engines by one in which the partition of an engine is its place, so that this
is so in every list that a watcher can ever have.
-/

namespace AlertEngine

/-- Engines whose partitions are their places. -/
def Engine.InPlace (engines : List Engine) : Prop :=
  ∀ (k : Nat) (engine : Engine), engines[k]? = some engine → engine.partition = k

theorem Engine.inPlace_ofSubsets (subsets : List EndpointSubset) :
    InPlace (Engine.ofSubsets subsets) := by
  intro k engine found
  rw [ofSubsets, List.getElem?_mapIdx] at found
  obtain ⟨site, -, rfl⟩ := Option.map_eq_some_iff.1 found
  rfl

theorem EndpointEvent.inPlace_engines (event : EndpointEvent) : Engine.InPlace event.engines := by
  cases event with
  | added subsets => exact Engine.inPlace_ofSubsets subsets
  | modified subsets => exact Engine.inPlace_ofSubsets subsets
  | deleted => nofun

namespace ServiceWatcher

/-- What can be done to a watcher. -/
inductive Turn where
  | event (event : EndpointEvent)
  | start
  | stop

/-- The watcher after a turn. -/
def turn (w : ServiceWatcher) : Turn → ServiceWatcher
  | .event event => w.handle event
  | .start => w.start
  | .stop => w.stop

def run (w : ServiceWatcher) (turns : List Turn) : ServiceWatcher :=
  turns.foldl turn w

/-- A watcher whose engines are in their places, for keys of this seed. -/
structure Tidy (seed : UInt32) (w : ServiceWatcher) : Prop where
  seed : w.seed = seed
  inPlace : Engine.InPlace w.engines

variable {seed : UInt32} {w : ServiceWatcher}

theorem tidy_new (seed : UInt32) (script : List WatchAttempt) : Tidy seed (new seed script) :=
  ⟨rfl, nofun⟩

theorem Tidy.handle (tidy : Tidy seed w) (event : EndpointEvent) : Tidy seed (w.handle event) :=
  ⟨tidy.seed, event.inPlace_engines⟩

theorem Tidy.attempt (tidy : Tidy seed w) (attempt : WatchAttempt) :
    Tidy seed (w.attempt attempt) := by
  have handled : Tidy seed (attempt.events.foldl ServiceWatcher.handle w) :=
    List.foldlRecOn attempt.events ServiceWatcher.handle tidy
      fun _ tidy event _ => tidy.handle event
  exact ⟨handled.seed, handled.inPlace⟩

theorem Tidy.follow (tidy : Tidy seed w) (script : List WatchAttempt) :
    Tidy seed (w.follow script) := by
  induction script generalizing w with
  | nil => exact ⟨tidy.seed, tidy.inPlace⟩
  | cons first rest ih =>
      have asked := tidy.attempt first
      simp only [ServiceWatcher.follow]
      cases first.finish with
      | failed => exact ih asked
      | done => exact ⟨asked.seed, asked.inPlace⟩
      | silent => exact ⟨asked.seed, asked.inPlace⟩

theorem Tidy.turn (tidy : Tidy seed w) (turn : Turn) : Tidy seed (w.turn turn) := by
  cases turn with
  | event event => exact tidy.handle event
  | start =>
      simp only [ServiceWatcher.turn, start]
      have followed := tidy.follow w.script
      split
      · exact tidy
      · exact ⟨followed.seed, followed.inPlace⟩
  | stop => exact ⟨tidy.seed, tidy.inPlace⟩

theorem Tidy.run (tidy : Tidy seed w) (turns : List Turn) : Tidy seed (w.run turns) :=
  List.foldlRecOn turns ServiceWatcher.turn tidy fun _ tidy turn _ => tidy.turn turn

end ServiceWatcher

end AlertEngine
