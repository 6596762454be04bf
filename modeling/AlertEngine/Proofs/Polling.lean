import AlertEngine.Proofs.Run
import AlertEngine.Routing.Poll
import AlertEngine.Routing.Watch
import Mathlib.Data.List.Induction

/-! # Polled engines

Polling sends changes and not answers. Nothing is lost by that: whoever applies the events in their
order has the engines of the latest answer, whatever was listed before the first one.
-/

namespace AlertEngine.Polling

section Answer

variable {last : Option Endpoints} {answer : Endpoints} {event : EndpointEvent}

theorem pollEvent?_eq_none_iff : pollEvent? last answer = none ↔ last = some answer := by
  unfold pollEvent?
  split
  · next same => simp [same]
  · next changed => split <;> simpa using changed

theorem pollEvent?_cases (sent : pollEvent? last answer = some event) :
    (answer = none ∧ event = .deleted) ∨
    (∃ before subsets, last = some (some before) ∧ answer = some subsets ∧
      event = .modified subsets) ∨
    ∃ subsets, (∀ before, last ≠ some (some before)) ∧ answer = some subsets ∧
      event = .added subsets := by
  unfold pollEvent? at sent
  split at sent
  · cases sent
  · split at sent
    · cases sent
      exact .inl ⟨rfl, rfl⟩
    · cases sent
      exact .inr (.inl ⟨_, _, rfl, rfl, rfl⟩)
    · next unlisted _ =>
      cases sent
      exact .inr (.inr ⟨_, unlisted, rfl, rfl⟩)

theorem engines_of_pollEvent? (sent : pollEvent? last answer = some event) :
    event.engines = answer.elim [] Engine.ofSubsets := by
  obtain ⟨rfl, rfl⟩ | ⟨_, subsets, -, rfl, rfl⟩ | ⟨subsets, -, rfl, rfl⟩ := pollEvent?_cases sent
  · rfl
  · rfl
  · rfl

end Answer

/-- What an answer is compared with: the answer before it. -/
def remember (_ : Option Endpoints) (answer : Endpoints) : Option Endpoints :=
  some answer

theorem foldl_remember (seen : List Endpoints) : seen.foldl remember none = seen.getLast? := by
  cases seen using List.reverseRecOn with
  | nil => rfl
  | append_singleton seen answer => simp [remember]

/-- Polling takes answers one by one. What it has sent by then does not depend on what comes. -/
theorem pollAll_append (last : Option Endpoints) (seen : List Endpoints)
    (rest : List (Except DiscoveryError Endpoints)) :
    pollAll true last (seen.map .ok ++ rest) =
      let behind := pollAll true (seen.foldl remember last) rest
      ⟨Run.collect remember pollEvent? last seen ++ behind.events, behind.finish,
        seen.length + behind.requests⟩ := by
  induction seen generalizing last with
  | nil => simp
  | cons answer seen ih =>
      simp only [List.map_cons, List.cons_append, pollAll, ih, List.foldl_cons, Run.collect,
        List.length_cons, remember]
      cases pollEvent? last answer <;> simp [Nat.add_right_comm]

/-- The events that are sent for answers, as long as no request fails. -/
def sent (answers : List Endpoints) : List EndpointEvent :=
  (pollAll true none (answers.map .ok)).events

theorem sent_eq_collect (answers : List Endpoints) :
    sent answers = Run.collect remember pollEvent? none answers := by
  have all := congrArg PollRun.events (pollAll_append none answers [])
  simpa only [List.append_nil, pollAll, sent] using all

theorem sent_concat (seen : List Endpoints) (answer : Endpoints) :
    sent (seen ++ [answer]) = sent seen ++ (pollEvent? seen.getLast? answer).toList := by
  rw [sent_eq_collect, sent_eq_collect, Run.collect_concat, foldl_remember]

theorem engines_of_sent (w : ServiceWatcher) (seen : List Endpoints) (answer : Endpoints) :
    ((sent (seen ++ [answer])).foldl ServiceWatcher.handle w).engines =
      answer.elim [] Engine.ofSubsets := by
  induction seen using List.reverseRecOn generalizing answer with
  | nil =>
      rw [sent_concat]
      obtain ⟨event, changed⟩ := Option.ne_none_iff_exists'.1
        (pollEvent?_eq_none_iff.not.2 (nofun : ([] : List Endpoints).getLast? ≠ some answer))
      rw [changed]
      exact engines_of_pollEvent? changed
  | append_singleton earlier before ih =>
      rw [sent_concat, List.getLast?_concat]
      cases changed : pollEvent? (some before) answer with
      | none =>
          have same : before = answer := Option.some.inj (pollEvent?_eq_none_iff.1 changed)
          rw [← same, Option.toList_none, List.append_nil]
          exact ih before
      | some event =>
          rw [Option.toList_some, List.foldl_append]
          exact engines_of_pollEvent? changed

/-- How many engines a service has: one for every port of a subset on every address of it. -/
def places : List EndpointSubset → Nat
  | [] => 0
  | subset :: rest => subset.ports.length * subset.addresses.length + places rest

/-- The engines of a service, each at its place. Subsets come one after the other, and within a
    subset ports do, each with all addresses; hosts go by their names if they have any. -/
structure Listed (subsets : List EndpointSubset) (engines : List Engine) : Prop where
  length : engines.length = places subsets
  engine : ∀ front subset back, subsets = front ++ subset :: back →
    ∀ i port j address, subset.ports[i]? = some port → subset.addresses[j]? = some address →
      let k := places front + i * subset.addresses.length + j
      engines[k]? = some ⟨address.hostname.getD address.ip, port.port, k⟩

theorem length_flatMap_sites (subsets : List EndpointSubset) :
    (subsets.flatMap EndpointSubset.sites).length = places subsets := by
  induction subsets with
  | nil => rfl
  | cons subset rest ih =>
      rw [List.flatMap_cons, List.length_append, ih, subset.length_sites, places]

theorem listed_ofSubsets (subsets : List EndpointSubset) :
    Listed subsets (Engine.ofSubsets subsets) where
  length := by rw [Engine.ofSubsets, List.length_mapIdx, length_flatMap_sites]
  engine := by
    rintro front subset back rfl i port j address opened known k
    have site : ((front ++ subset :: back).flatMap EndpointSubset.sites)[k]? =
        some (address.host, port.port) := by
      have here := EndpointSubset.getElem?_sites opened known
      obtain ⟨within, -⟩ := List.getElem?_eq_some_iff.1 here
      rw [List.flatMap_append, List.flatMap_cons, List.getElem?_append_right,
        length_flatMap_sites, List.getElem?_append_left]
      · rw [show k - places front = i * subset.addresses.length + j by omega, here]
      · omega
      · rw [length_flatMap_sites]
        omega
    rw [Engine.ofSubsets, List.getElem?_mapIdx, site]
    rfl

theorem exists_place {subsets : List EndpointSubset} {k : Nat} (inside : k < places subsets) :
    ∃ front subset back i port j address, subsets = front ++ subset :: back ∧
      subset.ports[i]? = some port ∧ subset.addresses[j]? = some address ∧
      k = places front + i * subset.addresses.length + j := by
  induction subsets generalizing k with
  | nil => cases inside
  | cons subset rest ih =>
      rw [places] at inside
      by_cases here : k < subset.ports.length * subset.addresses.length
      · have some : 0 < subset.addresses.length := Nat.pos_of_mul_pos_left (Nat.zero_lt_of_lt here)
        have port : k / subset.addresses.length < subset.ports.length :=
          Nat.div_lt_of_lt_mul (Nat.mul_comm _ _ ▸ here)
        have address : k % subset.addresses.length < subset.addresses.length := Nat.mod_lt k some
        refine ⟨[], subset, rest, _, _, _, _, rfl, List.getElem?_eq_getElem port,
          List.getElem?_eq_getElem address, ?_⟩
        rw [places, Nat.zero_add, Nat.mul_comm, Nat.div_add_mod]
      · obtain ⟨front, other, back, i, port, j, address, rfl, opened, known, place⟩ :=
          @ih (k - subset.ports.length * subset.addresses.length) (by omega)
        refine ⟨subset :: front, other, back, i, port, j, address, rfl, opened, known, ?_⟩
        rw [places]
        omega

theorem Listed.unique {subsets : List EndpointSubset} {engines other : List Engine}
    (listed : Listed subsets engines) (listed' : Listed subsets other) : engines = other := by
  apply List.ext_getElem?
  intro k
  by_cases inside : k < places subsets
  · obtain ⟨front, subset, back, i, port, j, address, split, opened, known, rfl⟩ :=
      exists_place inside
    rw [listed.engine front subset back split i port j address opened known,
      listed'.engine front subset back split i port j address opened known]
  · rw [List.getElem?_eq_none (listed.length ▸ Nat.le_of_not_lt inside),
      List.getElem?_eq_none (listed'.length ▸ Nat.le_of_not_lt inside)]

/-- The law of polling, while events are taken. An event is sent for the first answer and for every
    answer that differs from the one before, a failure ends it with that error, and applying the
    events that are sent by then leads to the engines of the latest answer alone, each of them at
    its place. -/
theorem polled_engines (seen : List Endpoints) :
    let watch := fun rest => pollAll true none (seen.map .ok ++ rest)
    watch [] = ⟨sent seen, .polling, seen.length⟩ ∧
    (∀ e rest, watch (.error e :: rest) = ⟨sent seen, .failed e, seen.length + 1⟩) ∧
    (∀ rest, sent seen <+: (watch rest).events) ∧
    (∀ answer, ∃ event?, sent (seen ++ [answer]) = sent seen ++ event?.toList ∧
      (event?.isSome ↔ seen = [] ∨ seen.getLast? ≠ some answer) ∧
      ∀ event, event? = some event →
        (answer = none ∧ event = .deleted) ∨
        (∃ before subsets, seen.getLast? = some (some before) ∧ answer = some subsets ∧
          event = .modified subsets) ∨
        ∃ subsets, (∀ before, seen.getLast? ≠ some (some before)) ∧ answer = some subsets ∧
          event = .added subsets) ∧
    (∀ (w : ServiceWatcher) answer,
      ((sent (seen ++ [answer])).foldl ServiceWatcher.handle w).engines =
        answer.elim [] Engine.ofSubsets) ∧
    ∀ subsets engines, Engine.ofSubsets subsets = engines ↔ Listed subsets engines := by
  intro watch
  have stepwise : ∀ rest, watch rest = _ := pollAll_append none seen
  simp only [← sent_eq_collect] at stepwise
  refine ⟨?_, fun e rest => ?_, fun rest => ?_, fun answer => ?_, fun w => engines_of_sent w seen,
    fun subsets engines => ⟨?_, (listed_ofSubsets subsets).unique⟩⟩
  · rw [stepwise, pollAll, List.append_nil, Nat.add_zero]
  · rw [stepwise, pollAll, List.append_nil]
  · rw [stepwise]
    exact List.prefix_append _ _
  · refine ⟨_, sent_concat seen answer, ?_, fun event => pollEvent?_cases⟩
    rw [Option.isSome_iff_ne_none, ne_eq, pollEvent?_eq_none_iff, or_iff_right_of_imp]
    rintro rfl
    nofun
  · rintro rfl
    exact listed_ofSubsets subsets

end AlertEngine.Polling
