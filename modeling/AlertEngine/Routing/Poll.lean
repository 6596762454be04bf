import AlertEngine.Routing.Endpoint

/-! # Polling a service

The endpoints of a service are asked for again and again. An event is sent for the first answer
and for every answer that differs from the one before; a failed request ends the polling.
-/

namespace AlertEngine

/-- The answer to one request: the subsets of the service, or nothing if there is no such
    service. -/
abbrev Endpoints := Option (List EndpointSubset)

/-- How polling ends. -/
inductive PollEnd where
  /-- It does not: the next request would be sent. -/
  | polling
  /-- Nobody takes the events. -/
  | unheard
  | failed (error : DiscoveryError)
  deriving Repr, DecidableEq

/-- The event that an answer gives rise to after the answer before it. -/
def pollEvent? (last : Option Endpoints) (answer : Endpoints) : Option EndpointEvent :=
  if last = some answer then none
  else
    match last, answer with
    | _, none => some .deleted
    | some (some _), some subsets => some (.modified subsets)
    | _, some subsets => some (.added subsets)

structure PollRun where
  events : List EndpointEvent
  finish : PollEnd
  /-- How many requests were made. -/
  requests : Nat
  deriving Repr, DecidableEq

/-- Poll through a list of answers. Where nobody takes events the first one ends the polling. -/
def pollAll (heard : Bool) (last : Option Endpoints) :
    List (Except DiscoveryError Endpoints) → PollRun
  | [] => ⟨[], .polling, 0⟩
  | .error e :: _ => ⟨[], .failed e, 1⟩
  | .ok answer :: rest =>
    match pollEvent? last answer with
    | none =>
      let run := pollAll heard (some answer) rest
      { run with requests := run.requests + 1 }
    | some event =>
      if heard then
        let run := pollAll heard (some answer) rest
        ⟨event :: run.events, run.finish, run.requests + 1⟩
      else ⟨[], .unheard, 1⟩

end AlertEngine
