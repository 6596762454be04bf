import AlertEngine.Routing.Settings

/-! # Settings of the engine -/

namespace AlertEngine

structure SystemSettings where
  name : String := "FLUX Event Engine"
  version : String := "1.0.0"
  deriving DecidableEq

/-- The counts of tasks that give none of their own. -/
structure ProcessorSettings where
  quorum : UInt64 := 1
  consecutive : UInt32 := 1
  deriving DecidableEq

structure Settings where
  system : SystemSettings := {}
  processor : ProcessorSettings := {}
  discovery : DiscoverySettings := {}
  deriving DecidableEq

inductive SettingsError where
  | zeroQuorum
  | zeroConsecutive
  | noStrategy
  | twoStrategies
  deriving Repr, DecidableEq

def SettingsError.message : SettingsError → String
  | .zeroQuorum => "default_quorum_count must be greater than 0"
  | .zeroConsecutive => "default_consecutive_count must be greater than 0"
  | .noStrategy => "discovery requires either port_strategy or kubernetes_strategy"
  | .twoStrategies =>
    "discovery must configure only one of port_strategy and kubernetes_strategy"

/-- Counts are positive, and there is exactly one strategy to find engines. -/
def Settings.validate (s : Settings) : Except SettingsError Unit :=
  if s.processor.quorum = 0 then .error .zeroQuorum
  else if s.processor.consecutive = 0 then .error .zeroConsecutive
  else
    match s.discovery.ports, s.discovery.service with
    | none, none => .error .noStrategy
    | some _, some _ => .error .twoStrategies
    | _, _ => .ok ()

end AlertEngine
