import AlertEngine.Event.Id
import AlertEngine.Json.Value
import AlertEngine.Time.Timestamp

/-! # Alert events

An event as the engine of the metrics stack sends it, with the series that it was raised on.
-/

namespace AlertEngine

structure Series where
  name : String
  columns : List String
  values : List Json

structure AlertEvent where
  id : String
  duration : Int64
  previousLevel : Option String
  data : Option (List Series)
  level : Option String
  recoverable : Bool
  details : Option String
  time : Option Timestamp
  message : Option String

namespace AlertEvent

def origin (event : AlertEvent) : Except MalformedId EventOrigin :=
  EventOrigin.ofText event.id

/-- The key of the alert that an event belongs to. -/
def groupKey (event : AlertEvent) : Except MalformedId String :=
  event.origin.map EventOrigin.groupKey

end AlertEvent

end AlertEngine
