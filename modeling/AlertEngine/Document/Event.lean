import AlertEngine.Document.Sample
import AlertEngine.Event.Basic

/-! # Alert events as documents -/

namespace AlertEngine

open Document

namespace Series

def ofJson? : Reader Series := fun json => do
  let record ← Record.ofJson? ["name", "columns", "values"] json
  let name ← record.required "name" text
  let columns ← record.withDefault "columns" (list text) []
  let values ← record.withDefault "values" (list Json.settled?) []
  pure ⟨name, columns, values⟩

def toJson (s : Series) : Json :=
  .object [("name", .string s.name), ("columns", .array (s.columns.map .string)),
    ("values", .array s.values)]

/-- The series are the only field of the data of an event. -/
def listOfJson? : Reader (List Series) := fun json => do
  let record ← Record.ofJson? ["series"] json
  record.withDefault "series" (list ofJson?) []

def listJson (series : List Series) : Json :=
  .object [("series", .array (series.map toJson))]

end Series

namespace AlertEvent

def ofJson? : Reader AlertEvent := fun json => do
  let record ← Record.ofJson? ["id", "duration", "previousLevel", "data", "level",
    "recoverable", "details", "time", "message"] json
  let id ← record.required "id" text
  let duration ← record.withDefault "duration" int64 0
  let previousLevel ← record.optional "previousLevel" text
  let data ← record.optional "data" Series.listOfJson?
  let level ← record.optional "level" text
  let recoverable ← record.withDefault "recoverable" flag false
  let details ← record.optional "details" text
  let time ← record.optional "time" Timestamp.ofJson?
  let message ← record.optional "message" text
  pure ⟨id, duration, previousLevel, data, level, recoverable, details, time, message⟩

/-- Fields without a value are left out. -/
def toJson (e : AlertEvent) : Json :=
  let given (name : String) (value : Option Json) : List (String × Json) :=
    value.toList.map fun json => (name, json)
  .object <|
    [("id", .string e.id), ("duration", .int e.duration.toInt)]
      ++ given "previousLevel" (e.previousLevel.map .string)
      ++ given "data" (e.data.map Series.listJson)
      ++ given "level" (e.level.map .string)
      ++ [("recoverable", .bool e.recoverable)]
      ++ given "details" (e.details.map .string)
      ++ given "time" (e.time.map Timestamp.toJson)
      ++ given "message" (e.message.map .string)

end AlertEvent

end AlertEngine
