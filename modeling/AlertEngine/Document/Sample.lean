import AlertEngine.Document.Record
import AlertEngine.Sample

/-! # Samples as documents -/

namespace AlertEngine

open Document

def Timestamp.ofJson? : Reader Timestamp
  | .string s => Timestamp.ofText? s
  | _ => none

/-- An integer that fits is a whole number, any other number a double. -/
def Metric.ofJson? : Reader Metric
  | .string s => some (.text s)
  | .number n =>
    match int64 (.number n) with
    | some value => some (.integer value)
    | none => some (.double n.toFloat)
  | _ => none

def Metric.toJson : Metric → Json
  | .integer value => .int value.toInt
  | .double value => .float value
  | .text value => .string value

def Timestamp.toJson (t : Timestamp) : Json := .string t.text

namespace Sample

def ofJson? : Reader Sample := fun json => do
  let record ← Record.ofJson? ["timestamp", "zone", "metrics"] json
  let timestamp ← record.required "timestamp" Timestamp.ofJson?
  let zone ← record.required "zone" text
  let metrics ← record.withDefault "metrics" (table Metric.ofJson?) .empty
  pure ⟨timestamp, zone, metrics⟩

def metricsJson (metrics : Keyed String Metric) : Json :=
  .object (metrics.mapValues Metric.toJson).entries

def toJson (sample : Sample) : Json :=
  .object [
    ("timestamp", sample.timestamp.toJson),
    ("zone", .string sample.zone),
    ("metrics", metricsJson sample.metrics)]

end Sample

end AlertEngine
