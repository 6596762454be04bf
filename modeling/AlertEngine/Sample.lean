import AlertEngine.Decimal.Shortest
import AlertEngine.Keyed
import AlertEngine.Time.Timestamp

/-! # Samples

A sample is what one zone reports at one moment: values under the names of metrics. A value is a
whole number, a double or a text, and stays what it is: a text that looks like a number is still
a text.
-/

namespace AlertEngine

inductive Metric where
  | integer (value : Int64)
  | double (value : Float)
  | text (value : String)
  deriving DecidableEq

namespace Metric

/-- The number that a value stands for; a text stands for none. -/
def number? : Metric → Option Float
  | .integer value => some value.toFloat
  | .double value => some value
  | .text _ => none

def text? : Metric → Option String
  | .text value => some value
  | _ => none

def display : Metric → String
  | .integer value => toString value.toInt
  | .double value => Decimal.plainText value
  | .text value => value

end Metric

structure Sample where
  timestamp : Timestamp
  zone : String
  metrics : Keyed String Metric
  deriving DecidableEq

namespace Sample

def new (timestamp : Timestamp) (zone : String) : Sample :=
  ⟨timestamp, zone, .empty⟩

/-- Add a value, in place of an earlier one of the same name. -/
def withMetric (sample : Sample) (name : String) (value : Metric) : Sample :=
  { sample with metrics := sample.metrics.insert name value }

def metric? (sample : Sample) (name : String) : Option Metric :=
  sample.metrics.get? name

end Sample

end AlertEngine
