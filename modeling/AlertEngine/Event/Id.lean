import AlertEngine.Uuid

/-! # Event ids

The id of an alert event names the tenant, the measurement and the task, and then, each behind a
label of its own, the monitor, the zone and the resource:
`tenant-measurement-task:label=monitor,label=zone,label=resource`. Text behind the resource is
left alone if it begins with a character that no resource has.
-/

namespace AlertEngine

/-- The parts of an event id as they are written. -/
structure EventId where
  tenant : List Char
  measurement : List Char
  task : List Char
  monitor : List Char
  zone : List Char
  resource : List Char
  deriving Repr, DecidableEq

namespace EventId

def isLetter (c : Char) : Bool :=
  ('a' ≤ c && c ≤ 'z') || ('A' ≤ c && c ≤ 'Z')

def isTenantChar (c : Char) : Bool := isLetter c || c.isDigit || c = '_'

def isLabelChar (c : Char) : Bool := isLetter c || c = '_'

def isIdChar (c : Char) : Bool := isLetter c || c.isDigit || c = '-'

def isResourceChar (c : Char) : Bool := isIdChar c || c = ':'

/-- The longest run of characters of a class, at least one, and the text behind it. -/
def run? (isMember : Char → Bool) (text : List Char) : Option (List Char × List Char) :=
  match text.takeWhile isMember with
  | [] => none
  | run => some (run, text.dropWhile isMember)

/-- The longest run of characters of a class, closed by a character outside the class. -/
def closed? (isMember : Char → Bool) (close : Char) (text : List Char) :
    Option (List Char × List Char) :=
  match run? isMember text with
  | some (run, c :: rest) => if c = close then some (run, rest) else none
  | _ => none

/-- A run behind a label. -/
def labelled? (isMember : Char → Bool) (close : Char) (text : List Char) :
    Option (List Char × List Char) :=
  (closed? isLabelChar '=' text).bind fun (_, rest) => closed? isMember close rest

def ofChars? (text : List Char) : Option EventId := do
  let (tenant, rest) ← closed? isTenantChar '-' text
  let (measurement, rest) ← closed? isLetter '-' rest
  let (task, rest) ← closed? isIdChar ':' rest
  let (monitor, rest) ← labelled? isIdChar ',' rest
  let (zone, rest) ← labelled? isIdChar ',' rest
  let (_, rest) ← closed? isLabelChar '=' rest
  let (resource, _) ← run? isResourceChar rest
  pure ⟨tenant, measurement, task, monitor, zone, resource⟩

end EventId

/-- What an event id says. -/
structure EventOrigin where
  tenant : String
  measurement : String
  task : Option Uuid
  monitor : Option Uuid
  /-- Events of agents have no zone. -/
  zone : Option String
  resource : String
  deriving DecidableEq

namespace EventOrigin

/-- The word for a missing part. -/
def absent : String := "null"

/-- A tenant is written with underscores in place of colons. -/
def tenantText (written : List Char) : String :=
  String.ofList (written.map fun c => if c = '_' then ':' else c)

def ofId (id : EventId) : EventOrigin :=
  let zone := String.ofList id.zone
  { tenant := tenantText id.tenant
    measurement := String.ofList id.measurement
    task := Uuid.ofChars? id.task
    monitor := Uuid.ofChars? id.monitor
    zone := if zone = absent then none else some zone
    resource := String.ofList id.resource }

def idText (id : Option Uuid) : String :=
  id.elim absent Uuid.text

/-- The key that groups the changes of one alert. -/
def groupKey (origin : EventOrigin) : String :=
  origin.tenant ++ ":" ++ origin.resource ++ ":" ++ idText origin.monitor ++ ":"
    ++ idText origin.task

end EventOrigin

/-- An id that names no origin. -/
structure MalformedId where
  id : String
  deriving Repr, DecidableEq

def MalformedId.message (e : MalformedId) : String :=
  "Event id does not match the task fields format: " ++ e.id

def EventOrigin.ofText (id : String) : Except MalformedId EventOrigin :=
  match EventId.ofChars? id.toList with
  | some parts => .ok (.ofId parts)
  | none => .error ⟨id⟩

end AlertEngine
