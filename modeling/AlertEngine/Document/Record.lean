import AlertEngine.Decimal.Reading
import AlertEngine.Json.Value
import AlertEngine.Keyed

/-! # Records in documents

A document is read field by field. A record is an object that gives its declared fields by name,
each at most once, or an array that gives them by position; other fields of an object are left
alone. A missing field may have a default.
-/

namespace AlertEngine.Document

/-- A way to read a value, which may refuse it. -/
abbrev Reader (α : Type) := Json → Option α

def text : Reader String
  | .string s => some s
  | _ => none

def flag : Reader Bool
  | .bool b => some b
  | _ => none

/-- A whole number below `bound`. -/
def natBelow (bound : Nat) : Reader Nat
  | .number (.int n) => if 0 ≤ n ∧ n < bound then some n.toNat else none
  | _ => none

def uint16 : Reader UInt16 := fun json => (natBelow UInt16.size json).map UInt16.ofNat

def uint32 : Reader UInt32 := fun json => (natBelow UInt32.size json).map UInt32.ofNat

def uint64 : Reader UInt64 := fun json => (natBelow UInt64.size json).map UInt64.ofNat

def int64 : Reader Int64
  | .number (.int n) =>
    if fitsSigned n then some (Int64.ofInt n) else none
  | _ => none

def double : Reader Float
  | .number n => some n.toFloat
  | _ => none

def list {α : Type} (item : Reader α) : Reader (List α)
  | .array items => items.mapM item
  | _ => none

/-- An object of values under names; of several under one name the last one stays, but all of
    them have to be readable. -/
def table {α : Type} (item : Reader α) : Reader (Keyed String α)
  | .object fields =>
    (fields.mapM fun field => (item field.2).map fun value => (field.1, value)).map .ofList
  | _ => none

def nullable {α : Type} (item : Reader α) : Reader (Option α)
  | .null => some none
  | json => (item json).map some

/-- The declared fields that a document gives. -/
structure Record where
  fields : List (String × Json)
  byPosition : Bool

namespace Record

def ofJson? (names : List String) : Json → Option Record
  | .object fields =>
    let declared := fields.filter fun field => names.contains field.1
    if (declared.map (·.1)).Nodup then some ⟨declared, false⟩ else none
  | .array items => if items.length ≤ names.length then some ⟨names.zip items, true⟩ else none
  | _ => none

variable {α : Type}

def field? (record : Record) (name : String) : Option Json :=
  record.fields.lookup name

def required (record : Record) (name : String) (read : Reader α) : Option α :=
  (record.field? name).bind read

/-- A field that may be missing, but not null. -/
def withDefault (record : Record) (name : String) (read : Reader α) (default : α) : Option α :=
  match record.field? name with
  | none => some default
  | some json => read json

/-- A field that may be missing or null. -/
def optional (record : Record) (name : String) (read : Reader α) : Option (Option α) :=
  record.withDefault name (nullable read) none

/-- A field that may be null, and may be missing where fields have names. -/
def optionalNamed (record : Record) (name : String) (read : Reader α) : Option (Option α) :=
  match record.field? name with
  | none => if record.byPosition then none else some none
  | some json => nullable read json

end Record

/-- The name of a choice without content: the name alone, or an object that has it as its only
    field with nothing in it. -/
def choiceName (isEmpty : Json → Bool) : Reader String
  | .string name => some name
  | .object [(name, content)] => if isEmpty content then some name else none
  | _ => none

def isNull : Json → Bool
  | .null => true
  | _ => false

def isNullOrEmpty : Json → Bool
  | .null => true
  | .object [] => true
  | _ => false

end AlertEngine.Document
