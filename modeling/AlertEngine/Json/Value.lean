/-! # JSON values

Values as they stand in a text: an object keeps its fields in order, repeated names included, so
that a reader can tell a repeated field from a single one, and a value may be well formed and yet
stand for nothing. `Json.settled?` is the plain value, in which the last field of a name counts and
everything stands for something.
-/

namespace AlertEngine

/-- A number is an integer if it is written as one and fits in 64 bits, signed or unsigned. -/
inductive Json.Number where
  | int (value : Int)
  | float (value : Float)
  deriving DecidableEq

inductive Json where
  | null
  | bool (value : Bool)
  | number (value : Json.Number)
  | string (value : String)
  | array (items : List Json)
  | object (fields : List (String × Json))
  /-- What is well formed and stands for no value: a text with half of a character, a number
      beyond every double, an object with a name that is no text, or a container that is nested
      too deeply. It may stand where nobody reads it. -/
  | meaningless

namespace Json

instance : Inhabited Json := ⟨.null⟩

mutual

/-- Whether two values are equal. -/
def same : Json → Json → Bool
  | .null, .null => true
  | .bool x, .bool y => x = y
  | .number x, .number y => x = y
  | .string x, .string y => x = y
  | .array xs, .array ys => sameItems xs ys
  | .object xs, .object ys => sameFields xs ys
  | .meaningless, .meaningless => true
  | _, _ => false

def sameItems : List Json → List Json → Bool
  | [], [] => true
  | x :: xs, y :: ys => x.same y && sameItems xs ys
  | _, _ => false

def sameFields : List (String × Json) → List (String × Json) → Bool
  | [], [] => true
  | (name, x) :: xs, (other, y) :: ys => name = other && x.same y && sameFields xs ys
  | _, _ => false

end

mutual

theorem same_iff (x y : Json) : x.same y ↔ x = y := by
  cases x <;> cases y <;> simp [same, sameItems_iff, sameFields_iff]

theorem sameItems_iff (xs ys : List Json) : sameItems xs ys ↔ xs = ys := by
  cases xs <;> cases ys <;> simp [sameItems, same_iff, sameItems_iff]

theorem sameFields_iff (xs ys : List (String × Json)) : sameFields xs ys ↔ xs = ys := by
  cases xs <;> cases ys <;> simp [sameFields, Prod.ext_iff, same_iff, sameFields_iff]

end

instance : DecidableEq Json := fun x y => decidable_of_iff _ (same_iff x y)

/-- Integers below the least signed or above the greatest unsigned number of 64 bits do not
    occur in documents, so the cut to 64 bits loses nothing. -/
def Number.toFloat : Number → Float
  | .int value =>
    if value < 0 then (Int64.ofInt value).toFloat else value.toNat.toUInt64.toFloat
  | .float value => value

def int (value : Int) : Json := .number (.int value)

def nat (value : Nat) : Json := .int value

/-- A double that is no finite number has no JSON form of its own and is written as null. -/
def float (value : Float) : Json :=
  if value.isFinite then .number (.float value) else .null

/-- Set a field, in place of an earlier one of the same name. -/
def setField (name : String) (value : Json) (fields : List (String × Json)) :
    List (String × Json) :=
  if fields.any (·.1 = name) then
    fields.map fun field => if field.1 = name then (name, value) else field
  else fields ++ [(name, value)]

/-- The last field of a name. -/
def field? (name : String) (fields : List (String × Json)) : Option Json :=
  (fields.reverse.find? (·.1 = name)).map (·.2)

mutual

/-- Whether a value and everything in it stand for something. -/
def isMeaningful : Json → Bool
  | .array items => itemsAreMeaningful items
  | .object fields => fieldsAreMeaningful fields
  | .meaningless => false
  | _ => true

def itemsAreMeaningful : List Json → Bool
  | [] => true
  | item :: rest => item.isMeaningful && itemsAreMeaningful rest

def fieldsAreMeaningful : List (String × Json) → Bool
  | [] => true
  | (_, value) :: rest => value.isMeaningful && fieldsAreMeaningful rest

end

mutual

/-- The value in which of several fields of one name the last one counts. -/
def settled : Json → Json
  | .array items => .array (settledItems items)
  | .object fields => .object (settledFields [] fields)
  | value => value

def settledItems : List Json → List Json
  | [] => []
  | item :: rest => item.settled :: settledItems rest

def settledFields (done : List (String × Json)) :
    List (String × Json) → List (String × Json)
  | [] => done
  | (name, value) :: rest => settledFields (setField name value.settled done) rest

end

/-- The plain value of a text. -/
def settled? (json : Json) : Option Json :=
  if json.isMeaningful then some json.settled else none

end Json

end AlertEngine
