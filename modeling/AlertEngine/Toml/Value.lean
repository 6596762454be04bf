import AlertEngine.Json.Value

/-! # TOML values

A moment of TOML, be it a date, a time or both, is kept as its written form. A table keeps its
entries in order and has every key once.
-/

namespace AlertEngine

inductive Toml where
  | string (text : String)
  | integer (value : Int)
  | float (value : Float)
  | bool (value : Bool)
  | moment (text : String)
  | array (items : List Toml)
  | table (entries : List (String × Toml))

namespace Toml

/-- The only field of the object that stands for a moment. -/
def momentField : String := "$__toml_private_datetime"

mutual

/-- The JSON value that says the same. An infinity and what is no number become null, and a moment
    becomes an object of one field. -/
def toJson : Toml → Json
  | .string text => .string text
  | .integer value => .int value
  | .float value => .float value
  | .bool value => .bool value
  | .moment text => .object [(momentField, .string text)]
  | .array items => .array (itemsToJson items)
  | .table entries => .object (entriesToJson entries)

def itemsToJson : List Toml → List Json
  | [] => []
  | item :: rest => item.toJson :: itemsToJson rest

def entriesToJson : List (String × Toml) → List (String × Json)
  | [] => []
  | (key, value) :: rest => (key, value.toJson) :: entriesToJson rest

end

end Toml

end AlertEngine
