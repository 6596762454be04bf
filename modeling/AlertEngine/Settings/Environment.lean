import AlertEngine.Decimal.Reading
import AlertEngine.Settings.Layer
import AlertEngine.Text.LowerCase

/-! # Settings in the environment

A variable sets an entry if its name begins with a leading name and two underscores. The rest of
the name is a path, with two underscores between its names. Names are compared and read in small
letters. A value that reads as a truth value or as a number is one.
-/

namespace AlertEngine.Environment

/-- A variable and its value. -/
abbrev Variable := String × String

/-- The leading name of the engine's variables. -/
def engineName : String := "EVENT"

/-- The customary name of the variable for a path. -/
def nameOf (lead : String) (path : List String) : String :=
  let upper (name : String) : String := String.ofList (name.toList.map Char.toUpper)
  String.intercalate "__" (lead :: path.map upper)

/-- What a leading name and two underscores leave of the name of a variable, in small letters. -/
def afterName? (lead name : String) : Option (List Char) :=
  let mark := (Text.lowered (lead ++ "__")).toList
  let chars := (Text.lowered name).toList
  if mark.isPrefixOf chars then some (chars.drop mark.length) else none

/-- Write a point for every two underscores. -/
def pointed : List Char → List Char
  | '_' :: '_' :: rest => '.' :: pointed rest
  | c :: rest => c :: pointed rest
  | [] => []

/-- An integer of 64 bits with or without a sign. -/
def int? (text : List Char) : Option Int := do
  let value ←
    match text with
    | '-' :: digits => (Decimal.natural? digits).map fun n => -(n : Int)
    | '+' :: digits => (Decimal.natural? digits).map fun n => (n : Int)
    | digits => (Decimal.natural? digits).map fun n => (n : Int)
  if fitsSigned value then some value else none

/-- A decimal, an infinity or what is no number, with or without a sign. -/
def float? (text : List Char) : Option Float :=
  match text with
  | '-' :: size => (size? size).map (-·)
  | '+' :: size => size? size
  | size => size? size
where
  size? (text : List Char) : Option Float :=
    match String.ofList (text.map Char.toLower) with
    | "inf" | "infinity" => some (1.0 / 0.0)
    | "nan" => some (0.0 / 0.0)
    | _ => (Decimal.Token.ofText? text).map (·.nearest)

def value (text : String) : Setting :=
  let chars := text.toList
  match String.ofList (chars.map Char.toLower) with
  | "true" => .bool true
  | "false" => .bool false
  | _ =>
    match int? chars, float? chars with
    | some n, _ => .int n
    | none, some x => .float x
    | none, none => .string text

/-- The settings of those variables that carry a leading name. -/
def layer (lead : String) (environment : List Variable) : Setting.Entries :=
  environment.filterMap fun (name, text) =>
    (afterName? lead name).map fun rest => (String.ofList (pointed rest), value text)

end AlertEngine.Environment
