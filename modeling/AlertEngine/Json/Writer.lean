import AlertEngine.Json.Value

/-! # Writing JSON

Compact JSON with the fewest escapes. How a double is written is left to the caller, because
answers and stored documents differ in it. What stands for nothing is written as null.
-/

namespace AlertEngine.Json

def escapedChar (c : Char) : List Char :=
  match c with
  | '"' => ['\\', '"']
  | '\\' => ['\\', '\\']
  | '\n' => ['\\', 'n']
  | '\r' => ['\\', 'r']
  | '\t' => ['\\', 't']
  | c =>
    if c.toNat < 0x20 then
      ['\\', 'u', '0', '0', Nat.digitChar (c.toNat / 16), Nat.digitChar (c.toNat % 16)]
    else [c]

def writeString (s : String) : String :=
  String.ofList ('"' :: (s.toList.flatMap escapedChar ++ ['"']))

def braces (parts : List String) : String :=
  "\x7b" ++ ",".intercalate parts ++ "\x7d"

mutual

def writeWith (double : Float → String) : Json → String
  | .null | .meaningless => "null"
  | .bool value => if value then "true" else "false"
  | .number (.int value) => toString value
  | .number (.float value) => double value
  | .string value => writeString value
  | .array items => "[" ++ ",".intercalate (writeItems double items) ++ "]"
  | .object fields => braces (writeFields double fields)

def writeItems (double : Float → String) : List Json → List String
  | [] => []
  | item :: rest => item.writeWith double :: writeItems double rest

def writeFields (double : Float → String) : List (String × Json) → List String
  | [] => []
  | (name, value) :: rest =>
    (writeString name ++ ":" ++ value.writeWith double) :: writeFields double rest

end

end AlertEngine.Json
