import AlertEngine.Decimal.Reading
import AlertEngine.Json.Value
import AlertEngine.Text.CodeRanges

/-! # Reading JSON

Strict JSON: one value with nothing but blanks around it, no trailing commas, known escapes, no
bare controls in strings, and numbers without leading zeros. What is well formed but names half of
a character, a number beyond every double, or a container below the limit of nesting is read as
`Json.meaningless`. A reader takes a value off the front of the text and leaves the rest.
-/

namespace AlertEngine.Json

/-- How many containers a document may hold inside each other. -/
def nestingLimit : Nat := 127

def isSpace (c : Char) : Bool :=
  c = ' ' || c = '\n' || c = '\t' || c = '\r'

def skipSpace (text : List Char) : List Char :=
  text.dropWhile isSpace

/-- Four hexadecimal digits as one code unit. -/
def codeUnit? : List Char → Option (Nat × List Char)
  | a :: b :: c :: d :: rest => do
    let digits ← [a, b, c, d].mapM hexDigit?
    pure (digits.foldl (fun value digit => value * 16 + digit) 0, rest)
  | _ => none

/-- The character of an escape after its backslash. A high surrogate stands for a character
    together with a low one behind it; a surrogate by itself stands for none. -/
def escape? : List Char → Option (Option Char × List Char)
  | '"' :: rest => some ('"', rest)
  | '\\' :: rest => some ('\\', rest)
  | '/' :: rest => some ('/', rest)
  | 'b' :: rest => some ('\x08', rest)
  | 'f' :: rest => some ('\x0c', rest)
  | 'n' :: rest => some ('\n', rest)
  | 'r' :: rest => some ('\r', rest)
  | 't' :: rest => some ('\t', rest)
  | 'u' :: rest => do
    let (unit, rest) ← codeUnit? rest
    if 0xD800 ≤ unit ∧ unit < 0xDC00 then
      let low? : Option (Nat × List Char) :=
        match rest with
        | '\\' :: 'u' :: rest =>
          (codeUnit? rest).filter fun (low, _) => 0xDC00 ≤ low ∧ low < 0xE000
        | _ => none
      match low? with
      | some (low, rest) =>
        some (Char.ofNat (0x10000 + (unit - 0xD800) * 0x400 + (low - 0xDC00)), rest)
      | none => some (none, rest)
    else if 0xDC00 ≤ unit ∧ unit < 0xE000 then some (none, rest)
    else some (Char.ofNat unit, rest)
  | _ => none

/-- What is written of a string behind its opening quote, up to the closing one. -/
def written? : List Char → Option (List Char × List Char)
  | [] => none
  | '"' :: rest => some ([], rest)
  | '\\' :: c :: rest => (written? rest).map fun (inside, rest) => ('\\' :: c :: inside, rest)
  | c :: rest =>
    if c.toNat < 0x20 then none
    else (written? rest).map fun (inside, rest) => (c :: inside, rest)

/-- The characters that are written inside of a string, if all of it stands for characters. Every
    step takes at least one character, so the length of what is written is fuel enough. -/
def unescaped? : Nat → Option (List Char) → List Char → Option (Option String)
  | _, taken, [] => some (taken.map fun taken => String.ofList taken.reverse)
  | 0, _, _ => none
  | fuel + 1, taken, c :: rest =>
    if c = '\\' then
      match escape? rest with
      | some (d, rest) =>
        unescaped? fuel (d.bind fun d => taken.map fun taken => d :: taken) rest
      | none => none
    else unescaped? fuel (taken.map fun taken => c :: taken) rest

def string? (text : List Char) : Option (Option String × List Char) :=
  match text with
  | '"' :: rest => do
    let (inside, rest) ← written? rest
    let text ← unescaped? inside.length (some []) inside
    pure (text, rest)
  | _ => none

/-- The whole part of a number: a single zero or digits that do not begin with one. -/
def wholeDigits? (text : List Char) : Option (List Char × List Char) :=
  match text.span Char.isDigit with
  | ([], _) => none
  | ('0' :: _ :: _, _) => none
  | (digits, rest) => some (digits, rest)

def fraction? : List Char → Option (List Char × List Char)
  | '.' :: rest =>
    match rest.span Char.isDigit with
    | ([], _) => none
    | (digits, rest) => some (digits, rest)
  | text => some ([], text)

/-- The written power of ten; `none` inside says that there is none. -/
def power? : List Char → Option (Option Int × List Char)
  | e :: rest =>
    if e = 'e' ∨ e = 'E' then
      let (negative, rest) :=
        match rest with
        | '-' :: rest => (true, rest)
        | '+' :: rest => (false, rest)
        | rest => (false, rest)
      match rest.span Char.isDigit with
      | ([], _) => none
      | (digits, rest) =>
        let n : Int := Decimal.digitsValue digits
        some (some (if negative then -n else n), rest)
    else some (none, e :: rest)
  | [] => some (none, [])

/-- Integers that fit stay integers; negative zero and everything else is a double, and a number
    beyond every double is none. -/
def number? (text : List Char) : Option (Option Number × List Char) := do
  let (negative, text) :=
    match text with
    | '-' :: rest => (true, rest)
    | text => (false, text)
  let (whole, text) ← wholeDigits? text
  let (fraction, text) ← fraction? text
  let (power, text) ← power? text
  let digits : Int := Decimal.digitsValue whole
  let value := if negative then -digits else digits
  let isInteger := fraction.isEmpty && power.isNone && !(negative && digits = 0)
  if isInteger && (fitsSigned value || fitsUnsigned value) then
    pure (some (.int value), text)
  else
    let size := (Decimal.Token.mk whole fraction (power.getD 0)).scaled?
    pure (size.map fun size => .float (if negative then -size else size), text)

/-- Take a fixed word off the front. -/
def word? (word : List Char) (value : Json) (text : List Char) : Option (Json × List Char) :=
  if word.isPrefixOf text then some (value, text.drop word.length) else none

/-- What stands for a value, or the value that stands for nothing. -/
def orMeaningless (value : Option Json) : Json :=
  value.getD .meaningless

mutual

/-- One value off the front of a text that does not begin with a blank. What is in a container
    below the limit is read without a level of its own. -/
def value? : Nat → Nat → List Char → Option (Json × List Char)
  | 0, _, _ => none
  | _ + 1, _, [] => none
  | fuel + 1, depth, c :: rest =>
    match c with
    | 'n' => word? "null".toList .null (c :: rest)
    | 't' => word? "true".toList (.bool true) (c :: rest)
    | 'f' => word? "false".toList (.bool false) (c :: rest)
    | '"' => (string? (c :: rest)).map fun (s, rest) => (orMeaningless (s.map .string), rest)
    | '[' =>
      let shown (items : List Json) : Json := if depth = 0 then .meaningless else .array items
      match skipSpace rest with
      | ']' :: rest => some (shown [], rest)
      | rest => (items? fuel (depth - 1) rest).map fun (items, rest) => (shown items, rest)
    | '\x7b' =>
      let shown (fields : Option (List (String × Json))) : Json :=
        if depth = 0 then .meaningless else orMeaningless (fields.map .object)
      match skipSpace rest with
      | '\x7d' :: rest => some (shown (some []), rest)
      | rest => (fields? fuel (depth - 1) rest).map fun (fields, rest) => (shown fields, rest)
    | _ => (number? (c :: rest)).map fun (n, rest) => (orMeaningless (n.map .number), rest)

/-- The items of an array behind its opening bracket, at least one. -/
def items? : Nat → Nat → List Char → Option (List Json × List Char)
  | 0, _, _ => none
  | fuel + 1, depth, text =>
    match value? fuel depth text with
    | none => none
    | some (item, rest) =>
      match skipSpace rest with
      | ']' :: rest => some ([item], rest)
      | ',' :: rest =>
        (items? fuel depth (skipSpace rest)).map fun (items, rest) => (item :: items, rest)
      | _ => none

/-- The fields of an object behind its opening brace, at least one, if all their names are
    texts. -/
def fields? : Nat → Nat → List Char → Option (Option (List (String × Json)) × List Char)
  | 0, _, _ => none
  | fuel + 1, depth, text =>
    match string? text with
    | none => none
    | some (name, rest) =>
      match skipSpace rest with
      | ':' :: rest =>
        match value? fuel depth (skipSpace rest) with
        | none => none
        | some (value, rest) =>
          let field := name.map fun name => (name, value)
          match skipSpace rest with
          | '\x7d' :: rest => some (field.map ([·]), rest)
          | ',' :: rest =>
            (fields? fuel depth (skipSpace rest)).map fun (fields, rest) =>
              (field.bind fun field => fields.map fun fields => field :: fields, rest)
          | _ => none
      | _ => none

end

/-- Read a whole text in which containers nested more than `limit` deep stand for nothing. Every
    value takes at least one character, so twice the length of the text is fuel enough. -/
def readWithin? (limit : Nat) (text : String) : Option Json :=
  let chars := skipSpace text.toList
  match value? (2 * chars.length + 2) limit chars with
  | some (value, rest) => if (skipSpace rest).isEmpty then some value else none
  | none => none

def read? (text : String) : Option Json :=
  readWithin? nestingLimit text

end AlertEngine.Json
