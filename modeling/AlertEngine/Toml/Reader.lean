import AlertEngine.Decimal.Reading
import AlertEngine.Text.CodeRanges
import AlertEngine.Toml.Moment
import AlertEngine.Toml.Table

/-! # Reading TOML

A document is read line by line into statements, which are then put together. A reader takes
something off the front of the text and leaves the rest. What may be nested is limited: values
inside each other as well as the names of a dotted key.
-/

namespace AlertEngine.Toml

/-- How many containers a value may hold inside each other, and how many names a key may have. -/
def nestingLimit : Nat := 79

def isSpace (c : Char) : Bool :=
  c = ' ' || c = '\t'

def skipSpace (text : List Char) : List Char :=
  text.dropWhile isSpace

/-- Characters of comments and strings: all but the controls, of which a tab is allowed. -/
def isPrinted (c : Char) : Bool :=
  c = '\t' || (0x20 ≤ c.toNat && c.toNat ≠ 0x7F)

def lineEnd? : List Char → Option (List Char)
  | '\n' :: rest => some rest
  | '\r' :: '\n' :: rest => some rest
  | _ => none

def skipComment : List Char → List Char
  | '#' :: rest => rest.dropWhile isPrinted
  | text => text

/-- What follows a line on which nothing but a comment is left. -/
def endOfLine? (text : List Char) : Option (List Char) :=
  match skipComment (skipSpace text) with
  | [] => some []
  | text => lineEnd? text

/-- Skip spaces and line ends. -/
def skipBlankLines : List Char → List Char
  | ' ' :: rest => skipBlankLines rest
  | '\t' :: rest => skipBlankLines rest
  | '\n' :: rest => skipBlankLines rest
  | '\r' :: '\n' :: rest => skipBlankLines rest
  | text => text

/-- Skip spaces, line ends and comments; the flag says whether the text begins inside a
    comment. -/
def skipGap : Bool → List Char → List Char
  | _, [] => []
  | _, '\n' :: rest => skipGap false rest
  | _, '\r' :: '\n' :: rest => skipGap false rest
  | true, c :: rest => if isPrinted c then skipGap true rest else c :: rest
  | false, c :: rest =>
    if c = '#' then skipGap true rest else if isSpace c then skipGap false rest else c :: rest

/-- A character by the hexadecimal digits of its number. -/
def numbered? (count : Nat) (text : List Char) : Option (Char × List Char) :=
  let digits := text.take count
  if digits.length = count ∧ digits.all (fun c => (hexDigit? c).isSome)
      ∧ (hexValue digits).isValidChar then
    some (Char.ofNat (hexValue digits), text.drop count)
  else none

/-- The character of an escape after its backslash. -/
def escape? : List Char → Option (Char × List Char)
  | '"' :: rest => some ('"', rest)
  | '\\' :: rest => some ('\\', rest)
  | 'b' :: rest => some ('\x08', rest)
  | 'f' :: rest => some ('\x0c', rest)
  | 'n' :: rest => some ('\n', rest)
  | 'r' :: rest => some ('\r', rest)
  | 't' :: rest => some ('\t', rest)
  | 'u' :: rest => numbered? 4 rest
  | 'U' :: rest => numbered? 8 rest
  | _ => none

/-- The characters of a basic string behind its opening quote. Every step takes at least one
    character, so the length of the text is fuel enough. -/
def basicBody? : Nat → List Char → List Char → Option (String × List Char)
  | 0, _, _ => none
  | _ + 1, _, [] => none
  | fuel + 1, taken, c :: rest =>
    if c = '"' then some (String.ofList taken.reverse, rest)
    else if c = '\\' then
      match escape? rest with
      | some (d, rest) => basicBody? fuel (d :: taken) rest
      | none => none
    else if isPrinted c then basicBody? fuel (c :: taken) rest
    else none

/-- The characters of a literal string behind its opening quote. -/
def literalBody? (text : List Char) : Option (String × List Char) :=
  match text.span fun c => isPrinted c && c ≠ '\'' with
  | (taken, '\'' :: rest) => some (String.ofList taken, rest)
  | _ => none

/-- What follows a backslash at the end of a line and the blanks behind it. -/
def continuation? (text : List Char) : Option (List Char) :=
  (lineEnd? (skipSpace text)).map skipBlankLines

/-- The characters of a string of many lines. Three quotes close it; up to two more in front of
    them belong to it. Escapes are known between double quotes only. -/
def linesBody? (quote : Char) : Nat → List Char → List Char → Option (String × List Char)
  | 0, _, _ => none
  | fuel + 1, taken, text =>
    let quotes := (text.takeWhile (· = quote)).length
    if 5 < quotes then none
    else if 3 ≤ quotes then
      some (String.ofList (List.replicate (quotes - 3) quote ++ taken).reverse, text.drop quotes)
    else
      match lineEnd? text, text with
      | some rest, _ => linesBody? quote fuel ('\n' :: taken) rest
      | none, [] => none
      | none, c :: rest =>
        if c = '\\' ∧ quote = '"' then
          match continuation? rest, escape? rest with
          | some rest, _ => linesBody? quote fuel taken rest
          | none, some (d, rest) => linesBody? quote fuel (d :: taken) rest
          | none, none => none
        else if isPrinted c then linesBody? quote fuel (c :: taken) rest
        else none

/-- A line end right behind the opening quotes does not belong to the string. -/
def linesString? (quote : Char) (text : List Char) : Option (String × List Char) :=
  linesBody? quote (text.length + 1) [] ((lineEnd? text).getD text)

/-- A string on one line. -/
def lineString? : List Char → Option (String × List Char)
  | '"' :: rest => basicBody? (rest.length + 1) [] rest
  | '\'' :: rest => literalBody? rest
  | _ => none

def string? (text : List Char) : Option (String × List Char) :=
  match text with
  | '"' :: '"' :: '"' :: rest => linesString? '"' rest
  | '\'' :: '\'' :: '\'' :: rest => linesString? '\'' rest
  | text => lineString? text

def isKeyChar (c : Char) : Bool :=
  c.isAlphanum || c = '_' || c = '-'

/-- A name in quotes or a run of bare characters. -/
def name? (text : List Char) : Option (String × List Char) :=
  match text.span isKeyChar with
  | ([], text) => lineString? text
  | (name, rest) => some (String.ofList name, rest)

/-- Names with points between them and spaces around each. -/
def keyUpTo? : Nat → List Char → Option (Key × List Char)
  | 0, _ => none
  | count + 1, text =>
    match name? (skipSpace text) with
    | none => none
    | some (name, rest) =>
      match skipSpace rest with
      | '.' :: rest => (keyUpTo? count rest).map fun (names, rest) => (name :: names, rest)
      | rest => some ([name], rest)

def key? (text : List Char) : Option (Key × List Char) :=
  keyUpTo? nestingLimit text

/-- Digits with single underscores between them, which are left out. -/
def digits? (isDigit : Char → Bool) (text : List Char) : Option (List Char × List Char) :=
  let (run, rest) := text.span fun c => isDigit c || c = '_'
  if (pieces '_' run).all (!·.isEmpty) then some (run.filter (· ≠ '_'), rest) else none

def fraction? : List Char → Option (List Char × List Char)
  | '.' :: rest => digits? Char.isDigit rest
  | text => some ([], text)

/-- The written power of ten; `none` inside says that there is none. -/
def power? : List Char → Option (Option Int × List Char)
  | [] => some (none, [])
  | e :: rest =>
    if e ≠ 'e' ∧ e ≠ 'E' then some (none, e :: rest)
    else
      match rest with
      | '-' :: rest => power rest fun n => -(n : Int)
      | '+' :: rest => power rest fun n => (n : Int)
      | rest => power rest fun n => (n : Int)
where
  power (text : List Char) (sign : Nat → Int) : Option (Option Int × List Char) :=
    (digits? Char.isDigit text).map fun (digits, rest) =>
      (some (sign (Decimal.digitsValue digits)), rest)

/-- An integer of 64 bits with a sign. -/
def integer? (value : Int) : Option Toml :=
  if fitsSigned value then some (.integer value) else none

/-- A size beyond every double is refused unless it is negative. -/
def float? (negative : Bool) (size : Float) : Option Toml :=
  if negative then some (.float (-size)) else if size.isInf then none else some (.float size)

/-- A decimal number without its sign: an integer without leading zeros, or such a number with a
    fraction or a power. -/
def decimal? (negative : Bool) (text : List Char) : Option (Toml × List Char) := do
  let (whole, text) ← digits? Char.isDigit text
  if 1 < whole.length ∧ whole.head? = some '0' then none
  else do
    let (fraction, text) ← fraction? text
    let (power, text) ← power? text
    let size : Int := Decimal.digitsValue whole
    let value ←
      if fraction.isEmpty && power.isNone then integer? (if negative then -size else size)
      else float? negative (Decimal.Token.mk whole fraction (power.getD 0)).nearest
    pure (value, text)

/-- An integer in base 2, 8 or 16. -/
def based? (base : Nat) (text : List Char) : Option (Toml × List Char) := do
  let isDigit (c : Char) : Bool := (hexDigit? c).any (· < base)
  let (digits, text) ← digits? isDigit text
  let value ← integer? (digits.foldl (fun n c => n * base + (hexDigit? c).getD 0) 0 : Nat)
  pure (value, text)

def signed? (negative : Bool) : List Char → Option (Toml × List Char)
  | 'i' :: 'n' :: 'f' :: rest =>
    some (.float (if negative then -1.0 / 0.0 else 1.0 / 0.0), rest)
  | 'n' :: 'a' :: 'n' :: rest => some (.float (0.0 / 0.0), rest)
  | text => decimal? negative text

def number? : List Char → Option (Toml × List Char)
  | '-' :: rest => signed? true rest
  | '+' :: rest => signed? false rest
  | '0' :: 'x' :: rest => based? 16 rest
  | '0' :: 'o' :: rest => based? 8 rest
  | '0' :: 'b' :: rest => based? 2 rest
  | text => signed? false text

def bool? : List Char → Option (Toml × List Char)
  | 't' :: 'r' :: 'u' :: 'e' :: rest => some (.bool true, rest)
  | 'f' :: 'a' :: 'l' :: 's' :: 'e' :: rest => some (.bool false, rest)
  | _ => none

/-- A value that is no container. -/
def scalar? (text : List Char) : Option (Toml × List Char) :=
  match moment? text with
  | some (written, rest) => some (.moment written, rest)
  | none =>
    match string? text with
    | some (s, rest) => some (.string s, rest)
    | none => (bool? text).or (number? text)

mutual

/-- One value off the front of a text that does not begin with a space. -/
def value? : Nat → Nat → List Char → Option (Toml × List Char)
  | 0, _, _ => none
  | _ + 1, 0, text => scalar? text
  | fuel + 1, depth + 1, text =>
    match text with
    | '[' :: rest =>
      (items? fuel depth (skipGap false rest)).map fun (items, rest) => (.array items, rest)
    | '\x7b' :: rest =>
      match skipSpace rest with
      | '\x7d' :: rest => some (.table [], rest)
      | rest => do
        let (pairs, rest) ← pairs? fuel depth rest
        let table ← ofPairs? pairs
        pure (table, rest)
    | text => scalar? text

/-- The items of an array up to its closing bracket. The last one may have a comma behind it. -/
def items? : Nat → Nat → List Char → Option (List Toml × List Char)
  | 0, _, _ => none
  | fuel + 1, depth, text =>
    match text with
    | ']' :: rest => some ([], rest)
    | text =>
      match value? fuel depth text with
      | none => none
      | some (item, rest) =>
        match skipGap false rest with
        | ']' :: rest => some ([item], rest)
        | ',' :: rest =>
          (items? fuel depth (skipGap false rest)).map fun (items, rest) => (item :: items, rest)
        | _ => none

/-- The pairs of a table up to its closing brace, at least one and all on one line. -/
def pairs? : Nat → Nat → List Char → Option (List (Key × Toml) × List Char)
  | 0, _, _ => none
  | fuel + 1, depth, text =>
    match key? text with
    | some (key, '=' :: rest) =>
      match value? fuel depth (skipSpace rest) with
      | none => none
      | some (value, rest) =>
        match skipSpace rest with
        | '\x7d' :: rest => some ([(key, value)], rest)
        | ',' :: rest =>
          (pairs? fuel depth rest).map fun (pairs, rest) => ((key, value) :: pairs, rest)
        | _ => none
    | _ => none

end

/-- The statement of a line and the lines after it. -/
def statement? (text : List Char) : Option (Statement × List Char) :=
  match text with
  | '[' :: '[' :: rest =>
    match key? rest with
    | some (key, ']' :: ']' :: rest) => (endOfLine? rest).map fun rest => (.row key, rest)
    | _ => none
  | '[' :: rest =>
    match key? rest with
    | some (key, ']' :: rest) => (endOfLine? rest).map fun rest => (.table key, rest)
    | _ => none
  | text =>
    match key? text with
    | some (key, '=' :: rest) => do
      let (value, rest) ← value? (2 * rest.length + 2) nestingLimit (skipSpace rest)
      let rest ← endOfLine? rest
      pure (.pair key value, rest)
    | _ => none

/-- The statements of a text. Every line takes at least one character, so the length of the text
    is fuel enough. -/
def statements? : Nat → List Char → Option (List Statement)
  | 0, _ => none
  | fuel + 1, text =>
    match skipSpace text with
    | [] => some []
    | text =>
      match endOfLine? text with
      | some rest => statements? fuel rest
      | none => do
        let (statement, rest) ← statement? text
        let statements ← statements? fuel rest
        pure (statement :: statements)

/-- Read a whole text, in front of which a byte order mark may stand. -/
def read? (text : String) : Option Toml :=
  let chars :=
    match text.toList with
    | '\ufeff' :: rest => rest
    | chars => chars
  (statements? (chars.length + 1) chars).bind ofStatements?

end AlertEngine.Toml
