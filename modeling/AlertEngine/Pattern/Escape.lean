import AlertEngine.Pattern.Flags
import AlertEngine.Text.CodeRanges

/-! # Escapes in patterns

What stands behind a backslash: a character by its letter or its code, a class, or a place between
two characters. Classes of characters by a property, `\p` and `\P`, are left out: a pattern that has
one is refused here.
-/

namespace AlertEngine.Pattern

/-- What an escape stands for. -/
inductive Atom where
  | literal (c : Char)
  | among (characters : CharClass)
  | place (anchor : Anchor)
  deriving Repr, DecidableEq

def codePoint (value : Nat) : Except Error Char :=
  if h : value.isValidChar then .ok (Char.ofNatAux value h) else .error .badCodePoint

/-- Hexadecimal digits up to a closing brace. -/
def bracedCode (flags : Flags) : Nat → List Char → List Char → Except Error (Char × List Char)
  | 0, _, _ => .error .unfinishedEscape
  | _ + 1, _, [] => .error .unfinishedEscape
  | fuel + 1, taken, c :: rest =>
    if c = '\x7d' then
      if taken.isEmpty then .error .badCodePoint
      else (codePoint (hexValue taken.reverse)).map fun c => (c, rest)
    else if (hexDigit? c).isNone then .error .badCodePoint
    else bracedCode flags fuel (c :: taken) (flags.skip rest)

/-- A fixed number of hexadecimal digits. -/
def fixedCode (flags : Flags) : Nat → List Char → List Char → Except Error (Char × List Char)
  | 0, taken, rest => (codePoint (hexValue taken.reverse)).map fun c => (c, rest)
  | _ + 1, _, [] => .error .unfinishedEscape
  | count + 1, taken, c :: rest =>
    if (hexDigit? c).isNone then .error .badCodePoint
    else fixedCode flags count (c :: taken) (if count = 0 then rest else flags.skip rest)

/-- Digits behind `\x`, `\u` or `\U`, in braces or as many as the letter asks for. Two digits
    without braces are a byte, if classes are those of ASCII. -/
def hexEscape (flags : Flags) (count : Nat) (text : List Char) :
    Except Error (Char × List Char) :=
  match flags.skip text with
  | [] => .error .unfinishedEscape
  | '\x7b' :: rest => bracedCode flags (rest.length + 1) [] (flags.skip rest)
  | rest => do
    let (c, rest) ← fixedCode flags count [] rest
    if flags.ascii ∧ count = 2 ∧ 128 ≤ c.toNat then .error .invalidEncoding else pure (c, rest)

/-- The named word boundaries. -/
def boundary? : String → Option WordPlace
  | "start" => some .start
  | "end" => some .finish
  | "start-half" => some .startHalf
  | "end-half" => some .finishHalf
  | _ => none

/-- What follows `\b`: a name in braces, or anything else, which is left alone. -/
def boundaryEscape (flags : Flags) (text : List Char) : Except Error (Atom × List Char) :=
  let isNameChar (c : Char) : Bool := c.isAlpha || c = '-'
  match text with
  | '\x7b' :: rest =>
    match flags.skip rest with
    | [] => .error .unfinishedEscape
    | c :: rest' =>
      if !isNameChar c then .ok (.place (.word .boundary flags.ascii), text)
      else
        let (name, behind) := (c :: rest').span isNameChar
        match behind, boundary? (String.ofList name) with
        | '\x7d' :: behind, some place => .ok (.place (.word place flags.ascii), behind)
        | _, _ => .error .unknownEscape
  | _ => .ok (.place (.word .boundary flags.ascii), text)

/-- The atom behind a backslash. -/
def escape (flags : Flags) : List Char → Except Error (Atom × List Char)
  | [] => .error .unfinishedEscape
  | c :: rest =>
    match c with
    | 'x' => (hexEscape flags 2 rest).map fun (c, rest) => (.literal c, rest)
    | 'u' => (hexEscape flags 4 rest).map fun (c, rest) => (.literal c, rest)
    | 'U' => (hexEscape flags 8 rest).map fun (c, rest) => (.literal c, rest)
    | 'd' => .ok (.among (flags.within Text.digits), rest)
    | 'D' => (flags.complement Text.digits).map fun among => (.among among, rest)
    | 's' => .ok (.among (flags.within Text.blanks), rest)
    | 'S' => (flags.complement Text.blanks).map fun among => (.among among, rest)
    | 'w' => .ok (.among (flags.within Text.wordCharacters), rest)
    | 'W' => (flags.complement Text.wordCharacters).map fun among => (.among among, rest)
    | 'a' => .ok (.literal '\x07', rest)
    | 'f' => .ok (.literal '\x0c', rest)
    | 't' => .ok (.literal '\t', rest)
    | 'n' => .ok (.literal '\n', rest)
    | 'r' => .ok (.literal '\r', rest)
    | 'v' => .ok (.literal '\x0b', rest)
    | 'A' => .ok (.place .textStart, rest)
    | 'z' => .ok (.place .textEnd, rest)
    | 'b' => boundaryEscape flags rest
    | 'B' => .ok (.place (.word .noBoundary flags.ascii), rest)
    | '<' => .ok (.place (.word .start flags.ascii), rest)
    | '>' => .ok (.place (.word .finish flags.ascii), rest)
    | c =>
      if c.isDigit then .error .backReference
      else if c.toNat < 128 ∧ !c.isAlpha then .ok (.literal c, rest)
      else .error .unknownEscape

end AlertEngine.Pattern
