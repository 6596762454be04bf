import AlertEngine.Text.CaseFold
import AlertEngine.Text.Word

/-! # Character classes

Sets of characters as patterns describe them.
-/

namespace AlertEngine

abbrev CharClass := CodeRanges

namespace CharClass

open CodeRanges in
/-- The named classes of ASCII characters. -/
def named? : String → Option CharClass
  | "alnum" => some (unionOf [range '0' '9', range 'A' 'Z', range 'a' 'z'])
  | "alpha" => some (unionOf [range 'A' 'Z', range 'a' 'z'])
  | "ascii" => some (range '\x00' '\x7f')
  | "blank" => some (unionOf [single '\t', single ' '])
  | "cntrl" => some (unionOf [range '\x00' '\x1f', single '\x7f'])
  | "digit" => some (range '0' '9')
  | "graph" => some (range '!' '~')
  | "lower" => some (range 'a' 'z')
  | "print" => some (range ' ' '~')
  | "punct" =>
    some (unionOf [range '!' '/', range ':' '@', range '[' '\x60', range '\x7b' '~'])
  | "space" => some (unionOf [range '\t' '\r', single ' '])
  | "upper" => some (range 'A' 'Z')
  | "word" => some (unionOf [range '0' '9', range 'A' 'Z', single '_', range 'a' 'z'])
  | "xdigit" => some (unionOf [range '0' '9', range 'A' 'F', range 'a' 'f'])
  | _ => none

/-- The characters below 128. -/
def ascii : CharClass := CodeRanges.range '\x00' '\x7f'

end CharClass

end AlertEngine
