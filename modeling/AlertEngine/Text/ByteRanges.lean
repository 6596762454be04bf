import AlertEngine.Text.CodeRanges

/-! # Encoded forms of ranges

The characters of a range in UTF-8. A sequence of byte ranges stands for the encodings whose bytes
lie in its ranges one by one, and a few such sequences cover a range of characters.
-/

namespace AlertEngine

/-- Bytes from `first` to `last`, both included. -/
structure ByteRange where
  first : Nat
  last : Nat
  deriving Repr, DecidableEq

namespace ByteRange

/-- A byte behind the first one of a character. -/
def continuation : ByteRange := ⟨0x80, 0xBF⟩

/-- The sequences for the numbers from `low` to `high`, written in base 64 with `count` digits
    behind the first one, which counts from `lead`. Numbers that share their first digit are
    split at the next one; those between two digits take all that follows. -/
def sequencesFrom (lead : Nat) : Nat → Nat → Nat → List (List ByteRange)
  | 0, low, high => [[⟨lead + low, lead + high⟩]]
  | count + 1, low, high =>
    let size := 1 <<< (6 * (count + 1))
    let start := low / size
    let finish := high / size
    let behind (digit low high : Nat) : List (List ByteRange) :=
      (sequencesFrom 0x80 count low high).map (⟨lead + digit, lead + digit⟩ :: ·)
    if start = finish then behind start (low % size) (high % size)
    else
      let isWholeStart := low % size = 0
      let isWholeFinish := high % size = size - 1
      let start' := if isWholeStart then start else start + 1
      let finish' := if isWholeFinish then finish + 1 else finish
      (if isWholeStart then [] else behind start (low % size) (size - 1))
        ++ (if start' < finish' then
          [⟨lead + start', lead + finish' - 1⟩ :: List.replicate (count + 1) continuation]
        else [])
        ++ (if isWholeFinish then [] else behind finish 0 (high % size))

/-- The characters that take equally many bytes: the first and the last one, the first byte to
    count from, and the number of bytes behind it. Surrogates are no characters. -/
def lengthClasses : List (Nat × Nat × Nat × Nat) :=
  [(0, 0x7F, 0, 0), (0x80, 0x7FF, 0xC0, 1), (0x800, 0xD7FF, 0xE0, 2), (0xE000, 0xFFFF, 0xE0, 2),
    (0x10000, 0x10FFFF, 0xF0, 3)]

/-- The sequences for a range of characters. -/
def sequences (range : CodeRange) : List (List ByteRange) :=
  lengthClasses.flatMap fun (first, last, lead, count) =>
    let low := max range.first first
    let high := min range.last last
    if low ≤ high then sequencesFrom lead count low high else []

end ByteRange

end AlertEngine
