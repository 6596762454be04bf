/-! # The hash of routing keys

Murmur3 in its 128-bit form for 64-bit words, of which the low half is used.
-/

namespace AlertEngine.Murmur

private def c1 : UInt64 := 0x87c37b91114253d5
private def c2 : UInt64 := 0x4cf5ad432745937f

def rotateLeft (x : UInt64) (n : UInt64) : UInt64 :=
  (x <<< n) ||| (x >>> (64 - n))

/-- Up to eight bytes as a number, the first byte lowest. -/
def littleEndian (bytes : List UInt8) : UInt64 :=
  bytes.foldr (fun byte word => word <<< 8 ||| byte.toUInt64) 0

def mixFirst (k : UInt64) : UInt64 :=
  rotateLeft (k * c1) 31 * c2

def mixSecond (k : UInt64) : UInt64 :=
  rotateLeft (k * c2) 33 * c1

def finish (k : UInt64) : UInt64 :=
  let k := (k ^^^ (k >>> 33)) * 0xff51afd7ed558ccd
  let k := (k ^^^ (k >>> 33)) * 0xc4ceb9fe1a85ec53
  k ^^^ (k >>> 33)

/-- Take in one block of sixteen bytes. -/
def absorb (h1 h2 : UInt64) (block : List UInt8) : UInt64 × UInt64 :=
  let h1 := h1 ^^^ mixFirst (littleEndian (block.take 8))
  let h1 := (rotateLeft h1 27 + h2) * 5 + 0x52dce729
  let h2 := h2 ^^^ mixSecond (littleEndian (block.drop 8))
  let h2 := (rotateLeft h2 31 + h1) * 5 + 0x38495ab5
  (h1, h2)

/-- Take in all whole blocks and then the bytes that are left. -/
def absorbAll (h1 h2 : UInt64) (bytes : List UInt8) : UInt64 × UInt64 :=
  if 16 ≤ bytes.length then
    let (h1, h2) := absorb h1 h2 (bytes.take 16)
    absorbAll h1 h2 (bytes.drop 16)
  else
    (h1 ^^^ mixFirst (littleEndian (bytes.take 8)),
      h2 ^^^ mixSecond (littleEndian (bytes.drop 8)))
termination_by bytes.length
decreasing_by simp; omega

/-- The low 64 bits of the hash. -/
def hash (seed : UInt32) (bytes : List UInt8) : UInt64 :=
  let (h1, h2) := absorbAll seed.toUInt64 seed.toUInt64 bytes
  let length := bytes.length.toUInt64
  let h1 := h1 ^^^ length
  let h2 := h2 ^^^ length
  let h1 := h1 + h2
  let h2 := h2 + h1
  finish h1 + finish h2

/-- The hash of texts written one after the other. -/
def hashTexts (seed : UInt32) (texts : List String) : UInt64 :=
  hash seed (texts.flatMap fun text => text.toUTF8.toList)

end AlertEngine.Murmur
