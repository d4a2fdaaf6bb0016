/-!
# Hashes of bytes

The hash of a sequence of bytes is one word. Eight bytes at a time go into four words, which a round
of additions, rotations and exclusive ors then mixes; the last bytes go in with the number of all of
them, and three rounds follow. This is SipHash with a key of zeros: unequal sequences have one hash
only where chance would have it.
-/

namespace RelMap

/-- Bytes as a word, the first of them lowest. -/
def wordOfBytes (bytes : List UInt8) : UInt64 :=
  bytes.foldr (fun b w => (w <<< 8) ||| b.toUInt64) 0

/-- So many of the bytes of a word, the lowest first. -/
def bytesOfWord : Nat → UInt64 → List UInt8
  | 0, _ => []
  | n + 1, w => w.toUInt8 :: bytesOfWord n (w >>> 8)

/-- The four words that bytes are mixed into, as they are before the first byte. -/
structure Mixture where
  a : UInt64 := 0x736f6d6570736575
  b : UInt64 := 0x646f72616e646f6d
  c : UInt64 := 0x6c7967656e657261
  d : UInt64 := 0x7465646279746573
  deriving DecidableEq, Repr

namespace Mixture

/-- A word rotated to the left by less than its width. -/
def rotated (w n : UInt64) : UInt64 := (w <<< n) ||| (w >>> (64 - n))

/-- The words after one round. -/
def round (m : Mixture) : Mixture :=
  let ab := m.a + m.b
  let cd := m.c + m.d
  let b := rotated m.b 13 ^^^ ab
  let d := rotated m.d 16 ^^^ cd
  let bc := cd + b
  let da := rotated ab 32 + d
  ⟨da, rotated b 17 ^^^ bc, rotated bc 32, rotated d 21 ^^^ da⟩

/-- The words with one more word mixed into them. -/
def absorb (m : Mixture) (w : UInt64) : Mixture :=
  let mixed := round { m with d := m.d ^^^ w }
  { mixed with a := mixed.a ^^^ w }

/-- The words with all whole words of some bytes mixed into them, and the bytes that are left. -/
def absorbBytes (m : Mixture) : List UInt8 → Mixture × List UInt8
  | a :: b :: c :: d :: e :: f :: g :: h :: rest =>
    absorbBytes (m.absorb (wordOfBytes [a, b, c, d, e, f, g, h])) rest
  | rest => (m, rest)

/-- One word for the four. -/
def digest (m : Mixture) : UInt64 :=
  let last := round (round (round { m with c := m.c ^^^ 0xff }))
  last.a ^^^ last.b ^^^ last.c ^^^ last.d

end Mixture

/-- The hash of bytes; of their number only the lowest byte goes in. -/
def hashBytes (bytes : List UInt8) : UInt64 :=
  let (m, rest) := Mixture.absorbBytes {} bytes
  (m.absorb (wordOfBytes rest ||| (UInt64.ofNat bytes.length <<< 56))).digest

end RelMap
