/-!
# Binary floating-point numbers

The two IEEE binary formats as bit patterns. A pattern is decoded into the number it denotes, an
operation is carried out exactly on what it denotes, and the exact result is rounded once, to the
nearest pattern and to the even one of two equally near.
-/

namespace RelMap

/-- A binary format: how many bits its fraction and its exponent take. -/
structure BinaryFormat where
  /-- Bits of the fraction. -/
  fractionBits : Nat
  /-- Bits of the exponent. -/
  exponentBits : Nat

/-- What a bit pattern denotes; `finite s m q` is `m * 2 ^ q`, negative when `s` holds. -/
inductive Datum where
  | nan
  | infinite (negative : Bool)
  | finite (negative : Bool) (significand : Nat) (exponent : Int)
  deriving DecidableEq, Repr

/-- A natural number times a power of two, as a numerator and a denominator. -/
def scaled (m : Nat) (q : Int) : Nat × Nat :=
  if 0 ≤ q then (m <<< q.toNat, 1) else (m, 1 <<< (-q).toNat)

/-- The quotient rounded to the nearest integer, and a half to the even one. -/
def roundHalfEven (n d : Nat) : Nat :=
  let q := n / d
  let r := n % d
  if 2 * r < d then q else if d < 2 * r then q + 1 else q + q % 2

/-- The exponent of the greatest power of two not above the quotient of two positive numbers. -/
def floorLogTwo (n d : Nat) : Int :=
  let e : Int := (n.log2 : Int) - (d.log2 : Int)
  let reached := if 0 ≤ e then d <<< e.toNat ≤ n else d ≤ n <<< (-e).toNat
  if reached then e else e - 1

namespace BinaryFormat

/-- Four bytes. -/
def single : BinaryFormat := ⟨23, 8⟩

/-- Eight bytes. -/
def double : BinaryFormat := ⟨52, 11⟩

variable (f : BinaryFormat)

/-- The exponent of the smallest positive number, which is the unit of all subnormal ones. -/
def leastExponent : Int :=
  2 - ((1 <<< (f.exponentBits - 1) : Nat) : Int) - (f.fractionBits : Int)

/-- The pattern of positive infinity. -/
def infinityBits : Nat := (1 <<< f.exponentBits - 1) <<< f.fractionBits

/-- The pattern that holds the sign bit alone. -/
def signBit : Nat := 1 <<< (f.fractionBits + f.exponentBits)

/-- The pattern of the default NaN: the greatest exponent and the first bit of the fraction. -/
def nanBits : Nat := f.infinityBits + 1 <<< (f.fractionBits - 1)

/-- What a pattern denotes. -/
def decode (bits : Nat) : Datum :=
  let negative := bits / f.signBit % 2 == 1
  let magnitude := bits % f.signBit
  if f.infinityBits < magnitude then .nan
  else if magnitude = f.infinityBits then .infinite negative
  else
    let biased := magnitude >>> f.fractionBits
    let fraction := magnitude % 1 <<< f.fractionBits
    if biased = 0 then .finite negative fraction f.leastExponent
    else .finite negative (1 <<< f.fractionBits + fraction) (f.leastExponent + (biased : Int) - 1)

/--
The pattern nearest to a quotient. The unit in the last place follows from the size of the
quotient; adding the rounded count of units to the exponent's place lets a carry reach the next
exponent, and what reaches infinity stays there.
-/
def roundMagnitude (n d : Nat) : Nat :=
  if n = 0 then 0
  else
    let unit := max (floorLogTwo n d - f.fractionBits) f.leastExponent
    let (num, den) := if 0 ≤ unit then (n, d <<< unit.toNat) else (n <<< (-unit).toNat, d)
    min ((unit - f.leastExponent).toNat <<< f.fractionBits + roundHalfEven num den)
      f.infinityBits

/-- A pattern with its sign. -/
def withSign (negative : Bool) (magnitude : Nat) : Nat :=
  if negative then f.signBit + magnitude else magnitude

/-- A quotient rounded to the format. -/
def ofRatio (negative : Bool) (n d : Nat) : Nat :=
  f.withSign negative (f.roundMagnitude n d)

/-- A datum rounded to the format. -/
def encode : Datum → Nat
  | .nan => f.nanBits
  | .infinite negative => f.withSign negative f.infinityBits
  | .finite negative m q => f.ofRatio negative (scaled m q).1 (scaled m q).2

end BinaryFormat

namespace Datum

/-- The significand with its sign. -/
def signed (negative : Bool) (m : Nat) : Int := if negative then -(m : Int) else m

/-- A significand shifted to a smaller exponent. -/
def shifted (m : Nat) (q common : Int) : Nat := m <<< (q - common).toNat

/-- The same size with the other sign. -/
def neg : Datum → Datum
  | .nan => .nan
  | .infinite s => .infinite !s
  | .finite s m q => .finite (!s) m q

/-- The exact sum; a sum of zero is negative only if both terms are. -/
def add : Datum → Datum → Datum
  | .nan, _ => .nan
  | _, .nan => .nan
  | .infinite s, .infinite t => if s = t then .infinite s else .nan
  | .infinite s, .finite .. => .infinite s
  | .finite .., .infinite t => .infinite t
  | .finite s m q, .finite t n r =>
    let common := min q r
    let sum := signed s (shifted m q common) + signed t (shifted n r common)
    .finite (if sum = 0 then s && t else decide (sum < 0)) sum.natAbs common

/-- The exact difference. -/
def sub (x y : Datum) : Datum := x.add y.neg

/-- The exact product. -/
def mul : Datum → Datum → Datum
  | .nan, _ => .nan
  | _, .nan => .nan
  | .infinite s, .infinite t => .infinite (s != t)
  | .infinite s, .finite t n _ => if n = 0 then .nan else .infinite (s != t)
  | .finite s m _, .infinite t => if m = 0 then .nan else .infinite (s != t)
  | .finite s m q, .finite t n r => .finite (s != t) (m * n) (q + r)

/-- The quotient, rounded to a format as it is in general no dyadic number. -/
def div (f : BinaryFormat) : Datum → Datum → Nat
  | .nan, _ => f.nanBits
  | _, .nan => f.nanBits
  | .infinite _, .infinite _ => f.nanBits
  | .infinite s, .finite t _ _ => f.withSign (s != t) f.infinityBits
  | .finite s _ _, .infinite t => f.withSign (s != t) 0
  | .finite s m q, .finite t n r =>
    if n = 0 then
      if m = 0 then f.nanBits else f.withSign (s != t) f.infinityBits
    else
      let (num, den) := scaled m (q - r)
      f.ofRatio (s != t) num (den * n)

/-- The remainder of the division truncated toward zero, which has the sign of the dividend. -/
def rem : Datum → Datum → Datum
  | .nan, _ => .nan
  | _, .nan => .nan
  | .infinite _, _ => .nan
  | .finite s m q, .infinite _ => .finite s m q
  | .finite s m q, .finite _ n r =>
    if n = 0 then .nan
    else
      let common := min q r
      .finite s (shifted m q common % shifted n r common) common

/-- The order of two numbers; a NaN is comparable with nothing, and the two zeros are equal. -/
def compare : Datum → Datum → Option Ordering
  | .nan, _ => none
  | _, .nan => none
  | .infinite s, .infinite t =>
    some (if s = t then .eq else if s then .lt else .gt)
  | .infinite s, .finite .. => some (if s then .lt else .gt)
  | .finite .., .infinite t => some (if t then .gt else .lt)
  | .finite s m q, .finite t n r =>
    let common := min q r
    some (Ord.compare (signed s (shifted m q common)) (signed t (shifted n r common)))

/-- The number truncated toward zero, if it is finite. -/
def truncate : Datum → Option Int
  | .nan => none
  | .infinite _ => none
  | .finite s m q =>
    let (num, den) := scaled m q
    some (signed s (num / den))

end Datum

/-- A number of the single format. -/
structure Binary32 where
  /-- Its pattern. -/
  bits : UInt32
  deriving DecidableEq, Repr

/-- A number of the double format. -/
structure Binary64 where
  /-- Its pattern. -/
  bits : UInt64
  deriving DecidableEq, Repr

namespace Binary32

/-- A pattern given as a natural number. -/
def ofPattern (bits : Nat) : Binary32 := ⟨UInt32.ofNat bits⟩

/-- What the number is. -/
def datum (x : Binary32) : Datum := BinaryFormat.single.decode x.bits.toNat

/-- The nearest number. -/
def ofDatum (d : Datum) : Binary32 := ofPattern (BinaryFormat.single.encode d)

/-- The number nearest to an integer. -/
def ofInt (i : Int) : Binary32 := ofDatum (.finite (decide (i < 0)) i.natAbs 0)

/-- The same pattern with the other sign, NaN included. -/
def neg (x : Binary32) : Binary32 := ⟨x.bits ^^^ 0x80000000⟩

end Binary32

namespace Binary64

/-- A pattern given as a natural number. -/
def ofPattern (bits : Nat) : Binary64 := ⟨UInt64.ofNat bits⟩

/-- What the number is. -/
def datum (x : Binary64) : Datum := BinaryFormat.double.decode x.bits.toNat

/-- The nearest number. -/
def ofDatum (d : Datum) : Binary64 := ofPattern (BinaryFormat.double.encode d)

/-- The number nearest to an integer. -/
def ofInt (i : Int) : Binary64 := ofDatum (.finite (decide (i < 0)) i.natAbs 0)

/-- The same pattern with the other sign, NaN included. -/
def neg (x : Binary64) : Binary64 := ⟨x.bits ^^^ 0x8000000000000000⟩

/-- The rounded sum. -/
def add (x y : Binary64) : Binary64 := ofDatum (x.datum.add y.datum)

/-- The rounded difference. -/
def sub (x y : Binary64) : Binary64 := ofDatum (x.datum.sub y.datum)

/-- The rounded product. -/
def mul (x y : Binary64) : Binary64 := ofDatum (x.datum.mul y.datum)

/-- The rounded quotient. -/
def div (x y : Binary64) : Binary64 := ofPattern (x.datum.div .double y.datum)

/-- The remainder, which is always exact. -/
def rem (x y : Binary64) : Binary64 := ofDatum (x.datum.rem y.datum)

/-- The order of two numbers. -/
def compare (x y : Binary64) : Option Ordering := x.datum.compare y.datum

/-- Whether the first number is greater than the second. -/
def isGreater (x y : Binary64) : Bool := x.compare y == some .gt

end Binary64

/-- A NaN keeps its sign and the leading bits of its fraction when it changes format. -/
def transplantNaN (source target : BinaryFormat) (bits : Nat) : Nat :=
  let fraction := bits % 1 <<< source.fractionBits
  let moved :=
    if source.fractionBits ≤ target.fractionBits then
      fraction <<< (target.fractionBits - source.fractionBits)
    else fraction >>> (source.fractionBits - target.fractionBits)
  let quiet := 1 <<< (target.fractionBits - 1)
  target.withSign (bits / source.signBit % 2 == 1) (target.infinityBits + moved % quiet + quiet)

/-- A number in the wider format, where it is exact. -/
def Binary32.toBinary64 (x : Binary32) : Binary64 :=
  match x.datum with
  | .nan => .ofPattern (transplantNaN .single .double x.bits.toNat)
  | d => .ofDatum d

/-- A number rounded to the narrower format. -/
def Binary64.toBinary32 (x : Binary64) : Binary32 :=
  match x.datum with
  | .nan => .ofPattern (transplantNaN .double .single x.bits.toNat)
  | d => .ofDatum d

end RelMap
