import RelMap.Number.Binary

/-!
# Shortest decimals

The decimal of fewest digits that reads back as a given binary number, the nearest of those, and
how its digits are laid out with or without an exponent.
-/

namespace RelMap

/-- Where a number goes that lies halfway between its two neighbours. -/
inductive Tie where
  /-- To the even neighbour. -/
  | even
  /-- To the greater neighbour. -/
  | up
  deriving DecidableEq, Repr

/-- The quotient rounded to the nearest integer, and a half by a rule. -/
def Tie.round (tie : Tie) (n d : Nat) : Nat :=
  match tie with
  | .even => roundHalfEven n d
  | .up => (2 * n + d) / (2 * d)

/-- A decimal number: an integer times a power of ten. -/
structure Decimal where
  /-- The digits, as a natural number. -/
  digits : Nat
  /-- The power of ten of the last digit. -/
  exponent : Int
  deriving DecidableEq, Repr

/-- The reals that round to one binary number, over a common denominator. -/
structure RoundingInterval where
  /-- The lower end. -/
  lower : Nat
  /-- The number itself. -/
  middle : Nat
  /-- The upper end. -/
  upper : Nat
  /-- What all three are divided by. -/
  denominator : Nat
  /-- Whether the ends belong to the interval. -/
  closed : Bool

/-- The interval of the number `m * 2 ^ q`; below a power of two numbers are half as far apart. -/
def BinaryFormat.interval (f : BinaryFormat) (m : Nat) (q : Int) : RoundingInterval :=
  let lowerGap := if m = 1 <<< f.fractionBits ∧ f.leastExponent < q then 1 else 2
  let (scale, denominator) := scaled 1 (q - 2)
  { lower := (4 * m - lowerGap) * scale
    middle := 4 * m * scale
    upper := (4 * m + 2) * scale
    denominator
    closed := m % 2 == 0 }

/-- Whether a power of ten is not above a quotient. -/
def reachesPower (n d : Nat) (e : Int) : Bool :=
  if 0 ≤ e then decide (d * Nat.pow 10 e.toNat ≤ n) else decide (d ≤ n * Nat.pow 10 (-e).toNat)

/-- The exponent of the greatest power of ten not above the quotient of two positive numbers. -/
def floorLogTen (n d : Nat) : Int :=
  let guess := floorLogTwo n d * 30103 / 100000
  if reachesPower n d (guess + 1) then guess + 1
  else if reachesPower n d guess then guess
  else guess - 1

namespace RoundingInterval

/-- A quotient with the interval's denominator, compared with `digits * 10 ^ e`. -/
def compareTo (i : RoundingInterval) (n : Nat) (digits : Nat) (e : Int) : Ordering :=
  if 0 ≤ e then compare n (digits * Nat.pow 10 e.toNat * i.denominator)
  else compare (n * Nat.pow 10 (-e).toNat) (digits * i.denominator)

/-- Whether a decimal lies in the interval. -/
def holds (i : RoundingInterval) (digits : Nat) (e : Int) : Bool :=
  let low := i.compareTo i.lower digits e
  let high := i.compareTo i.upper digits e
  if i.closed then low != .gt && high != .lt else low == .lt && high == .gt

/-- The decimal with so many digits that lies in the interval, the nearer one of two. -/
def withDigits? (i : RoundingInterval) (tie : Tie) (count : Nat) : Option Decimal :=
  let e := floorLogTen i.middle i.denominator - count + 1
  let (num, den) :=
    if 0 ≤ e then (i.middle, i.denominator * Nat.pow 10 e.toNat)
    else (i.middle * Nat.pow 10 (-e).toNat, i.denominator)
  let below := num / den
  let nearest := tie.round num den
  let other := if nearest = below then below + 1 else below
  if i.holds nearest e then some ⟨nearest, e⟩
  else if i.holds other e then some ⟨other, e⟩
  else none

end RoundingInterval

/-- A decimal without zeros at the end of its digits. -/
def Decimal.stripped (d : Decimal) : Decimal :=
  if h : d.digits ≠ 0 ∧ d.digits % 10 = 0 then
    Decimal.stripped ⟨d.digits / 10, d.exponent + 1⟩
  else d
termination_by d.digits
decreasing_by exact Nat.div_lt_self (by omega) (by omega)

/-- The shortest decimal of the positive number `m * 2 ^ q`; of two equally near ones, by a rule. -/
def BinaryFormat.shortest (f : BinaryFormat) (tie : Tie) (m : Nat) (q : Int) : Decimal :=
  let i := f.interval m q
  match (List.range 17).findSome? fun n => i.withDigits? tie (n + 1) with
  | some d => d.stripped
  | none => ⟨m, q⟩

/--
Where the decimal point may stand for a number to be written without an exponent, how exponents are
written, and which of two equally near decimals is.
-/
structure FloatStyle where
  /-- The number of digits before the point is greater than this. -/
  above : Int
  /-- The number of digits before the point is not greater than this. -/
  upTo : Int
  /-- Whether an exponent that is not negative has a sign too. -/
  signed : Bool
  /-- Which of two decimals is written that are as short and as near. -/
  tie : Tie

namespace FloatStyle

/-- So many zeros. -/
def zeros (n : Nat) : String := String.ofList (List.replicate n '0')

/-- The text of an exponent. -/
def exponent (style : FloatStyle) (e : Int) : String :=
  "e" ++ (if style.signed ∧ 0 ≤ e then "+" else "") ++ toString e

/-- The text of a positive decimal; without an exponent there is a digit after the point. -/
def positive (style : FloatStyle) (d : Decimal) : String :=
  let text := toString d.digits
  let point : Int := (text.length : Int) + d.exponent
  if style.above < point ∧ point ≤ style.upTo then
    if 0 ≤ d.exponent then text ++ zeros d.exponent.toNat ++ ".0"
    else if 0 < point then
      String.ofList (text.toList.take point.toNat) ++ "."
        ++ String.ofList (text.toList.drop point.toNat)
    else "0." ++ zeros (-point).toNat ++ text
  else
    let tail := text.toList.drop 1
    let mantissa :=
      String.ofList (text.toList.take 1)
        ++ (if tail.isEmpty then "" else "." ++ String.ofList tail)
    mantissa ++ style.exponent (point - 1)

/-- The text of a finite number, or nothing for the others. -/
def finite? (style : FloatStyle) (f : BinaryFormat) : Datum → Option String
  | .nan => none
  | .infinite _ => none
  | .finite negative m q =>
    let size := if m = 0 then "0.0" else style.positive (f.shortest style.tie m q)
    some (if negative then "-" ++ size else size)

end FloatStyle

end RelMap
