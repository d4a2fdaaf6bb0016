import Mathlib.Data.Rat.Floor
import Mathlib.Algebra.Order.Field.Power
import Mathlib.Tactic.Lemma
import RelMap.Number.Binary

/-!
# The rational numbers of floating-point patterns

A pattern of an IEEE format has a sign, a field for the exponent and a field for the fraction, and
what it denotes is a formula in the three. Decoding a pattern gives a significand and an exponent of
this number, and truncating what is decoded truncates the number toward zero.
-/

namespace RelMap

/-- A number without what stands behind its point. -/
def towardZero (x : ℚ) : Int := if 0 ≤ x then ⌊x⌋ else ⌈x⌉

@[simp] lemma towardZero_intCast (i : Int) : towardZero i = i := by
  rw [towardZero]
  split <;> simp

lemma towardZero_neg (x : ℚ) : towardZero (-x) = -towardZero x := by
  rcases lt_trichotomy 0 x with positive | rfl | negative
  · rw [towardZero, towardZero, if_neg (by linarith), if_pos positive.le, Int.ceil_neg]
  · rfl
  · rw [towardZero, towardZero, if_pos (by linarith), if_neg (by linarith), Int.floor_neg]

/-- The number of a datum, unless it is a NaN or infinite. -/
def Datum.number? : Datum → Option ℚ
  | .finite negative m q => some (if negative then -(m * 2 ^ q) else m * 2 ^ q)
  | _ => none

namespace BinaryFormat

variable (f : BinaryFormat)

/-- Whether the sign bit of a pattern is set. -/
def isNegative (bits : Nat) : Bool := bits / 2 ^ (f.fractionBits + f.exponentBits) % 2 == 1

/-- The field of a pattern that is for the exponent. -/
def exponentField (bits : Nat) : Nat := bits / 2 ^ f.fractionBits % 2 ^ f.exponentBits

/-- The field of a pattern that is for the fraction. -/
def fractionField (bits : Nat) : Nat := bits % 2 ^ f.fractionBits

/-- How much greater the field is than the exponent. -/
def bias : Int := 2 ^ (f.exponentBits - 1) - 1

/-- The number that a pattern denotes, which has a leading one unless its exponent is the least. -/
def number? (bits : Nat) : Option ℚ :=
  let fraction : ℚ := f.fractionField bits / 2 ^ f.fractionBits
  let field := f.exponentField bits
  let sign : ℚ := if f.isNegative bits then -1 else 1
  if field = 2 ^ f.exponentBits - 1 then none
  else if field = 0 then some (sign * (fraction * 2 ^ (1 - f.bias)))
  else some (sign * ((1 + fraction) * 2 ^ (field - f.bias)))

lemma signBit_eq_two_pow : f.signBit = 2 ^ (f.fractionBits + f.exponentBits) :=
  Nat.one_shiftLeft _

lemma infinityBits_eq_mul : f.infinityBits = (2 ^ f.exponentBits - 1) * 2 ^ f.fractionBits := by
  rw [infinityBits, Nat.one_shiftLeft, Nat.shiftLeft_eq]

/-- The fields of a pattern are those of its magnitude. -/
lemma magnitude_div (bits : Nat) :
    bits % f.signBit / 2 ^ f.fractionBits = f.exponentField bits := by
  rw [signBit_eq_two_pow, Nat.pow_add, Nat.mod_mul_right_div_self, exponentField]

lemma magnitude_mod (bits : Nat) :
    bits % f.signBit % 2 ^ f.fractionBits = f.fractionField bits := by
  rw [signBit_eq_two_pow, fractionField,
    Nat.mod_mod_of_dvd _ (Nat.pow_dvd_pow 2 (Nat.le_add_right ..))]

lemma exponentField_lt (bits : Nat) : f.exponentField bits < 2 ^ f.exponentBits :=
  Nat.mod_lt _ (Nat.two_pow_pos _)

/-- The greatest exponent is kept for what is infinite or no number. -/
lemma infinityBits_le_iff (bits : Nat) :
    f.infinityBits ≤ bits % f.signBit ↔ f.exponentField bits = 2 ^ f.exponentBits - 1 := by
  have bound := f.exponentField_lt bits
  rw [infinityBits_eq_mul, ← Nat.le_div_iff_mul_le (Nat.two_pow_pos _), magnitude_div]
  omega

/-- The exponents are counted from the unit of the subnormal numbers. -/
lemma leastExponent_eq : f.leastExponent = 1 - f.bias - f.fractionBits := by
  rw [leastExponent, bias, Nat.one_shiftLeft]
  push_cast
  ring

/-- What is decoded from a pattern is the number that it denotes. -/
theorem number?_decode (bits : Nat) : (f.decode bits).number? = f.number? bits := by
  have sign : (bits / f.signBit % 2 == 1) = f.isNegative bits := by
    rw [signBit_eq_two_pow, isNegative]
  have greatest := f.infinityBits_le_iff bits
  rw [decode, number?]
  simp only [sign, Nat.shiftRight_eq_div_pow, Nat.one_shiftLeft, magnitude_div, magnitude_mod]
  split
  · rw [if_pos (greatest.1 (by omega))]
    rfl
  split
  · rw [if_pos (greatest.1 (by omega))]
    rfl
  rw [if_neg (mt greatest.2 (by omega))]
  have unit (e : Int) : (2 : ℚ) ^ (e - f.fractionBits) = 2 ^ e / 2 ^ f.fractionBits := by
    rw [zpow_sub₀ two_ne_zero, zpow_natCast]
  split
  case isTrue subnormal =>
    have size : (f.fractionField bits : ℚ) * 2 ^ f.leastExponent =
        f.fractionField bits / 2 ^ f.fractionBits * 2 ^ (1 - f.bias) := by
      rw [leastExponent_eq, unit]
      ring
    rw [Datum.number?, size]
    cases f.isNegative bits <;> simp
  case isFalse normal =>
    have size : ((2 ^ f.fractionBits + f.fractionField bits : Nat) : ℚ) *
        2 ^ (f.leastExponent + f.exponentField bits - 1) =
        (1 + f.fractionField bits / 2 ^ f.fractionBits) * 2 ^ (f.exponentField bits - f.bias) := by
      have exponent : f.leastExponent + f.exponentField bits - 1 =
          (f.exponentField bits - f.bias) - f.fractionBits := by rw [leastExponent_eq]; ring
      rw [exponent, unit]
      push_cast
      field_simp
    rw [Datum.number?, size]
    cases f.isNegative bits <;> simp

end BinaryFormat

namespace Datum

/-- A significand with an exponent is a quotient. -/
lemma scaled_ratio (m : Nat) (q : Int) :
    ((scaled m q).1 / (scaled m q).2 : ℚ) = m * 2 ^ q := by
  rw [scaled]
  split
  case isTrue up =>
    obtain ⟨k, rfl⟩ := Int.eq_ofNat_of_zero_le up
    simp [Nat.shiftLeft_eq]
  case isFalse down =>
    obtain ⟨k, rfl⟩ := Int.exists_eq_neg_ofNat (Int.not_le.1 down).le
    simp [Nat.shiftLeft_eq, div_eq_mul_inv]

/-- Truncating a datum truncates the number. -/
theorem truncate_eq (d : Datum) : d.truncate = d.number?.map towardZero := by
  cases d with
  | nan => rfl
  | infinite => rfl
  | finite negative m q =>
    have size : towardZero (m * 2 ^ q) = (scaled m q).1 / (scaled m q).2 := by
      rw [← scaled_ratio, towardZero, if_pos (by positivity), Rat.floor_natCast_div_natCast]
    rw [truncate, number?, Option.map_some]
    cases negative with
    | false => simp [signed, size]
    | true => simp [signed, towardZero_neg, size]

end Datum

end RelMap
