import RelMap.Proofs.Number.Denotation

/-!
# Numbers in a wider format

A number that a format has room for is encoded without being rounded. The double format has room for
every number of the single one, so widening a pattern keeps its number.
-/

namespace RelMap

/-- A whole quotient is not rounded. -/
lemma roundHalfEven_mul {n d : Nat} (positive : 0 < d) : roundHalfEven (n * d) d = n := by
  rw [roundHalfEven]
  simp [Nat.mul_div_cancel n positive, positive]

lemma log2_mul_two_pow {m : Nat} (k : Nat) (positive : m ≠ 0) :
    (m * 2 ^ k).log2 = m.log2 + k := by
  have least := Nat.log2_self_le positive
  have greatest := Nat.lt_log2_self (n := m)
  refine (Nat.log2_eq_iff (by positivity)).2 ⟨?_, ?_⟩
  · rw [Nat.pow_add]
    exact Nat.mul_le_mul_right _ least
  · rw [Nat.add_right_comm, Nat.pow_add]
    exact Nat.mul_lt_mul_of_pos_right greatest (Nat.two_pow_pos k)

lemma scaled_eq_zero {m : Nat} {q : Int} : (scaled m q).1 = 0 ↔ m = 0 := by
  rw [scaled]
  split <;> simp [Nat.shiftLeft_eq]

/-- The sizes of two numbers give that of the quotient if it reaches as far. -/
lemma floorLogTwo_eq {n d : Nat} (up : d.log2 ≤ n.log2 → d * 2 ^ (n.log2 - d.log2) ≤ n)
    (down : n.log2 ≤ d.log2 → d ≤ n * 2 ^ (d.log2 - n.log2)) :
    floorLogTwo n d = n.log2 - d.log2 := by
  rw [floorLogTwo]
  refine if_pos ?_
  split
  case isTrue h =>
    have size : ((n.log2 : Int) - d.log2).toNat = n.log2 - d.log2 := by omega
    rw [size, Nat.shiftLeft_eq]
    exact up (by omega)
  case isFalse h =>
    have size : (-((n.log2 : Int) - d.log2)).toNat = d.log2 - n.log2 := by omega
    rw [size, Nat.shiftLeft_eq]
    exact down (by omega)

/-- The size of a significand with an exponent. -/
lemma floorLogTwo_scaled {m : Nat} (q : Int) (positive : m ≠ 0) :
    floorLogTwo (scaled m q).1 (scaled m q).2 = m.log2 + q := by
  -- One of the two numbers is a power of two, so the sizes of both are known exactly.
  have reached := Nat.log2_self_le positive
  rw [scaled]
  split <;> dsimp only
  case isTrue up =>
    obtain ⟨k, rfl⟩ := Int.eq_ofNat_of_zero_le up
    have size : (m <<< k).log2 = m.log2 + k := by
      rw [Nat.shiftLeft_eq, log2_mul_two_pow k positive]
    have whole : m <<< k ≠ 0 := by rw [Nat.shiftLeft_eq]; positivity
    have one : Nat.log2 1 = 0 := rfl
    rw [Int.toNat_natCast, floorLogTwo_eq, size, one]
    · simp
    · intro _
      rw [one, Nat.one_mul]
      exact Nat.log2_self_le whole
    · intro _
      exact Nat.mul_pos (Nat.pos_of_ne_zero whole) (Nat.two_pow_pos _)
  case isFalse down =>
    obtain ⟨k, rfl⟩ := Int.exists_eq_neg_ofNat (Int.not_le.1 down).le
    have size : (1 <<< k).log2 = k := by rw [Nat.one_shiftLeft, Nat.log2_two_pow]
    rw [Int.neg_neg, Int.toNat_natCast, floorLogTwo_eq, size]
    · omega
    · intro h
      rw [size] at h ⊢
      rw [Nat.one_shiftLeft, ← Nat.pow_add, Nat.add_sub_cancel' h]
      exact reached
    · intro h
      rw [size] at h ⊢
      calc 1 <<< k = 2 ^ m.log2 * 2 ^ (k - m.log2) := by
            rw [Nat.one_shiftLeft, ← Nat.pow_add, Nat.add_sub_cancel' h]
        _ ≤ m * 2 ^ (k - m.log2) := Nat.mul_le_mul_right _ reached

namespace BinaryFormat

variable {f : BinaryFormat} {m : Nat} {q : Int} {negative : Bool}

lemma signBit_pos : 0 < f.signBit := by
  rw [signBit_eq_two_pow]
  exact Nat.two_pow_pos _

/-- A pattern is made of its sign and its magnitude. -/
lemma withSign_div (h : m < f.signBit) :
    (f.withSign negative m / f.signBit % 2 == 1) = negative := by
  cases negative with
  | false => simp [withSign, Nat.div_eq_of_lt h]
  | true => simp [withSign, Nat.add_div_left _ signBit_pos, Nat.div_eq_of_lt h]

lemma withSign_mod (h : m < f.signBit) : f.withSign negative m % f.signBit = m := by
  cases negative with
  | false => exact Nat.mod_eq_of_lt h
  | true => rw [withSign, if_pos rfl, Nat.add_mod_left, Nat.mod_eq_of_lt h]

/-- Behind the pattern of infinity there are as many patterns as fractions. -/
lemma signBit_eq : f.signBit = f.infinityBits + 2 ^ f.fractionBits := by
  rw [infinityBits_eq_mul, signBit_eq_two_pow, Nat.pow_add, Nat.mul_comm, ← Nat.succ_mul,
    Nat.succ_eq_add_one, Nat.sub_add_cancel (Nat.two_pow_pos _)]

lemma infinityBits_lt_signBit : f.infinityBits < f.signBit := by
  have fractions := Nat.two_pow_pos f.fractionBits
  rw [signBit_eq]
  omega

/-- The units of a significand in its place are whole. -/
lemma scaled_units {unit : Int} (coarse : unit ≤ q) :
    ∃ den, 0 < den ∧
      (if 0 ≤ unit then ((scaled m q).1, (scaled m q).2 <<< unit.toNat)
        else ((scaled m q).1 <<< (-unit).toNat, (scaled m q).2)) =
      (m * 2 ^ (q - unit).toNat * den, den) := by
  rw [scaled]
  split <;> split <;> dsimp only
  case isTrue.isTrue up whole =>
    have parts : q.toNat = (q - unit).toNat + unit.toNat := by omega
    refine ⟨1 <<< unit.toNat, by simp [Nat.shiftLeft_eq], ?_⟩
    rw [Nat.one_shiftLeft, Nat.shiftLeft_eq, Nat.mul_assoc, ← Nat.pow_add, parts]
  case isTrue.isFalse up part => omega
  case isFalse.isTrue down whole =>
    have parts : (q - unit).toNat = q.toNat + (-unit).toNat := by omega
    refine ⟨1, Nat.one_pos, ?_⟩
    rw [Nat.shiftLeft_eq, Nat.shiftLeft_eq, Nat.mul_assoc, ← Nat.pow_add, parts, Nat.mul_one]
  case isFalse.isFalse down part =>
    have parts : (-unit).toNat = (q - unit).toNat + (-q).toNat := by omega
    refine ⟨1 <<< (-q).toNat, by simp [Nat.shiftLeft_eq], ?_⟩
    rw [Nat.one_shiftLeft, Nat.shiftLeft_eq, Nat.mul_assoc, ← Nat.pow_add, parts]

/-- A significand that has room in the place of a normal number is not rounded. -/
lemma roundMagnitude_scaled (positive : m ≠ 0) (short : m.log2 ≤ f.fractionBits)
    (normal : f.leastExponent ≤ m.log2 + q - f.fractionBits) :
    f.roundMagnitude (scaled m q).1 (scaled m q).2 =
      min ((m.log2 + q - f.fractionBits - f.leastExponent).toNat * 2 ^ f.fractionBits +
        m * 2 ^ (f.fractionBits - m.log2)) f.infinityBits := by
  have some : (scaled m q).1 ≠ 0 := mt scaled_eq_zero.1 positive
  have place : (q - (m.log2 + q - f.fractionBits)).toNat = f.fractionBits - m.log2 := by omega
  have coarse : (m.log2 + q - f.fractionBits : Int) ≤ q := by omega
  obtain ⟨den, hden, units⟩ := scaled_units (m := m) coarse
  rw [place] at units
  rw [roundMagnitude, if_neg some, floorLogTwo_scaled q positive, max_eq_left normal]
  dsimp only
  rw [units, Nat.shiftLeft_eq]
  dsimp only
  rw [roundHalfEven_mul hden]

lemma place_bounds (positive : m ≠ 0) (short : m.log2 ≤ f.fractionBits) :
    2 ^ f.fractionBits ≤ m * 2 ^ (f.fractionBits - m.log2) ∧
      m * 2 ^ (f.fractionBits - m.log2) < 2 * 2 ^ f.fractionBits := by
  have size : (m * 2 ^ (f.fractionBits - m.log2)).log2 = f.fractionBits := by
    rw [log2_mul_two_pow _ positive, Nat.add_sub_cancel' short]
  rw [mul_comm 2, ← Nat.pow_succ]
  exact (Nat.log2_eq_iff (by positivity)).1 size

/-- A normal number is less than infinity. -/
lemma normal_lt_infinityBits {k : Nat} (upper : m < 2 * 2 ^ f.fractionBits)
    (finite : k + 2 < 2 ^ f.exponentBits) : k * 2 ^ f.fractionBits + m < f.infinityBits := by
  rw [infinityBits_eq_mul]
  calc k * 2 ^ f.fractionBits + m
      < (k + 2) * 2 ^ f.fractionBits := by linarith
    _ ≤ (2 ^ f.exponentBits - 1) * 2 ^ f.fractionBits := Nat.mul_le_mul_right _ (by omega)

/-- A pattern of a normal number is decoded to the parts it is made of. -/
lemma decode_normal {k : Nat} (lower : 2 ^ f.fractionBits ≤ m) (upper : m < 2 * 2 ^ f.fractionBits)
    (finite : k + 2 < 2 ^ f.exponentBits) :
    f.decode (f.withSign negative (k * 2 ^ f.fractionBits + m)) =
      .finite negative m (f.leastExponent + k) := by
  have below := normal_lt_infinityBits upper finite
  have held := below.trans infinityBits_lt_signBit
  obtain ⟨fraction, rfl⟩ := Nat.exists_eq_add_of_le lower
  have small : fraction < 2 ^ f.fractionBits := by omega
  -- The leading one of the significand is carried into the field of the exponent.
  have fields : k * 2 ^ f.fractionBits + (2 ^ f.fractionBits + fraction) =
      fraction + 2 ^ f.fractionBits * (k + 1) := by ring
  rw [decode]
  simp only [withSign_div held, withSign_mod held, Nat.shiftRight_eq_div_pow, Nat.one_shiftLeft]
  rw [if_neg (by omega), if_neg (by omega), fields, Nat.add_mul_div_left _ _ (Nat.two_pow_pos _),
    Nat.div_eq_of_lt small, Nat.add_mul_mod_self_left, Nat.mod_eq_of_lt small, if_neg (by omega)]
  push_cast
  congr 1
  ring

/-- The patterns of the two zeros. -/
lemma decode_zero (room : f.exponentBits ≠ 0) :
    f.decode (f.withSign negative 0) = .finite negative 0 f.leastExponent := by
  have some : f.infinityBits ≠ 0 := by
    have fields := Nat.one_lt_two_pow room
    rw [infinityBits_eq_mul]
    exact Nat.mul_ne_zero (by omega) (Nat.two_pow_pos _).ne'
  rw [decode]
  simp only [withSign_div signBit_pos, withSign_mod signBit_pos]
  rw [if_neg (by omega), if_neg some.symm]
  simp

/-- A number that a format has room for is encoded as it is. -/
theorem number?_encode (short : m.log2 ≤ f.fractionBits)
    (normal : f.leastExponent ≤ m.log2 + q - f.fractionBits)
    (finite : m.log2 + q - f.fractionBits - f.leastExponent + 2 < (2 ^ f.exponentBits : Nat)) :
    (f.decode (f.encode (.finite negative m q))).number? = (Datum.finite negative m q).number? := by
  rw [encode, ofRatio]
  by_cases positive : m = 0
  case pos =>
    have nothing : (scaled m q).1 = 0 := scaled_eq_zero.2 positive
    have room : f.exponentBits ≠ 0 := by
      intro none
      rw [none] at finite
      omega
    rw [roundMagnitude, if_pos nothing, decode_zero room, Datum.number?, Datum.number?, positive]
    simp
  case neg =>
    obtain ⟨k, hk⟩ := Int.eq_ofNat_of_zero_le (Int.sub_nonneg.2 normal)
    obtain ⟨lower, upper⟩ := place_bounds positive short
    have size : ((m * 2 ^ (f.fractionBits - m.log2) : Nat) : ℚ) * 2 ^ (f.leastExponent + k) =
        m * 2 ^ q := by
      have places : ((f.fractionBits - m.log2 : Nat) : Int) + (f.leastExponent + k) = q := by omega
      push_cast
      rw [mul_assoc, ← zpow_natCast, ← zpow_add₀ two_ne_zero, places]
    rw [hk] at finite
    have bound : k + 2 < 2 ^ f.exponentBits := by omega
    rw [roundMagnitude_scaled positive short normal, hk, Int.toNat_natCast,
      min_eq_left (normal_lt_infinityBits upper bound).le, decode_normal lower upper bound,
      Datum.number?, Datum.number?, size]

lemma decode_infinite : f.decode (f.withSign negative f.infinityBits) = .infinite negative := by
  rw [decode]
  simp only [withSign_div infinityBits_lt_signBit, withSign_mod infinityBits_lt_signBit]
  rw [if_neg (Nat.lt_irrefl _), if_pos trivial]

lemma decode_nan (beyond : f.infinityBits < m) (held : m < f.signBit) :
    f.decode (f.withSign negative m) = .nan := by
  rw [decode]
  simp only [withSign_mod held]
  rw [if_pos beyond]

/-- What is decoded is a significand of the format and one of its exponents. -/
lemma bounds_of_decode {bits : Nat} (exponents : 2 ≤ f.exponentBits)
    (h : f.decode bits = .finite negative m q) :
    m.log2 ≤ f.fractionBits ∧ f.leastExponent ≤ q ∧
      q - f.leastExponent + 2 < (2 ^ f.exponentBits : Nat) := by
  have fields : 4 ≤ 2 ^ f.exponentBits := Nat.pow_le_pow_right Nat.two_pos exponents
  have fraction : f.fractionField bits < 2 ^ f.fractionBits := Nat.mod_lt _ (Nat.two_pow_pos _)
  have bound := f.exponentField_lt bits
  have greatest := f.infinityBits_le_iff bits
  have length (upper : m < 2 * 2 ^ f.fractionBits) : m.log2 ≤ f.fractionBits := by
    by_cases positive : m = 0
    · rw [positive]
      exact Nat.zero_le _
    · refine Nat.le_of_lt_succ ((Nat.log2_lt positive).2 ?_)
      rwa [Nat.pow_succ, mul_comm]
  rw [decode] at h
  simp only [Nat.shiftRight_eq_div_pow, Nat.one_shiftLeft, magnitude_div, magnitude_mod] at h
  split at h
  · cases h
  split at h
  · cases h
  case isFalse notAbove notInfinite =>
    have exponent : f.exponentField bits ≠ 2 ^ f.exponentBits - 1 := mt greatest.2 (by omega)
    split at h <;> cases h
    case isTrue => exact ⟨length (by omega), le_refl _, by omega⟩
    case isFalse normal => exact ⟨length (by omega), by omega, by omega⟩

lemma withSign_lt (h : m < f.signBit) : f.withSign negative m < 2 * f.signBit := by
  rw [withSign]
  split <;> omega

lemma encode_lt {d : Datum} (number : d ≠ .nan) : f.encode d < 2 * f.signBit := by
  cases d with
  | nan => exact absurd rfl number
  | infinite => exact withSign_lt infinityBits_lt_signBit
  | finite negative m q =>
    refine withSign_lt (lt_of_le_of_lt ?_ infinityBits_lt_signBit)
    rw [roundMagnitude]
    split
    · exact Nat.zero_le _
    · exact Nat.min_le_right _ _

/-- A NaN stays one in another format. -/
lemma decode_transplantNaN (source : BinaryFormat) (bits : Nat) (fractions : f.fractionBits ≠ 0) :
    transplantNaN source f bits < 2 * f.signBit ∧
      f.decode (transplantNaN source f bits) = .nan := by
  obtain ⟨p, hp⟩ := Nat.exists_eq_succ_of_ne_zero fractions
  have quiet : 2 ^ f.fractionBits = 2 * 1 <<< (f.fractionBits - 1) := by
    rw [hp, Nat.one_shiftLeft, Nat.pow_succ, Nat.succ_sub_one, mul_comm]
  have positive : 0 < 1 <<< (f.fractionBits - 1) := by
    rw [Nat.one_shiftLeft]
    exact Nat.two_pow_pos _
  have total := f.signBit_eq
  rw [transplantNaN]
  generalize (if source.fractionBits ≤ f.fractionBits then _ else _) = moved
  have rest := Nat.mod_lt moved positive
  exact ⟨withSign_lt (by omega), decode_nan (by omega) (by omega)⟩

end BinaryFormat

lemma Binary64.datum_ofPattern {bits : Nat} (h : bits < 2 * BinaryFormat.double.signBit) :
    (Binary64.ofPattern bits).datum = BinaryFormat.double.decode bits := by
  rw [datum, ofPattern, UInt64.toNat_ofNat_of_lt' h]

lemma Binary64.datum_ofDatum (d : Datum) (number : d ≠ .nan) :
    (Binary64.ofDatum d).datum = BinaryFormat.double.decode (BinaryFormat.double.encode d) :=
  datum_ofPattern (BinaryFormat.encode_lt number)

/-- Widening keeps the number. -/
theorem Binary32.number?_toBinary64 (x : Binary32) :
    x.toBinary64.datum.number? = x.datum.number? := by
  -- The double format has room for the significands and the exponents of the single one.
  have formats : BinaryFormat.single.fractionBits = 23 ∧ BinaryFormat.double.fractionBits = 52 ∧
      BinaryFormat.single.leastExponent = -149 ∧ BinaryFormat.double.leastExponent = -1074 ∧
      2 ^ BinaryFormat.single.exponentBits = 256 ∧
      2 ^ BinaryFormat.double.exponentBits = 2048 := by decide
  rw [toBinary64]
  cases h : x.datum with
  | nan =>
    obtain ⟨room, nan⟩ := BinaryFormat.decode_transplantNaN (f := .double) .single x.bits.toNat
      (by omega)
    dsimp only
    rw [Binary64.datum_ofPattern room, nan]
  | infinite negative =>
    dsimp only
    rw [Binary64.datum_ofDatum (.infinite negative) nofun, BinaryFormat.encode,
      BinaryFormat.decode_infinite]
  | finite negative m q =>
    obtain ⟨short, least, greatest⟩ := BinaryFormat.bounds_of_decode (by decide) h
    dsimp only
    rw [Binary64.datum_ofDatum (.finite negative m q) nofun, BinaryFormat.number?_encode] <;> omega

end RelMap
