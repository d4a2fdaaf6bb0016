import RelMap.Proofs.Evaluation.Operators

/-!
# Integers of two widths

An integer value is a number and a width that holds it. The operators on such values are operations
on the numbers: an operation, a change of sign or of width gives a value just if the width of the
result holds the exact number, and this is the number of the value.
-/

namespace RelMap

/-- An operation on unbounded integers; a division truncates, and there is none by zero. -/
def Arithmetic.exact (op : Arithmetic) (i j : Int) : Option Int :=
  match op with
  | .add => some (i + j)
  | .sub => some (i - j)
  | .mul => some (i * j)
  | .div => if j = 0 then none else some (i.tdiv j)
  | .mod => if j = 0 then none else some (i.tmod j)

namespace Evaluation

/-- A value of another kind is converted as the two kinds are, or not at all. -/
lemma convert_of_kind_ne {target : Kind} {v : Value} (present : v.isNull = false)
    (other : v.kind ≠ target) :
    convert target v = (convertTo target v).elim (.error (.conversion v.kind target)) .ok := by
  rw [convert, present, decide_eq_false other]
  cases convertTo target v <;> rfl

/-- The number of an integer value. -/
def integer? : Value → Option Int
  | .int32 i => some i.toInt
  | .int64 i => some i.toInt
  | _ => none

/-- The widths of integers. -/
inductive Width where
  | narrow
  | wide
  deriving DecidableEq

namespace Width

/-- The kind of the integers of a width. -/
def kind : Width → Kind
  | narrow => .int32
  | wide => .int64

/-- Whether a number is in the range of a width. -/
def Holds : Width → Int → Prop
  | narrow, i => Int32.minValue.toInt ≤ i ∧ i ≤ Int32.maxValue.toInt
  | wide, i => Int64.minValue.toInt ≤ i ∧ i ≤ Int64.maxValue.toInt

/-- The integer of a width that is a number. -/
def value : Width → Int → Value
  | narrow, i => .int32 (Int32.ofInt i)
  | wide, i => .int64 (Int64.ofInt i)

/-- Whether a number fits, as it is tested. -/
def fits : Width → Int → Bool
  | narrow => fits32
  | wide => fits64

/-- The width of what two integers give: it is narrow only if both are. -/
def join : Width → Width → Width
  | narrow, narrow => narrow
  | _, _ => wide

variable {w v : Width} {i j n : Int} {op : Arithmetic}

lemma fits_iff : w.fits i = true ↔ w.Holds i := by
  cases w <;>
    simp only [fits, fits32, fits64, Holds, Bool.and_eq_true, decide_eq_true_eq,
      Int32.toInt_minValue, Int32.toInt_maxValue, Int64.toInt_minValue, Int64.toInt_maxValue] <;>
    omega

instance : Decidable (w.Holds i) := decidable_of_iff _ fits_iff

lemma fits_of_holds (h : w.Holds i) : w.fits i = true := fits_iff.2 h

/-- What the narrow width holds the wide one does. -/
lemma Holds.wide (h : w.Holds i) : Width.wide.Holds i := by
  cases w with
  | narrow =>
    simp only [Holds, Int32.toInt_minValue, Int32.toInt_maxValue, Int64.toInt_minValue,
      Int64.toInt_maxValue] at h ⊢
    omega
  | wide => exact h

/-- A number is read back from its value. -/
lemma toInt_ofInt32 (h : narrow.Holds i) : (Int32.ofInt i).toInt = i :=
  Int32.toInt_ofInt_of_le h.1 (Int.lt_of_le_sub_one h.2)

lemma toInt_ofInt64 (h : Width.wide.Holds i) : (Int64.ofInt i).toInt = i :=
  Int64.toInt_ofInt_of_le h.1 (Int.lt_of_le_sub_one h.2)

@[simp] lemma isNull_value : (w.value i).isNull = false := by cases w <;> rfl

@[simp] lemma kind_value : (w.value i).kind = w.kind := by cases w <;> rfl

lemma numeric?_value (h : w.Holds i) : numeric? (w.value i) = some (.integer i) := by
  cases w with
  | narrow => rw [value, numeric?, toInt_ofInt32 h]
  | wide => rw [value, numeric?, toInt_ofInt64 h]

/-- An operation on two integers is the operation on the numbers, within the wider of the widths. -/
lemma arithmetic_value (op : Arithmetic) (hi : w.Holds i) (hj : v.Holds j) :
    arithmetic op (w.value i) (v.value j) =
      (integerArithmetic (w.join v).fits op i j).map (w.join v).value := by
  have mixed : numericArithmetic op (w.value i) (v.value j) =
      (integerArithmetic fits64 op i j).map Width.wide.value := by
    rw [numericArithmetic, numeric?_value hi, numeric?_value hj]
    rfl
  cases w <;> cases v
  case narrow.narrow =>
    have both : arithmetic op (narrow.value i) (narrow.value j) =
        (integerArithmetic fits32 op (Int32.ofInt i).toInt (Int32.ofInt j).toInt).map
          narrow.value := by cases op <;> rfl
    rw [both, toInt_ofInt32 hi, toInt_ofInt32 hj]
    rfl
  all_goals
    refine Eq.trans ?_ mixed
    cases op <;> rfl

/-- A change of sign gives the exact number if it fits. -/
lemma negate_value (h : w.Holds i) :
    negate (w.value i) =
      if w.fits (-i) then .ok (w.value (-i)) else .error .negationOverflow := by
  cases w with
  | narrow => rw [value, negate, toInt_ofInt32 h]; rfl
  | wide => rw [value, negate, toInt_ofInt64 h]; rfl

/-- A change of width keeps the number if it fits. -/
lemma convert_value (h : w.Holds i) :
    convert v.kind (w.value i) =
      if v.fits i then .ok (v.value i) else .error (.conversion w.kind v.kind) := by
  cases w <;> cases v
  case narrow.narrow | wide.wide => rw [if_pos (fits_of_holds h)]; rfl
  case narrow.wide =>
    have number : (Int32.ofInt i).toInt64 = Int64.ofInt i := by
      rw [← Int64.toInt_inj, Int32.toInt_toInt64, toInt_ofInt32 h, toInt_ofInt64 h.wide]
    rw [if_pos (fits_of_holds h.wide), value, value, ← number]
    rfl
  case wide.narrow =>
    have number : convertTo narrow.kind (wide.value i) =
        if narrow.fits i then some (narrow.value i) else none := by
      change convertTo .int32 (.int64 (Int64.ofInt i)) = _
      rw [convertTo, toInt_ofInt64 h, Int64.toInt32_ofInt]
      rfl
    rw [convert_of_kind_ne isNull_value (by rw [kind_value]; decide), number]
    split <;> rfl

/-- The integers of a width are numbers that it holds. -/
lemma exists_of_kind {v : Value} (isInteger : v.kind = w.kind) :
    ∃ i, integer? v = some i ∧ w.Holds i ∧ v = w.value i := by
  cases w <;> cases v <;> cases isInteger
  case narrow.int32 i => exact ⟨i.toInt, rfl, ⟨i.minValue_le_toInt, i.toInt_le⟩, by simp [value]⟩
  case wide.int64 i => exact ⟨i.toInt, rfl, ⟨i.minValue_le_toInt, i.toInt_le⟩, by simp [value]⟩

lemma integer?_value (h : w.Holds i) : integer? (w.value i) = some i := by
  cases w with
  | narrow => rw [value, integer?, toInt_ofInt32 h]
  | wide => rw [value, integer?, toInt_ofInt64 h]

lemma Holds.join_left (h : w.Holds i) : (w.join v).Holds i := by
  cases w <;> cases v <;> first | exact h | exact h.wide

/-- A width that holds an integer holds every remainder of it. -/
lemma Holds.tmod (h : w.Holds i) : w.Holds (i.tmod j) := by
  have zero : w.Holds 0 := by cases w <;> decide
  have between : min i 0 ≤ i.tmod j ∧ i.tmod j ≤ max i 0 := by
    have size := Int.natAbs_tmod i j
    have bound := Nat.mod_le i.natAbs j.natAbs
    rcases Int.le_total 0 i with positive | negative
    · have sign := Int.tmod_nonneg j positive
      omega
    · have sign := Int.tmod_nonneg j (Int.neg_nonneg.2 negative)
      rw [Int.neg_tmod] at sign
      omega
  cases w <;> simp only [Holds] at h zero ⊢ <;> omega

/-- An operation gives the exact number if the width holds it, and the quotient of a remainder. -/
lemma integerArithmetic_eq_ok (h : w.Holds i) :
    integerArithmetic w.fits op i j = .ok n ↔
      op.exact i j = some n ∧ w.Holds n ∧ (op = .mod → w.Holds (i.tdiv j)) := by
  have remainder := h.tmod (j := j)
  simp only [integerArithmetic, Arithmetic.exact, ← fits_iff] at remainder ⊢
  cases op <;> grind

end Width

end Evaluation

end RelMap
