import RelMap.Proofs.Evaluation.Widths
import RelMap.Proofs.Number.Widening

/-!
# Numbers converted to integers

A conversion to integers truncates the exact number of a value toward zero. What does not fit is
refused, as are infinity and what is no number; only a floating-point number that is beyond the wide
integers is replaced by the end of their range.
-/

namespace RelMap.Evaluation

/-- The exact number that a value denotes. -/
def exactNumber? : Value → Option ℚ
  | .int32 i => some i.toInt
  | .int64 i => some i.toInt
  | .float32 x => BinaryFormat.single.number? x.bits.toNat
  | .float64 x => BinaryFormat.double.number? x.bits.toNat
  | _ => none

namespace Width

/-- The integer of a width that a number becomes: the wide width has one for every number. -/
def ofNumber (w : Width) (i : Int) : Option Value :=
  if w.Holds i then some (w.value i)
  else
    match w with
    | .narrow => none
    | .wide => some (.int64 (if 0 < i then Int64.maxValue else Int64.minValue))

variable {w : Width} {i : Int}

lemma ofNumber_of_holds (h : w.Holds i) : w.ofNumber i = some (w.value i) := if_pos h

lemma ofNumber_narrow (h : ¬narrow.Holds i) : narrow.ofNumber i = none := if_neg h

lemma ofNumber_wide (h : ¬wide.Holds i) :
    wide.ofNumber i = some (.int64 (if 0 < i then Int64.maxValue else Int64.minValue)) := if_neg h

/-- A number that fits is not limited, and limiting makes no other number fit the narrow width. -/
lemma clamp64_of_holds (h : wide.Holds i) : clamp64 i = i := by
  simp only [Holds, Int64.toInt_minValue, Int64.toInt_maxValue] at h
  rw [clamp64]
  omega

lemma holds_clamp64 : narrow.Holds (clamp64 i) ↔ narrow.Holds i := by
  simp only [Holds, Int32.toInt_minValue, Int32.toInt_maxValue, clamp64]
  omega

/-- A number that does not fit is limited to the end of the range that it is beyond. -/
lemma ofInt_clamp64 (h : ¬wide.Holds i) :
    Int64.ofInt (clamp64 i) = if 0 < i then Int64.maxValue else Int64.minValue := by
  simp only [Holds, Int64.toInt_minValue, Int64.toInt_maxValue] at h
  split
  case isTrue above =>
    have greatest : clamp64 i = 0x7fffffffffffffff := by rw [clamp64]; omega
    rw [greatest]
    rfl
  case isFalse below =>
    have least : clamp64 i = -0x8000000000000000 := by rw [clamp64]; omega
    rw [least]
    rfl

end Width

lemma exactNumber?_value {w : Width} {i : Int} (h : w.Holds i) :
    exactNumber? (w.value i) = some (i : ℚ) := by
  cases w with
  | narrow => rw [Width.value, exactNumber?, Width.toInt_ofInt32 h]
  | wide => rw [Width.value, exactNumber?, Width.toInt_ofInt64 h]

/-- A floating-point number is what is decoded, also when it has been widened. -/
lemma exactNumber?_float32 (x : Binary32) :
    exactNumber? (.float32 x) = x.toBinary64.datum.number? := by
  rw [Binary32.number?_toBinary64, Binary32.datum, BinaryFormat.number?_decode, exactNumber?]

lemma exactNumber?_float64 (x : Binary64) : exactNumber? (.float64 x) = x.datum.number? := by
  rw [Binary64.datum, BinaryFormat.number?_decode, exactNumber?]

/-- A double is truncated, and limited to 64 bits, before it is found to fit. -/
lemma convertTo_narrow (x : Binary64) :
    convertTo.narrow x = (x.datum.number?.map towardZero).bind Width.narrow.ofNumber := by
  rw [convertTo.narrow, truncate64, Datum.truncate_eq]
  cases x.datum.number?.map towardZero with
  | none => rfl
  | some i =>
    dsimp only [Option.map_some, Option.bind_some]
    by_cases h : Width.narrow.Holds i
    · rw [Width.ofNumber_of_holds h, Width.clamp64_of_holds h.wide]
      exact if_pos (Width.fits_of_holds h)
    · rw [Width.ofNumber_narrow h]
      exact if_neg fun fits => h (Width.holds_clamp64.1 (Width.fits_iff.1 fits))

lemma convertTo_wide (x : Binary64) :
    convertTo.wide x = (x.datum.number?.map towardZero).bind Width.wide.ofNumber := by
  rw [convertTo.wide, truncate64, Datum.truncate_eq]
  cases x.datum.number?.map towardZero with
  | none => rfl
  | some i =>
    dsimp only [Option.map_some, Option.bind_some]
    by_cases h : Width.wide.Holds i
    · rw [Width.ofNumber_of_holds h, Width.clamp64_of_holds h]
      rfl
    · rw [Width.ofNumber_wide h, Width.ofInt_clamp64 h]

lemma convert_integer {v : Value} {s : Width} (w : Width) (isInteger : v.kind = s.kind) :
    convert w.kind v = (((exactNumber? v).map towardZero).bind w.ofNumber).elim
      (.error (.conversion v.kind w.kind)) .ok := by
  obtain ⟨i, -, holds, rfl⟩ := Width.exists_of_kind isInteger
  rw [Width.convert_value holds, exactNumber?_value holds, Option.map_some, towardZero_intCast,
    Option.bind_some, Width.kind_value]
  by_cases h : w.Holds i
  · rw [if_pos (Width.fits_of_holds h), Width.ofNumber_of_holds h]
    rfl
  · rw [if_neg (mt Width.fits_iff.1 h)]
    cases w with
    | narrow => rw [Width.ofNumber_narrow h]; rfl
    | wide =>
      -- No integer is beyond the wide width.
      exact absurd holds.wide h

/-- The kinds of numbers. -/
def isNumberKind : Kind → Bool
  | .int32 | .int64 | .float32 | .float64 => true
  | _ => false

/-- A number is converted to the integer that its exact number gives. -/
lemma convert_number {v : Value} (w : Width) (isNumber : isNumberKind v.kind = true) :
    convert w.kind v = (((exactNumber? v).map towardZero).bind w.ofNumber).elim
      (.error (.conversion v.kind w.kind)) .ok := by
  cases v <;> cases isNumber
  case int32 => exact convert_integer (s := .narrow) w rfl
  case int64 => exact convert_integer (s := .wide) w rfl
  case float32 x =>
    rw [convert_of_kind_ne rfl (by cases w <;> nofun), exactNumber?_float32]
    cases w with
    | narrow => rw [← convertTo_narrow]; rfl
    | wide => rw [← convertTo_wide]; rfl
  case float64 x =>
    rw [convert_of_kind_ne rfl (by cases w <;> nofun), exactNumber?_float64]
    cases w with
    | narrow => rw [← convertTo_narrow]; rfl
    | wide => rw [← convertTo_wide]; rfl

/--
A number converted to integers is truncated toward zero. There is no integer for infinity and for
what is no number. A truncated number that fits is the result; one that does not is refused by the
narrow width, and the wide width has the end of its range in the place of it.
-/
theorem convert_truncates {v : Value} (w : Width) (isNumber : isNumberKind v.kind = true) :
    let number := (exactNumber? v).map towardZero
    (number = none → convert w.kind v = .error (.conversion v.kind w.kind)) ∧
    ∀ i, number = some i →
      (w.Holds i → convert w.kind v = .ok (w.value i)) ∧
      (¬w.Holds i → convert w.kind v =
        match w with
        | .narrow => .error (.conversion v.kind w.kind)
        | .wide => .ok (.int64 (if 0 < i then Int64.maxValue else Int64.minValue))) := by
  intro number
  have result : convert w.kind v =
    (number.bind w.ofNumber).elim (.error (.conversion v.kind w.kind)) .ok :=
      convert_number w isNumber
  refine ⟨fun none => by rw [result, none]; rfl, fun i hi => ⟨fun h => ?_, fun h => ?_⟩⟩
  · rw [result, hi, Option.bind_some, Width.ofNumber_of_holds h]
    rfl
  · rw [result, hi, Option.bind_some]
    cases w with
    | narrow => rw [Width.ofNumber_narrow h]; rfl
    | wide => rw [Width.ofNumber_wide h]; rfl

/-- Two and a half below zero is two below zero in either width. -/
theorem convert_truncates_negative :
    let x : Value := .float64 ⟨0xc004000000000000⟩
    convert .int32 x = .ok (.int32 (-2)) ∧ convert .int64 x = .ok (.int64 (-2)) := by
  intro x
  have number : (exactNumber? x).map towardZero = some (-2) := by
    rw [exactNumber?_float64, ← Datum.truncate_eq]
    rfl
  exact ⟨((convert_truncates .narrow rfl).2 _ number).1 (by decide),
    ((convert_truncates .wide rfl).2 _ number).1 (by decide)⟩

/-- The least number beyond the wide integers becomes the greatest of them; the narrow refuse it. -/
theorem not_refused_beyond_wide :
    let x : Value := .float64 ⟨0x43e0000000000000⟩
    (exactNumber? x).map towardZero = some 0x8000000000000000 ∧
      ¬Width.wide.Holds 0x8000000000000000 ∧
      convert .int64 x = .ok (.int64 Int64.maxValue) ∧
      convert .int32 x = .error (.conversion .float64 .int32) := by
  intro x
  refine ⟨?_, by decide, rfl, rfl⟩
  rw [exactNumber?_float64, ← Datum.truncate_eq]
  rfl

end RelMap.Evaluation
