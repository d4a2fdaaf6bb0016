import RelMap.Evaluation.Operators
import RelMap.Proofs.Except

/-!
# Faults of operators

Which faults the operators on values can report. That a program does not fit its expression is no
business of theirs: only the program that is being run reports it.
-/

namespace RelMap.Evaluation

/-- Ordering two values reports no mismatch of shapes. -/
lemma order_ne_shapeMismatch (op : Comparison) (l r : Value) :
    order op l r ≠ .error .shapeMismatch := by
  unfold order
  split
  · nofun
  · split <;> nofun

/-- Comparing two values reports no mismatch of shapes. -/
lemma comparison_ne_shapeMismatch (op : Comparison) (l r : Value) :
    comparison op l r ≠ .error .shapeMismatch := by
  cases op with
  | eq => nofun
  | ne => nofun
  | _ => exact order_ne_shapeMismatch _ l r

lemma connective_ne_shapeMismatch (op : Connective) (l r : Value) :
    connective op l r ≠ .error .shapeMismatch := by
  unfold connective
  split <;> nofun

lemma integerArithmetic_ne_shapeMismatch (fits : Int → Bool) (op : Arithmetic) (l r : Int) :
    integerArithmetic fits op l r ≠ .error .shapeMismatch := by
  unfold integerArithmetic
  cases op <;> grind

/-- Calculating with values reports no mismatch of shapes. -/
lemma arithmetic_ne_shapeMismatch (op : Arithmetic) (l r : Value) :
    arithmetic op l r ≠ .error .shapeMismatch := by
  have mapped (fits : Int → Bool) (f : Int → Value) (a b : Int) :
      (integerArithmetic fits op a b).map f ≠ .error .shapeMismatch := by
    have h := integerArithmetic_ne_shapeMismatch fits op a b
    cases result : integerArithmetic fits op a b with
    | error e =>
      rw [result] at h
      simpa [Except.map] using h
    | ok i => nofun
  have numeric : numericArithmetic op l r ≠ .error .shapeMismatch := by
    unfold numericArithmetic
    split
    · exact mapped _ _ _ _
    · nofun
    · nofun
  unfold arithmetic
  split
  · nofun
  · split
    · nofun
    · exact mapped _ _ _ _
    · exact numeric

/-- No binary operator reports a mismatch of shapes. -/
lemma binary_ne_shapeMismatch (op : BinaryOp) (l r : Value) :
    binary op l r ≠ .error .shapeMismatch := by
  cases op with
  | comparison c => exact comparison_ne_shapeMismatch c l r
  | connective k => exact connective_ne_shapeMismatch k l r
  | arithmetic a => exact arithmetic_ne_shapeMismatch a l r
  | coalesce => nofun

lemma negation_ne_shapeMismatch (v : Value) : negation v ≠ .error .shapeMismatch := by
  cases v <;> nofun

lemma negate_ne_shapeMismatch (v : Value) : negate v ≠ .error .shapeMismatch := by
  unfold negate
  split <;> grind

/-- Converting a value reports no mismatch of shapes. -/
lemma convert_ne_shapeMismatch (target : Kind) (v : Value) :
    convert target v ≠ .error .shapeMismatch := by
  unfold convert
  split
  · nofun
  · split <;> nofun

lemma readMember_ne_shapeMismatch (name : String) (v : Value) :
    readMember name v ≠ .error .shapeMismatch := by
  unfold readMember
  split <;> grind

lemma staticCall_ne_shapeMismatch (method : Method) (args : List Value) :
    staticCall method args ≠ .error .shapeMismatch := by
  unfold staticCall
  split <;> nofun

lemma targetCall_ne_shapeMismatch (method : Method) (target : Value) (args : List Value) :
    targetCall method target args ≠ .error .shapeMismatch := by
  unfold targetCall
  split <;> nofun

end RelMap.Evaluation
