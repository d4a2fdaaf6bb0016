import RelMap.Proofs.Evaluation.Cache
import RelMap.Proofs.Evaluation.Refinement
import RelMap.Proofs.Expr.ShapeCode

/-!
# Values of captured expressions

An expression has the value that evaluation from left to right gives it, if it has a program at
all. So a call has a value exactly when what it is called on and its arguments have values that the
method is defined on.
-/

namespace RelMap.Evaluation

/-- Whether an expression reads no entity and calls known methods only. -/
def Closed (e : Expr) : Prop := e.dependsOnParameter = false ∧ e.callsNamed = false

variable {e : Expr} {v w : Value}

/-- The closed expressions are those that have a program. -/
lemma closed_iff : Closed e ↔ ∃ p, Program.ofExpr e = .ok p := by
  constructor
  · rintro ⟨free, known⟩
    exact exists_ofExpr free known
  · rintro ⟨p, hp⟩
    exact closed_of_ofExpr hp

/-- What is closed has the value or the fault of its direct evaluation. -/
lemma value_of_closed (h : Closed e) : value e = (direct e).mapError .evaluation := by
  obtain ⟨p, hp⟩ := closed_iff.1 h
  rw [value, hp]
  dsimp only
  rw [run_eq_direct hp (Expr.sameShape_equivalence.refl e)]
  cases direct e <;> rfl

/-- What has a value is closed, and the value is that of evaluation from left to right. -/
lemma value_eq_ok : value e = .ok v ↔ Closed e ∧ strict e = .ok v := by
  rw [strict_eq_ok, ← direct_eq_ok]
  by_cases closed : Closed e
  · rw [value_of_closed closed]
    cases direct e with
    | error fault => exact ⟨nofun, fun ⟨_, h⟩ => nomatch h⟩
    | ok w => exact ⟨fun h => ⟨closed, by cases h; rfl⟩, fun ⟨_, h⟩ => by cases h; rfl⟩
  · refine ⟨fun h => ?_, fun h => absurd h.1 closed⟩
    cases compiled : Program.ofExpr e with
    | error fault => rw [value, compiled] at h; cases h
    | ok p => exact absurd (closed_iff.2 ⟨p, compiled⟩) closed

lemma captured_of_value (h : value e = .ok v) : e.dependsOnParameter = false :=
  (value_eq_ok.1 h).1.1

/-- A method called on a value with an argument gives what it gives for the two values. -/
lemma value_invoke {target arg : Expr} {method : Method} (known : method.isNamed = false)
    (ht : value target = .ok v) (ha : value arg = .ok w) {r : Value} :
    value (.invoke target method [arg]) = .ok r ↔ targetCall method v [w] = .ok r := by
  obtain ⟨⟨free, calls⟩, ht⟩ := value_eq_ok.1 ht
  obtain ⟨⟨free', calls'⟩, ha⟩ := value_eq_ok.1 ha
  rw [value_eq_ok]
  simp [Closed, Expr.dependsOnParameter, Expr.anyDependsOnParameter, Expr.callsNamed,
    Expr.anyCallsNamed, strict, strictAll, free, free', calls, calls', known, ht, ha]

end RelMap.Evaluation
