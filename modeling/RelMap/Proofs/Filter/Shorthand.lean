import RelMap.Proofs.Evaluation.Values
import RelMap.Proofs.Filter.CapturedValues
import RelMap.Proofs.Filter.NullTests

/-!
# Comparisons with truth values

A property or a condition that is compared with a truth value for equality says no more than the
property or the condition itself, or its negation. So it is compiled as one of these: the truth
value is neither written nor bound, and what cannot be compiled fails alike.
-/

namespace RelMap

open Evaluation (EvaluatorCache value)

namespace Filter

variable {σ τ α β : Type} {exact : Prop} {good : σ → Prop} {good' : τ → Prop}
variable {s : Setting σ} {s' : Setting τ} {e : Expr}

/-- What is done with the value of a captured expression, and a compilation that agrees with it. -/
lemma Agree.evaluated (hs : s.Faithful good) {captured : Expr} {v : Value}
    (hv : value captured = .ok v) {f : Value → Compile σ β} {m : Compile τ β}
    (h : Agree exact good good' (f v) m) :
    Agree exact good good' (Filter.evaluate s captured >>= f) m := by
  intro p p' hp hp' bound
  obtain ⟨q, hq, hpq, run⟩ := hs.run_evaluate captured hp
  rw [run_bind, run, hv]
  rw [← hpq] at bound
  exact h q p' hq hp' bound

/-- The negation of a property is its flag for false, that of anything else is of its condition. -/
lemma condition_not (reads : e.dependsOnParameter = true) :
    condition s (.not e) =
      match e.property? with
      | some name => column s name >>= fun c => pure (.flag c false)
      | none => condition s e >>= fun c => pure (.not c) := by
  rw [condition, Expr.dependsOnParameter, reads]
  rfl

/-- The truth value that is expected is whether the comparison and the value agree. -/
lemma expected?_bool {op : Comparison} (equality : op = .eq ∨ op = .ne) (b : Bool) :
    expected? op (.bool b) = some (decide (b = decide (op = .eq))) := by
  obtain rfl | rfl := equality <;> cases b <;> rfl

/-- A comparison with a truth value is compiled as what it asks for. -/
lemma agree_asked (settings : s.Matches s' good good')
    (empty : s.emptyStringIsNull = s'.emptyStringIsNull) {op : Comparison}
    (equality : op = .eq ∨ op = .ne) {l r captured : Expr} {left b : Bool}
    (sides : Sides l r e captured left) (hv : value captured = .ok (.bool b))
    (asks : e.property?.isSome = true ∨ isConditionShaped e = true) :
    Agree True good good' (condition s (.binary (.comparison op) l r))
      (condition s' (if b = decide (op = .eq) then e else .not e)) := by
  have reads := sides.reads
  have itself : Agree True good good' (condition s e) (condition s' e) :=
    agree_condition settings (Expr.Resembles.refl (Captured.refl empty) e)
  rw [condition_of_sides sides]
  -- Only the comparison evaluates the truth value, which may change its evaluators.
  refine Agree.evaluated settings.left hv ?_
  rw [if_neg (by exact Bool.false_ne_true), expected?_bool equality]
  dsimp only
  cases property : e.property? with
  | some name =>
    have column : Agree True good good' (column s name) (column s' name) :=
      agree_column settings.mapping name
    by_cases agrees : b = decide (op = .eq)
    · rw [decide_eq_true agrees, if_pos agrees, condition_of_property? (s := s') reads property]
      exact column.map _
    · rw [decide_eq_false agrees, if_neg agrees, condition_not reads, property]
      exact column.map _
  | none =>
    have shaped : isConditionShaped e = true := asks.resolve_left (by rw [property]; nofun)
    dsimp only
    rw [if_pos shaped]
    by_cases agrees : b = decide (op = .eq)
    · rw [decide_eq_true agrees, if_pos agrees, ← bind_pure (condition s' e)]
      exact itself.map _
    · rw [decide_eq_false agrees, if_neg agrees, condition_not reads, property]
      exact itself.map _

end Filter

/--
A property or a condition that is compared with a truth value for equality, on either side, is
compiled as it stands if the truth value and the comparison agree, and as its negation otherwise:
the same clause or the same error, whatever the two caches were asked before, and wherever in a
filter it stands also the same values bound.
-/
theorem FilterTarget.clause_shorthand (t : FilterTarget) (hash hash' : Expr → UInt64)
    {cache cache' : EvaluatorCache} (reachable : cache.Reachable hash)
    (reachable' : cache'.Reachable hash') {e captured : Expr} {b : Bool}
    (reads : e.dependsOnParameter = true)
    (asks : e.property?.isSome = true ∨ Filter.isConditionShaped e = true)
    (hv : value captured = .ok (.bool b)) :
    ∀ op ∈ [Comparison.eq, .ne],
      ∀ whole ∈ [Expr.binary (.comparison op) e captured, .binary (.comparison op) captured e],
        let asked := if b = decide (op = .eq) then e else .not e
        (t.clause hash cache whole).1 = (t.clause hash' cache' asked).1 ∧
        ∀ bound : List Value,
          let run := (Filter.condition (t.setting (EvaluatorCache.evaluate hash)) whole).run.run
            ⟨cache, bound⟩
          let run' := (Filter.condition (t.setting (EvaluatorCache.evaluate hash')) asked).run.run
            ⟨cache', bound⟩
          run.1 = run'.1 ∧ run.2.bound = run'.2.bound := by
  intro op hop whole hwhole asked
  have equality : op = .eq ∨ op = .ne := by simpa using hop
  have free := Evaluation.captured_of_value hv
  have agree : Filter.Agree True EvaluatorCache.Sound EvaluatorCache.Sound
      (Filter.condition (t.setting (EvaluatorCache.evaluate hash)) whole)
      (Filter.condition (t.setting (EvaluatorCache.evaluate hash')) asked) := by
    have settings := t.settings_match hash hash'
    obtain rfl | rfl : whole = .binary (.comparison op) e captured ∨
        whole = .binary (.comparison op) captured e := by simpa using hwhole
    · exact Filter.agree_asked settings rfl equality (.right reads free) hv asks
    · exact Filter.agree_asked settings rfl equality (.left free reads) hv asks
  refine ⟨(t.sameClause_of_agree reachable.sound reachable'.sound agree).eq, fun bound => ?_⟩
  exact agree.run_eq reachable.sound reachable'.sound rfl

/-- A search that is compared with false in front of it is the negated search, in any case. -/
theorem clause_shorthand_search :
    let t : FilterTarget := { mapping := sampleMapping, dialect := .oracle, ignoreCase := some true }
    let search : Expr :=
      .invoke (.member (.parameter "x") "A") .startsWith [.constant (.string "Ab")]
    let off : Expr := .binary (.comparison .ne) (.constant (.int32 1)) (.constant (.int32 1))
    let whole : Expr := .binary (.comparison .eq) off search
    value off = .ok (.bool false) ∧
      (t.clause Expr.shapeHash (.empty 1) whole).1 =
        (t.clause Expr.shapeHash (.empty 0) (.not search)).1 ∧
      (t.clause Expr.shapeHash (.empty 1) whole).1.map (·.parameters.values) =
        .ok [.string "ab%"] := by
  intro t search off whole
  have reads : search.dependsOnParameter = true := rfl
  have no : value off = .ok (.bool false) := rfl
  have same := t.clause_shorthand Expr.shapeHash Expr.shapeHash (.empty 1) (.empty 0) reads
    (.inr rfl) no .eq (.head _) whole (.tail _ (.head _))
  exact ⟨no, same.1, rfl⟩

end RelMap
