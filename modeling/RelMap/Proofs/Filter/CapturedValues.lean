import RelMap.Proofs.Filter.Resemblance
import RelMap.Proofs.Statement

/-!
# What captured values decide

Captured parts of a filter matter through their values only: with constants in their place the
filter has the same clause. Of the values themselves little shows in the text of the clause, so
filters of one shape whose values share these features have the same text.
-/

namespace RelMap

open Evaluation (EvaluatorCache value)
open RelMap.Filter (Agree Captured SameOutcome SameBound SameResult)

/-- The constant of an expression's value, or the expression itself if it has none. -/
def Expr.settle (e : Expr) : Expr :=
  match value e with
  | .ok v => .constant v
  | .error _ => e

/-- The features of an expression's value, if it has one. -/
def Expr.features? (emptyStringIsNull : Bool) (e : Expr) : Option Features :=
  (value e).toOption.map (·.features emptyStringIsNull)

/-- What of a clause goes into the text of a statement: its own text, and the parameters' names. -/
def Clause.outline (c : Clause) : String × List (String × String) :=
  (c.sql, c.parameters.toList.map fun p => (p.name, p.placeholder))

/-- Two clauses of one condition with equally many values, or two errors. -/
inductive SameClause (exact : Prop) : Except Error Clause → Except Error Clause → Prop where
  | ok {s c d vs ws} :
    SameBound exact vs ws →
    SameClause exact (.ok ⟨s, c, d, vs⟩) (.ok ⟨s, c, d, ws⟩)
  | error {f g} :
    (exact → f = g) →
    SameClause exact (.error f) (.error g)

lemma FilterTarget.settings_match (t : FilterTarget) (hash hash' : Expr → UInt64) :
    (t.setting (EvaluatorCache.evaluate hash)).Matches (t.setting (EvaluatorCache.evaluate hash'))
      EvaluatorCache.Sound EvaluatorCache.Sound :=
  ⟨t.faithful hash, t.faithful hash', rfl, rfl⟩

/-- Filters that are compiled alike have the same clause. -/
lemma FilterTarget.sameClause_of_agree {exact : Prop} (t : FilterTarget)
    {hash hash' : Expr → UInt64} {cache cache' : EvaluatorCache} (sound : cache.Sound)
    (sound' : cache'.Sound) {e e' : Expr}
    (agree : Agree exact EvaluatorCache.Sound EvaluatorCache.Sound
      (Filter.condition (t.setting (EvaluatorCache.evaluate hash)) e)
      (Filter.condition (t.setting (EvaluatorCache.evaluate hash')) e')) :
    SameClause exact (t.clause hash cache e).1 (t.clause hash' cache' e').1 := by
  obtain ⟨_, _, bound, result⟩ := agree ⟨cache, []⟩ ⟨cache', []⟩ sound sound' ⟨rfl, fun _ => rfl⟩
  unfold FilterTarget.clause FilterTarget.clauseWith
  rcases run : (Filter.condition (t.setting (EvaluatorCache.evaluate hash)) e).run.run
    ⟨cache, []⟩ with ⟨r, p⟩
  rcases run' : (Filter.condition (t.setting (EvaluatorCache.evaluate hash')) e').run.run
    ⟨cache', []⟩ with ⟨r', p'⟩
  rw [run, run'] at bound result
  cases result with
  | ok condition => exact .ok bound
  | error same => exact .error fun ex => by rw [same ex]

/-- Filters that differ only in captured parts with the same outcomes have the same clause. -/
lemma FilterTarget.sameClause {exact : Prop} (t : FilterTarget) {hash hash' : Expr → UInt64}
    {cache cache' : EvaluatorCache} (sound : cache.Sound) (sound' : cache'.Sound) {e e' : Expr}
    (h : Expr.Resembles exact (Captured exact (t.setting (EvaluatorCache.evaluate hash))
      (t.setting (EvaluatorCache.evaluate hash'))) e e') :
    SameClause exact (t.clause hash cache e).1 (t.clause hash' cache' e').1 :=
  t.sameClause_of_agree sound sound' (Filter.agree_condition (t.settings_match hash hash') h)

lemma SameClause.eq {a b : Except Error Clause} (h : SameClause True a b) : a = b := by
  cases h with
  | ok bound => rw [bound.2 trivial]
  | error same => rw [same trivial]

/-- The names and marks of parameters follow from their number. -/
lemma Parameters.names_toList (p : Parameters) :
    p.toList.map (fun q => (q.name, q.placeholder)) =
      (List.range' 0 p.size).map fun i => (Dialect.parameterName i, p.dialect.placeholder i) := by
  rw [size, ← List.zipIdx_map_snd, toList, List.map_map, List.map_map]
  rfl

/-- Clauses of one condition with equally many values have the same outline. -/
lemma SameClause.outline_eq {exact : Prop} {a b : Except Error Clause} (h : SameClause exact a b) :
    a.toOption.map Clause.outline = b.toOption.map Clause.outline := by
  cases h with
  | error => rfl
  | @ok s c d vs ws bound =>
    have names : Clause.outline ⟨s, c, d, vs⟩ = Clause.outline ⟨s, c, d, ws⟩ := by
      rw [Clause.outline, Clause.outline, Parameters.names_toList, Parameters.names_toList]
      rw [Parameters.size, Parameters.size, bound.1]
      rfl
    exact congrArg some names

lemma value_constant (v : Value) : value (.constant v) = .ok v := rfl

/--
Captured parts matter only through their values: whatever was asked of the cache before, a filter
whose captured parts have values has the clause, or the error, of the filter that holds constants
in their place.
-/
theorem FilterTarget.clause_settled (t : FilterTarget) (hash hash' : Expr → UInt64)
    {cache : EvaluatorCache} (reachable : cache.Reachable hash) (capacity : Nat) {body : Expr}
    (values : ∀ c ∈ body.captures, ∃ v, value c = .ok v) :
    (t.clause hash cache body).1 =
      (t.clause hash' (.empty capacity) (body.mapCaptures Expr.settle)).1 := by
  apply SameClause.eq
  apply t.sameClause reachable.sound (EvaluatorCache.Sound.empty capacity)
  apply Expr.Resembles.mapCaptures
  intro c hc
  obtain ⟨v, hv⟩ := values c hc
  have settled : c.settle = .constant v := by rw [Expr.settle, hv]
  rw [settled, Captured, value_constant, hv]
  exact ⟨rfl, .ok rfl fun _ => rfl⟩

/-- A filter that compares a property with the sum of a captured field and one. -/
def sampleSum : Expr :=
  .binary (.comparison .eq) (.member (.parameter "x") "A")
    (.binary (.arithmetic .add) (.member (.closure ⟨"Limits", [("Lower", .int32 6)]⟩) "Lower")
      (.constant (.int32 1)))

/-- With six in the field, the sum is the same as the constant seven. -/
theorem clause_settled_sum :
    (sampleTarget.clause Expr.shapeHash
        ((EvaluatorCache.empty 1).evaluate Expr.shapeHash (.constant .null)).2 sampleSum).1 =
      (sampleTarget.clause Expr.shapeHash (.empty 1)
        (.binary (.comparison .eq) (.member (.parameter "x") "A") (.constant (.int32 7)))).1 :=
  sampleTarget.clause_settled _ _ (.evaluate _ (.empty 1)) 1 fun c hc => by
    cases List.mem_singleton.1 hc
    exact ⟨.int32 7, rfl⟩

/-- Expressions whose values have the same features are captured parts with the same outcome. -/
lemma Filter.Captured.of_features? {σ τ : Type} {s : Setting σ} {s' : Setting τ} {e e' : Expr}
    (h : e.features? s.emptyStringIsNull = e'.features? s'.emptyStringIsNull) :
    Captured False s s' e e' := by
  unfold Expr.features? at h
  unfold Captured
  cases hv : value e with
  | error f =>
    cases hw : value e' with
    | error g => exact .error False.elim
    | ok w =>
      rw [hv, hw] at h
      cases h
  | ok v =>
    cases hw : value e' with
    | error g =>
      rw [hv, hw] at h
      cases h
    | ok w =>
      rw [hv, hw] at h
      exact .ok (Option.some.inj h) False.elim

/--
No captured text reaches the statement: two filters of one shape, whatever their parameters are
called, have clauses of the same outline, or no clauses, if their captured parts have values with
the same features, or none.
-/
theorem FilterTarget.outline_indistinct (t : FilterTarget) {hash hash' : Expr → UInt64}
    {cache cache' : EvaluatorCache} (reachable : cache.Reachable hash)
    (reachable' : cache'.Reachable hash') {p q : Predicate} (same : p.body.sameShape q.body)
    (features : p.body.captures.map (Expr.features? t.dialect.emptyStringIsNull) =
      q.body.captures.map (Expr.features? t.dialect.emptyStringIsNull)) :
    (t.clause hash cache p.body).1.toOption.map Clause.outline =
      (t.clause hash' cache' q.body).1.toOption.map Clause.outline := by
  apply @SameClause.outline_eq False
  apply t.sameClause reachable.sound reachable'.sound
  exact Expr.Resembles.of_sameShape Filter.Captured.of_features? same features

/-- A filter that looks for a text in a property. -/
def sampleSearch (parameter text : String) : Predicate where
  parameter := parameter
  body := .binary (.comparison .eq) (.member (.parameter parameter) "A") (.constant (.string text))

/-- A quote in the text makes no difference. -/
theorem outline_indistinct_search :
    (sampleTarget.clause Expr.shapeHash (.empty 1)
        (sampleSearch "x" "b").body).1.toOption.map Clause.outline =
      (sampleTarget.clause Expr.shapeHash (.empty 2)
        (sampleSearch "y" "' OR 1=1").body).1.toOption.map Clause.outline :=
  sampleTarget.outline_indistinct (.empty 1) (.empty 2) (by decide) (by decide)

end RelMap
