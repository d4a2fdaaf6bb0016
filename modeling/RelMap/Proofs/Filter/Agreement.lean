import RelMap.Proofs.Expr.Captures
import RelMap.Proofs.Filter.Compile

/-!
# Compilations that agree

Two compilations agree if both give the same result or both fail, and bind equally many values. Two
expressions that resemble each other compile in agreement, as little of a captured value decides
about a condition: its kind, whether it is null to the database, a truth value, and how long a list
is and where it has nulls. Compared exactly, the bound values and the faults are the same too.
-/

namespace RelMap

/-- What a condition may depend on of a captured value. -/
structure Features where
  /-- Its kind. -/
  kind : Kind
  /-- Whether it is null to the database. -/
  isNull : Bool
  /-- The truth value of a boolean. -/
  truth : Option Bool
  /-- Which items of a list are null to the database. -/
  nulls : Option (List Bool)
  deriving DecidableEq

/-- The features of a value, given whether the database takes the empty string for null. -/
def Value.features (emptyStringIsNull : Bool) (v : Value) : Features where
  kind := v.kind
  isNull := v.isNullLike emptyStringIsNull
  truth := v.bool?
  nulls := v.list?.map fun items => items.map (·.isNullLike emptyStringIsNull)

/-- Two values with the same features, each for a database of its own. -/
inductive Value.Alike (es es' : Bool) : Value → Value → Prop where
  | null : Alike es es' .null .null
  | bool (b : Bool) : Alike es es' (.bool b) (.bool b)
  | int32 (i j : Int32) : Alike es es' (.int32 i) (.int32 j)
  | int64 (i j : Int64) : Alike es es' (.int64 i) (.int64 j)
  | float32 (x y : Binary32) : Alike es es' (.float32 x) (.float32 y)
  | float64 (x y : Binary64) : Alike es es' (.float64 x) (.float64 y)
  | string {s t : String} :
    (es && s.isEmpty) = (es' && t.isEmpty) →
    Alike es es' (.string s) (.string t)
  | bytes (b c : List UInt8) : Alike es es' (.bytes b) (.bytes c)
  | timestamp (m n : Int64) : Alike es es' (.timestamp m) (.timestamp n)
  | uuid (u w : Vector UInt8 16) : Alike es es' (.uuid u) (.uuid w)
  | list {vs ws : List Value} :
    vs.map (·.isNullLike es) = ws.map (·.isNullLike es') →
    Alike es es' (.list vs) (.list ws)

/-- Values with the same features are alike. -/
lemma Value.Alike.of_features {es es' : Bool} {v w : Value} (h : v.features es = w.features es') :
    Alike es es' v w := by
  obtain ⟨kind, isNull, truth, nulls⟩ := Features.mk.inj h
  cases v <;> cases w <;> cases kind
  case null => exact .null
  case bool => cases truth; exact .bool _
  case int32 => exact .int32 _ _
  case int64 => exact .int64 _ _
  case float32 => exact .float32 _ _
  case float64 => exact .float64 _ _
  case string => exact .string isNull
  case bytes => exact .bytes _ _
  case timestamp => exact .timestamp _ _
  case uuid => exact .uuid _ _
  case list => exact .list (Option.some.inj nulls)

namespace Filter

/-- Two outcomes of an evaluation that lead to the same condition. -/
inductive SameOutcome (exact : Prop) (es es' : Bool) :
    Except Fault Value → Except Fault Value → Prop where
  | ok {v w} :
    v.features es = w.features es' →
    (exact → v = w) →
    SameOutcome exact es es' (.ok v) (.ok w)
  | error {f g} :
    (exact → f = g) →
    SameOutcome exact es es' (.error f) (.error g)

/-- Two results of compilations that are the same, or two faults. -/
inductive SameResult (exact : Prop) {α : Type} : Except Fault α → Except Fault α → Prop where
  | ok (a : α) : SameResult exact (.ok a) (.ok a)
  | error {f g} :
    (exact → f = g) →
    SameResult exact (.error f) (.error g)

/-- Equally many bound values, which are the same if they are compared exactly. -/
def SameBound (exact : Prop) (vs ws : List Value) : Prop :=
  vs.length = ws.length ∧ (exact → vs = ws)

variable {σ τ α β : Type}

/--
Two compilations that start with equally many bound values give the same result and bind equally
many values.
-/
def Agree (exact : Prop) (good : σ → Prop) (good' : τ → Prop) (m : Compile σ α)
    (m' : Compile τ α) : Prop :=
  ∀ p p', good p.evaluators → good' p'.evaluators → SameBound exact p.bound p'.bound →
    good (m.run.run p).2.evaluators ∧ good' (m'.run.run p').2.evaluators ∧
      SameBound exact (m.run.run p).2.bound (m'.run.run p').2.bound ∧
      SameResult exact (m.run.run p).1 (m'.run.run p').1

/-- Two settings that differ only in their evaluators and in the null of the empty string. -/
structure Setting.Matches (s : Setting σ) (s' : Setting τ) (good : σ → Prop)
    (good' : τ → Prop) : Prop where
  /-- The first evaluator gives values of expressions. -/
  left : s.Faithful good
  /-- So does the second one. -/
  right : s'.Faithful good'
  /-- The mapping is the same. -/
  mapping : s.mapping = s'.mapping
  /-- Case is ignored by both or by none. -/
  ignoreCase : s.ignoreCase = s'.ignoreCase

namespace Agree

variable {exact : Prop} {good : σ → Prop} {good' : τ → Prop} {s : Setting σ} {s' : Setting τ}
variable {m : Compile σ α} {m' : Compile τ α} {f : α → Compile σ β} {f' : α → Compile τ β}

/-- The same result, for which nothing is bound. -/
lemma pure (a : α) : Agree exact good good' (Pure.pure a) (Pure.pure a) := by
  intro p p' hp hp' bound
  exact ⟨hp, hp', bound, .ok a⟩

/-- Two failures. -/
lemma throw {e e' : Fault} (h : exact → e = e') :
    Agree exact good good' (MonadExcept.throw e : Compile σ α)
      (MonadExcept.throw e' : Compile τ α) := by
  intro p p' hp hp' bound
  exact ⟨hp, hp', bound, .error h⟩

/-- Two steps, one after the other. -/
lemma bind (hm : Agree exact good good' m m')
    (hf : ∀ a, Agree exact good good' (f a) (f' a)) :
    Agree exact good good' (m >>= f) (m' >>= f') := by
  intro p p' hp hp' bound
  obtain ⟨next, next', between, result⟩ := hm p p' hp hp' bound
  rw [run_bind, run_bind]
  rcases run : m.run.run p with ⟨r, q⟩
  rcases run' : m'.run.run p' with ⟨r', q'⟩
  rw [run] at next between result
  rw [run'] at next' between result
  cases result with
  | ok a => exact hf a q q' next next' between
  | error h => exact ⟨next, next', between, .error h⟩

/-- What is made of the result of one step. -/
lemma map (hm : Agree exact good good' m m') (g : α → β) :
    Agree exact good good' (m >>= fun a => Pure.pure (g a)) (m' >>= fun a => Pure.pure (g a)) := by
  apply hm.bind
  intro a
  exact pure (g a)

/-- What is made of the results of two steps. -/
lemma map₂ {γ : Type} {n : Compile σ β} {n' : Compile τ β} (hm : Agree exact good good' m m')
    (hn : Agree exact good good' n n') (g : α → β → γ) :
    Agree exact good good' (m >>= fun a => n >>= fun b => Pure.pure (g a b))
      (m' >>= fun a => n' >>= fun b => Pure.pure (g a b)) := by
  apply hm.bind
  intro a
  exact hn.map (g a)

/-- Either of two compilations, as the same condition decides. -/
lemma ite {c c' : Prop} [Decidable c] [Decidable c'] {n : Compile σ α} {n' : Compile τ α}
    (h : c ↔ c') (hm : Agree exact good good' m m') (hn : Agree exact good good' n n') :
    Agree exact good good' (if c then m else n) (if c' then m' else n') := by
  by_cases hc : c
  · rw [if_pos hc, if_pos (h.1 hc)]
    exact hm
  · rw [if_neg hc, if_neg fun hc' => hc (h.2 hc')]
    exact hn

/-- A value is bound to the next parameter, which has the same index. -/
lemma bound {v w : Value} (h : exact → v = w) :
    Agree exact good good' (Filter.bind v) (Filter.bind w) := by
  intro p p' hp hp' ⟨length, same⟩
  have result : SameResult exact (.ok p.bound.length : Except Fault Nat) (.ok p'.bound.length) := by
    rw [length]
    exact .ok _
  refine ⟨hp, hp', ⟨?_, fun ex => ?_⟩, result⟩
  · change (p.bound ++ [v]).length = (p'.bound ++ [w]).length
    rw [List.length_append, List.length_append, length]
    rfl
  · change p.bound ++ [v] = p'.bound ++ [w]
    rw [same ex, h ex]

/-- Several values are bound to the next parameters. -/
lemma boundAll {vs ws : List Value} (h : SameBound exact vs ws) :
    Agree exact good good' (bindAll vs) (bindAll ws) := by
  obtain ⟨length, same⟩ := h
  induction vs generalizing ws with
  | nil =>
    cases List.length_eq_zero_iff.1 length.symm
    exact pure []
  | cons v vs ih =>
    cases ws with
    | nil => cases length
    | cons w ws =>
      apply (bound fun ex => (List.cons.inj (same ex)).1).bind
      intro i
      apply (ih (Nat.succ.inj length) fun ex => (List.cons.inj (same ex)).2).bind
      intro is
      exact pure (i :: is)

/-- Evaluations with the same outcome, and what is done with the values. -/
lemma evaluate (hs : s.Faithful good) (hs' : s'.Faithful good') {es es' : Bool} {e e' : Expr}
    (h : SameOutcome exact es es' (Evaluation.value e) (Evaluation.value e'))
    {g : Value → Compile σ β} {g' : Value → Compile τ β}
    (hg : ∀ v w, v.features es = w.features es' → (exact → v = w) →
      Agree exact good good' (g v) (g' w)) :
    Agree exact good good' (Filter.evaluate s e >>= g) (Filter.evaluate s' e' >>= g') := by
  intro p p' hp hp' bound
  obtain ⟨q, hq, hpq, run⟩ := hs.run_evaluate e hp
  obtain ⟨q', hq', hpq', run'⟩ := hs'.run_evaluate e' hp'
  rw [run_bind, run_bind, run, run']
  rw [← hpq, ← hpq'] at bound
  generalize Evaluation.value e = x at h
  generalize Evaluation.value e' = x' at h
  cases h with
  | ok features same => exact hg _ _ features same q q' hq hq' bound
  | error same => exact ⟨hq, hq', bound, .error same⟩

/-- Compilations that agree exactly have one result, for which the same values are bound. -/
lemma run_eq (h : Agree True good good' m m') {p : Progress σ} {p' : Progress τ}
    (hp : good p.evaluators) (hp' : good' p'.evaluators) (bound : p.bound = p'.bound) :
    (m.run.run p).1 = (m'.run.run p').1 ∧ (m.run.run p).2.bound = (m'.run.run p').2.bound := by
  obtain ⟨-, -, same, result⟩ := h p p' hp hp' ⟨congrArg List.length bound, fun _ => bound⟩
  refine ⟨?_, same.2 trivial⟩
  generalize (m.run.run p).1 = x at result ⊢
  generalize (m'.run.run p').1 = y at result ⊢
  cases result with
  | ok _ => rfl
  | error same => rw [same trivial]

end Agree

end Filter

end RelMap
