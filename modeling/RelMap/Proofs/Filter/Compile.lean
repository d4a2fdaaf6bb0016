import RelMap.Filter.Compile
import RelMap.Proofs.Evaluation.Cache
import RelMap.Proofs.Except

/-!
# What a compilation yields

A rule for each way in which compilations are put together, so that a statement about the result of
a compilation follows the compilation's own case analysis. A statement relates the number of values
bound before, the result, and the values bound for it.
-/

namespace RelMap.Filter

variable {σ α β : Type}

/-- An evaluator that gives the same value in every good state, and leads to good states only. -/
structure Setting.Faithful (s : Setting σ) (good : σ → Prop) : Prop where
  /-- The value is that of the expression's own program. -/
  value : ∀ {state}, good state → ∀ e, (s.evaluate state e).1 = Evaluation.value e
  /-- The next state is good. -/
  next : ∀ {state}, good state → ∀ e, good (s.evaluate state e).2

/--
A compilation that starts with some number of bound values keeps the evaluator in good states, only
adds to the bound values, and relates its result to what it adds.
-/
def Yields (good : σ → Prop) (n : Nat) (m : Compile σ α) (P : α → List Value → Prop) : Prop :=
  ∀ p, good p.evaluators → p.bound.length = n →
    good (m.run.run p).2.evaluators ∧
      ∀ a, (m.run.run p).1 = .ok a →
        ∃ vs, (m.run.run p).2.bound = p.bound ++ vs ∧ P a vs

/-- The value of an expression that is no constant comes from the evaluator. -/
lemma run_evaluate (s : Setting σ) {e : Expr} (h : ∀ v, e ≠ .constant v) (p : Progress σ) :
    (evaluate s e).run.run p =
      ((s.evaluate p.evaluators e).1, { p with evaluators := (s.evaluate p.evaluators e).2 }) := by
  unfold evaluate
  split
  next v => exact absurd rfl (h v)
  next =>
    rw [run_bind]
    change ExceptT.run (m := StateM (Progress σ)) _ _ = _
    rcases s.evaluate p.evaluators e with ⟨_ | _, evaluators⟩ <;> rfl

/-- A faithful evaluator gives the value of an expression, and nothing is bound for it. -/
lemma Setting.Faithful.run_evaluate {s : Setting σ} {good : σ → Prop} (hs : s.Faithful good)
    (e : Expr) {p : Progress σ} (hp : good p.evaluators) :
    ∃ q, good q.evaluators ∧ q.bound = p.bound ∧
      (Filter.evaluate s e).run.run p = (Evaluation.value e, q) := by
  by_cases constant : ∃ v, e = .constant v
  · obtain ⟨v, rfl⟩ := constant
    exact ⟨p, hp, rfl, rfl⟩
  · refine ⟨{ p with evaluators := (s.evaluate p.evaluators e).2 }, hs.next hp e, rfl, ?_⟩
    rw [Filter.run_evaluate s fun v h => constant ⟨v, h⟩, hs.value hp]

namespace Yields

variable {good : σ → Prop} {n : Nat} {s : Setting σ}
variable {m : Compile σ α} {f : α → Compile σ β}
variable {P P' : α → List Value → Prop} {Q : β → List Value → Prop}

/-- What is yielded may be stated less precisely. -/
lemma mono (h : Yields good n m P) (le : ∀ a vs, P a vs → P' a vs) : Yields good n m P' := by
  intro p hp hn
  obtain ⟨next, result⟩ := h p hp hn
  refine ⟨next, fun a ha => ?_⟩
  obtain ⟨vs, bound, ok⟩ := result a ha
  exact ⟨vs, bound, le _ _ ok⟩

/-- A result that binds nothing. -/
lemma pure {a : α} (h : P a []) : Yields good n (Pure.pure a) P := by
  intro p hp hn
  refine ⟨hp, fun b hb => ⟨[], (List.append_nil _).symm, ?_⟩⟩
  cases hb
  exact h

/-- A failure yields nothing. -/
lemma throw {e : Fault} : Yields good n (MonadExcept.throw e : Compile σ α) P := by
  intro p hp hn
  exact ⟨hp, fun a ha => nomatch ha⟩

/-- Either of two compilations, whichever is chosen. -/
lemma ite {c : Prop} [Decidable c] {m' : Compile σ α} (h : Yields good n m P)
    (h' : Yields good n m' P) : Yields good n (if c then m else m') P := by
  split
  · exact h
  · exact h'

/-- What two steps yield, one after the other. -/
lemma bind (hm : Yields good n m P)
    (hf : ∀ a vs, P a vs → Yields good (n + vs.length) (f a) fun b ws => Q b (vs ++ ws)) :
    Yields good n (m >>= f) Q := by
  intro p hp hn
  obtain ⟨next, result⟩ := hm p hp hn
  rw [run_bind]
  rcases run : m.run.run p with ⟨e | a, q⟩
  · rw [run] at next
    exact ⟨next, fun b hb => nomatch hb⟩
  · rw [run] at next result
    obtain ⟨vs, bound, ok⟩ := result a rfl
    have length : q.bound.length = n + vs.length := by
      rw [show q.bound = p.bound ++ vs from bound, List.length_append, hn]
    obtain ⟨last, result'⟩ := hf a vs ok q next length
    refine ⟨last, fun b hb => ?_⟩
    obtain ⟨ws, bound', ok'⟩ := result' b hb
    rw [show q.bound = p.bound ++ vs from bound] at bound'
    exact ⟨vs ++ ws, bound'.trans (List.append_assoc ..), ok'⟩

/-- What is made of the result of one step. -/
lemma map (hm : Yields good n m P) {g : α → β} (h : ∀ a vs, P a vs → Q (g a) vs) :
    Yields good n (m >>= fun a => Pure.pure (g a)) Q := by
  refine hm.bind fun a vs ok => pure ?_
  rw [List.append_nil]
  exact h a vs ok

/-- A step that may fail and does nothing else. -/
lemma check {x : Except Fault α} (hm : ∀ p, m.run.run p = (x, p))
    (hf : ∀ a, x = .ok a → Yields good n (f a) Q) : Yields good n (m >>= f) Q := by
  intro p hp hn
  rw [run_bind, hm]
  cases x with
  | error e => exact ⟨hp, fun b hb => nomatch hb⟩
  | ok a => exact hf a rfl p hp hn

/-- The evaluation of a captured expression gives its value. -/
lemma evaluate (hs : s.Faithful good) {e : Expr} {f : Value → Compile σ β}
    (hf : ∀ v, Evaluation.value e = .ok v → Yields good n (f v) Q) :
    Yields good n (Filter.evaluate s e >>= f) Q := by
  intro p hp hn
  obtain ⟨q, hq, bound, run⟩ := hs.run_evaluate e hp
  rw [run_bind, run]
  rw [← bound] at hn ⊢
  cases he : Evaluation.value e with
  | error f => exact ⟨hq, fun b hb => nomatch hb⟩
  | ok v => exact hf v he q hq hn

/-- The column of a property is found, or the compilation fails. -/
lemma column {property : String} {f : String → Compile σ β}
    (hf : ∀ c, s.mapping.requireColumn property = .ok c → Yields good n (f c) Q) :
    Yields good n (Filter.column s property >>= f) Q := by
  unfold Filter.column
  cases h : s.mapping.requireColumn property with
  | ok c => exact hf c h
  | error fault => exact check (x := .error (.mapping fault)) (fun _ => rfl) nofun

/-- The text of a pattern is a string, or the compilation fails. -/
lemma patternText {method : Method} {v : Value} {f : String → Compile σ β}
    (hf : ∀ text, v = .string text → Yields good n (f text) Q) :
    Yields good n (Filter.patternText method v >>= f) Q := by
  cases v with
  | string text => exact hf text rfl
  | _ => exact check (x := .error (.evaluation _)) (fun _ => rfl) nofun

/-- A collection is a list, or the compilation fails. -/
lemma collectionItems {v : Value} {f : List Value → Compile σ β}
    (hf : ∀ values, v = .list values → Yields good n (f values) Q) :
    Yields good n (Filter.collectionItems v >>= f) Q := by
  cases v with
  | list values => exact hf values rfl
  | _ => exact check (x := .error (.evaluation _)) (fun _ => rfl) nofun

/-- A value is bound to the next parameter. -/
lemma bound (v : Value) : Yields good n (Filter.bind v) fun index vs => index = n ∧ vs = [v] := by
  intro p hp hn
  refine ⟨hp, fun index h => ⟨[v], rfl, ?_, rfl⟩⟩
  cases h
  exact hn

/-- Several values are bound to the next parameters. -/
lemma boundAll (values : List Value) :
    Yields good n (bindAll values) fun items vs =>
      vs = values ∧ items = List.range' n values.length := by
  induction values generalizing n with
  | nil => exact pure ⟨rfl, rfl⟩
  | cons v values ih =>
    refine (bound v).bind fun i vs ⟨hi, hvs⟩ => ?_
    subst hi hvs
    exact ih.map fun items ws ⟨hws, hitems⟩ => ⟨by rw [hws]; rfl, by rw [hitems]; rfl⟩

end Yields

end RelMap.Filter
