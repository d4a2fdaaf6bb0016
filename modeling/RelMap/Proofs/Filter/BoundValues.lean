import RelMap.Proofs.Filter.Binding

/-!
# Which values are bound

A compilation binds single values other than null, and items of captured lists that are not null to
the database. Null itself is never bound, however deep in the filter it is captured.
-/

namespace RelMap.Filter

open Evaluation (value)

/-- A value that a compilation may bind. -/
inductive Bindable (emptyStringIsNull : Bool) : Value → Prop where
  | single {v} :
    v ≠ .null →
    v.isList = false →
    Bindable emptyStringIsNull v
  | item {collection vs v} :
    value collection = .ok (.list vs) →
    v ∈ vs →
    v.isNullLike emptyStringIsNull = false →
    Bindable emptyStringIsNull v

/-- Null is not bound. -/
lemma Bindable.ne_null {emptyStringIsNull : Bool} {v : Value} (h : Bindable emptyStringIsNull v) :
    v ≠ .null := by
  cases h with
  | single other _ => exact other
  | item _ _ present =>
    rintro rfl
    cases present

variable {σ α β : Type} {s : Setting σ} {good : σ → Prop} {n : Nat}

/-- Only such values are bound as may be. -/
def BindsFit (s : Setting σ) (_ : α) (vs : List Value) : Prop :=
  ∀ v ∈ vs, Bindable s.emptyStringIsNull v

namespace Yields

variable {m : Compile σ α} {f : α → Compile σ β}

/-- Nothing is bound where nothing is done. -/
lemma fit_pure (a : α) : Yields good n (Pure.pure a) (BindsFit s) := pure nofun

/-- What two steps bind may be bound if what each of them binds may be. -/
lemma fit_bind (hm : Yields good n m (BindsFit s))
    (hf : ∀ {k} a, Yields good k (f a) (BindsFit s)) : Yields good n (m >>= f) (BindsFit s) :=
  hm.bind fun a _ fit => (hf a).mono fun _ _ fit' =>
    List.forall_mem_append.2 ⟨fit, fit'⟩

/-- What is made of a result binds nothing more. -/
lemma fit_map (hm : Yields good n m (BindsFit s)) (g : α → β) :
    Yields good n (m >>= fun a => Pure.pure (g a)) (BindsFit s) :=
  hm.fit_bind fun a => fit_pure (g a)

/-- Binding one value binds no other. -/
lemma fit_bound {v : Value} (h : Bindable s.emptyStringIsNull v) :
    Yields good n (Filter.bind v) (BindsFit s) := by
  apply (bound v).mono
  rintro _ _ ⟨-, rfl⟩
  exact List.forall_mem_singleton.2 h

/-- Binding several values binds no others. -/
lemma fit_boundAll {values : List Value} (h : ∀ v ∈ values, Bindable s.emptyStringIsNull v) :
    Yields good n (bindAll values) (BindsFit s) := by
  apply (boundAll values).mono
  rintro _ _ ⟨rfl, -⟩
  exact h

end Yields

/-- A captured part in the place of a term is bound unless it is null, and lists are refused. -/
lemma yields_capturedTerm_fit (hs : s.Faithful good) (e : Expr) :
    Yields good n (capturedTerm s e) (BindsFit s) := by
  refine Yields.evaluate hs fun v _ => ?_
  cases v with
  | null => exact Yields.fit_pure _
  | list items => exact Yields.throw
  | _ =>
    refine (Yields.fit_bound ?_).fit_map _
    exact .single nofun rfl

/-- What is bound for a term. -/
lemma yields_term_fit (hs : s.Faithful good) (e : Expr) :
    Yields good n (term s e) (BindsFit s) := by
  fun_induction Filter.term s e generalizing n with
  | case1 e => exact yields_capturedTerm_fit hs e
  | case2 => exact Yields.column fun _ _ => Yields.fit_pure _
  | case3 => exact Yields.throw
  | case4 target operand _ _ ih => exact ih
  | case5 operand _ _ ih => exact ih.fit_map _
  | case6 op left right _ _ ihl ihr => exact ihl.fit_bind fun _ => ihr.fit_map _
  | case7 left right _ _ ihl ihr => exact ihl.fit_bind fun _ => ihr.fit_map _
  | case8 target method function _ _ _ ih => exact ih.fit_map _
  | _ => exact Yields.throw

/-- A captured part in the place of a condition is never bound. -/
lemma yields_capturedCondition_fit (hs : s.Faithful good) (e : Expr) :
    Yields good n (capturedCondition s e) (BindsFit s) := by
  refine Yields.evaluate hs fun v _ => ?_
  cases v with
  | bool b => exact Yields.fit_pure _
  | null => exact Yields.fit_pure _
  | _ => exact Yields.throw

/-- Folding its case does not make a value null, nor a list. -/
lemma bindable_folded {emptyStringIsNull : Bool} {v : Value} (other : v ≠ .null)
    (single : v.isList = false) (fold : Bool) :
    Bindable emptyStringIsNull (if fold then foldedValue v else v) := by
  cases fold with
  | false => exact .single other single
  | true =>
    cases v with
    | string text => exact .single nofun rfl
    | _ => exact .single other single

section
variable {operand : Compile σ Term} (h : ∀ {k}, Yields good k operand (BindsFit s))
include h

/-- A comparison binds the value that it compares with, which is no list. -/
lemma yields_valueComparison_fit (op : Comparison) {v : Value} (other : v ≠ .null) (left : Bool) :
    Yields good n (valueComparison s op operand v left) (BindsFit s) := by
  unfold valueComparison
  cases single : v.isList with
  | true => exact Yields.throw
  | false =>
    have bound {k} := @Yields.fit_bound σ s good k _ (bindable_folded other single (folds s op v))
    cases left with
    | true => exact bound.fit_bind fun _ => h.fit_map _
    | false => exact h.fit_bind fun _ => bound.fit_map _

/-- A comparison with a captured part binds its value only if that is not null to the database. -/
lemma yields_capturedComparison_fit (hs : s.Faithful good) (op : Comparison) (e : Expr)
    {asCondition : Compile σ Condition} (hc : ∀ {k}, Yields good k asCondition (BindsFit s))
    (captured : Expr) (left : Bool) :
    Yields good n (capturedComparison s op e operand asCondition captured left) (BindsFit s) := by
  refine Yields.evaluate hs fun v _ => ?_
  cases null : v.isNullLike s.emptyStringIsNull with
  | true => exact h.fit_map _
  | false =>
    have byValue : Yields good n (valueComparison s op operand v left) (BindsFit s) :=
      yields_valueComparison_fit h op (fun same => by rw [same] at null; cases null) left
    rw [if_neg Bool.false_ne_true]
    cases expected? op v with
    | none => exact byValue
    | some expected =>
      dsimp only
      cases e.property? with
      | some name => exact Yields.column fun _ _ => Yields.fit_pure _
      | none => exact Yields.ite (hc.fit_map _) byValue

/-- A test for membership binds the items that are not null to the database. -/
lemma yields_membership_fit (hs : s.Faithful good) (collection : Expr) :
    Yields good n (membership s collection operand) (BindsFit s) := by
  unfold membership
  apply Yields.ite Yields.throw
  refine Yields.evaluate hs fun v hv => Yields.collectionItems fun values hvalues => ?_
  rw [hvalues] at hv
  apply Yields.ite (Yields.fit_pure _)
  apply h.fit_bind
  intro k t
  apply Yields.ite (Yields.fit_pure _)
  apply (Yields.fit_boundAll fun w hw => ?_).fit_bind
  · intro k items
    exact Yields.ite (h.fit_map _) (Yields.fit_pure _)
  · obtain ⟨mem, present⟩ := List.mem_filter.1 hw
    exact .item hv mem (by simpa using present)

end

/-- A search binds a pattern, which is a string. -/
lemma yields_like_fit (hs : s.Faithful good) (method : Method) (e arg : Expr) :
    Yields good n (like s method (term s e) arg) (BindsFit s) := by
  refine Yields.evaluate hs fun v _ => Yields.patternText fun text _ => ?_
  apply (yields_term_fit hs e).fit_bind
  intro k t
  refine (Yields.fit_bound ?_).fit_map _
  exact .single nofun rfl

/-- What is bound for a call without a target. -/
lemma yields_callCondition_fit (hs : s.Faithful good) (method : Method) (args : List Expr) :
    Yields good n (callCondition s method args) (BindsFit s) := by
  unfold callCondition
  split
  next first second =>
    exact Yields.ite (yields_membership_fit (yields_term_fit hs first) hs second)
      (yields_membership_fit (yields_term_fit hs second) hs first)
  next => exact Yields.throw

/-- What is bound for a test of a target against an argument. -/
lemma yields_targetCondition_fit (hs : s.Faithful good) (target : Expr) (method : Method)
    (arg : Expr) : Yields good n (targetCondition s target method arg) (BindsFit s) := by
  unfold targetCondition
  apply Yields.ite
  · exact Yields.ite Yields.throw (yields_like_fit hs method target arg)
  · split
    · exact yields_membership_fit (yields_term_fit hs arg) hs target
    · exact Yields.throw

/-- What is bound for a call on a target. -/
lemma yields_invokeCondition_fit (hs : s.Faithful good) (target : Expr) (method : Method)
    (args : List Expr) : Yields good n (invokeCondition s target method args) (BindsFit s) := by
  unfold invokeCondition
  split
  · exact yields_targetCondition_fit hs target _ _
  · exact yields_targetCondition_fit hs target _ _
  · exact yields_targetCondition_fit hs target _ _
  · exact Yields.throw

/-- What is bound for a condition. -/
lemma yields_condition_fit (hs : s.Faithful good) (e : Expr) :
    Yields good n (condition s e) (BindsFit s) := by
  fun_induction Filter.condition s e generalizing n with
  | case1 e => exact yields_capturedCondition_fit hs e
  | case2 => exact Yields.column fun _ _ => Yields.fit_pure _
  | case3 op left right _ _ ihl ihr => exact ihl.fit_bind fun _ => ihr.fit_map _
  | case4 op left right _ _ _ _ ih =>
    exact yields_capturedComparison_fit (yields_term_fit hs left) hs op left ih right false
  | case5 op left right _ _ _ _ ih =>
    exact yields_capturedComparison_fit (yields_term_fit hs right) hs op right ih left true
  | case6 op left right =>
    exact (yields_term_fit hs left).fit_bind fun _ => (yields_term_fit hs right).fit_map _
  | case7 => exact Yields.column fun _ _ => Yields.fit_pure _
  | case8 operand _ _ _ ih => exact ih.fit_map _
  | case9 method args => exact yields_callCondition_fit hs method args
  | case10 target method args => exact yields_invokeCondition_fit hs target method args
  | _ => exact Yields.throw

end RelMap.Filter
