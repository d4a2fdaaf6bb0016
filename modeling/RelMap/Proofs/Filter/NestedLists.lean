import RelMap.Proofs.Evaluation.Values
import RelMap.Proofs.Filter.BoundValues
import RelMap.Proofs.Filter.Grouping

/-!
# Lists that are bound whole

A parameter holds a single value. A list is spread out where something is looked for in it, and is
refused where a single value is wanted. A list among the items of a captured collection is neither:
it is bound as it stands. So the lists among the bound values are those that the collections of a
filter's membership tests hold, in order.
-/

namespace RelMap.Filter

open Evaluation (value)

/-- The lists among the items of a captured collection. -/
def nested (collection : Expr) : List Value :=
  match value collection with
  | .ok (.list items) => items.filter (·.isList)
  | _ => []

/-- The lists among the items of the collections that a filter looks for something in. -/
def nestedLists (e : Expr) : List Value :=
  if !e.dependsOnParameter then []
  else
    match e with
    | .binary (.connective _) left right => nestedLists left ++ nestedLists right
    | .binary (.comparison _) left right => nestedLists left ++ nestedLists right
    | .not operand => nestedLists operand
    | .call .contains [first, second] => nested first ++ nested second
    | .invoke target .contains [_] => nested target
    | _ => []

variable {σ α β : Type} {s : Setting σ} {good : σ → Prop} {n : Nat} {e : Expr} {v : Value}

/-- A filter that does not read the entity binds no list. -/
lemma nestedLists_of_captured (h : e.dependsOnParameter = false) : nestedLists e = [] := by
  unfold nestedLists
  rw [h]
  rfl

/-- What reads the entity has no value, and so holds no lists. -/
lemma nested_of_reads (h : e.dependsOnParameter = true) : nested e = [] := by
  unfold nested
  split
  next items hv => exact absurd (Evaluation.captured_of_value hv) (ne_false_of_eq_true h)
  next => rfl

/-- A property of the entity binds no list. -/
lemma nestedLists_of_property? {name : String} (h : e.property? = some name) :
    nestedLists e = [] := by
  unfold nestedLists
  cases e with
  | member | convert => exact ite_self _
  | _ => cases h

/-- A comparison with a captured side looks for what its other side does. -/
lemma nestedLists_of_sides {op : Comparison} {l r captured : Expr} {left : Bool}
    (sides : Sides l r e captured left) :
    nestedLists (.binary (.comparison op) l r) = nestedLists e := by
  rw [nestedLists]
  cases sides with
  | right reads other =>
    simp [Expr.dependsOnParameter, reads, nestedLists_of_captured other]
  | left other reads =>
    simp [Expr.dependsOnParameter, reads, nestedLists_of_captured other]

/-- Just these lists are among the bound values. -/
def BindsLists (lists : List Value) (_ : α) (vs : List Value) : Prop :=
  vs.filter (·.isList) = lists

namespace Yields

variable {m : Compile σ α} {f : α → Compile σ β} {ls ms : List Value}

/-- Nothing is bound where nothing is done. -/
lemma lists_pure (a : α) : Yields good n (Pure.pure a) (BindsLists []) := pure rfl

/-- Two steps bind the lists of the first one before those of the second. -/
lemma lists_bind (hm : Yields good n m (BindsLists ls))
    (hf : ∀ {k} a, Yields good k (f a) (BindsLists ms)) :
    Yields good n (m >>= f) (BindsLists (ls ++ ms)) := by
  apply hm.bind
  intro a vs first
  apply (hf a).mono
  intro b ws second
  rw [BindsLists, List.filter_append, first, second]

/-- What is made of a result binds no more lists. -/
lemma lists_map (hm : Yields good n m (BindsLists ls)) (g : α → β) :
    Yields good n (m >>= fun a => Pure.pure (g a)) (BindsLists ls) := by
  have whole := hm.lists_bind fun {k} a => lists_pure (n := k) (g a)
  rwa [List.append_nil] at whole

/-- Binding a value that is no list binds no list. -/
lemma lists_bound (single : v.isList = false) :
    Yields good n (Filter.bind v) (BindsLists []) := by
  apply (bound v).mono
  rintro _ _ ⟨-, rfl⟩
  exact List.filter_cons_of_neg (ne_true_of_eq_false single)

/-- Binding several values binds the lists among them. -/
lemma lists_boundAll (values : List Value) :
    Yields good n (bindAll values) (BindsLists (values.filter (·.isList))) := by
  apply (boundAll values).mono
  rintro _ _ ⟨rfl, -⟩
  rfl

end Yields

/-- A captured part in the place of a term is no list. -/
lemma yields_capturedTerm_lists (hs : s.Faithful good) (e : Expr) :
    Yields good n (capturedTerm s e) (BindsLists []) := by
  refine Yields.evaluate hs fun v _ => ?_
  cases v with
  | null => exact Yields.lists_pure _
  | list items => exact Yields.throw
  | _ => exact (Yields.lists_bound rfl).lists_map _

/-- No list is bound for a term. -/
lemma yields_term_lists (hs : s.Faithful good) (e : Expr) :
    Yields good n (term s e) (BindsLists []) := by
  fun_induction Filter.term s e generalizing n with
  | case1 e => exact yields_capturedTerm_lists hs e
  | case2 => exact Yields.column fun _ _ => Yields.lists_pure _
  | case3 => exact Yields.throw
  | case4 target operand _ _ ih => exact ih
  | case5 operand _ _ ih => exact ih.lists_map _
  | case6 op left right _ _ ihl ihr => exact ihl.lists_bind fun _ => ihr.lists_map _
  | case7 left right _ _ ihl ihr => exact ihl.lists_bind fun _ => ihr.lists_map _
  | case8 target method function _ _ _ ih => exact ih.lists_map _
  | _ => exact Yields.throw

/-- What looks for something is no term, so a term binds just the lists that it holds: none. -/
lemma yields_term_nested (hs : s.Faithful good) (e : Expr) :
    Yields good n (term s e) (BindsLists (nestedLists e)) := by
  by_cases none : nestedLists e = []
  · rw [none]
    exact yields_term_lists hs e
  -- A condition by its form, which is refused in the place of a term.
  · fun_cases Filter.term s e with
    | case1 e captured => exact absurd (nestedLists_of_captured (by simpa using captured)) none
    | case2 e _ name h => exact absurd (nestedLists_of_property? h) none
    | case4 | case5 | case6 | case7 => exact absurd (ite_self _) none
    | case8 target method => cases method <;> exact absurd (ite_self _) none
    | _ => exact Yields.throw

/-- No list is bound for a captured condition. -/
lemma yields_capturedCondition_lists (hs : s.Faithful good) (e : Expr) :
    Yields good n (capturedCondition s e) (BindsLists []) := by
  refine Yields.evaluate hs fun v _ => ?_
  cases v with
  | bool b => exact Yields.lists_pure _
  | null => exact Yields.lists_pure _
  | _ => exact Yields.throw

/-- Folding its case does not make a value a list. -/
lemma isList_folded (single : v.isList = false) (fold : Bool) :
    (if fold then foldedValue v else v).isList = false := by
  cases fold with
  | false => exact single
  | true =>
    cases v with
    | string text => rfl
    | _ => exact single

section
variable {operand : Compile σ Term} {ls : List Value}
variable (h : ∀ {k}, Yields good k operand (BindsLists ls))
include h

/-- A comparison with a value binds the lists of its operand only. -/
lemma yields_valueComparison_lists (op : Comparison) (v : Value) (left : Bool) :
    Yields good n (valueComparison s op operand v left) (BindsLists ls) := by
  unfold valueComparison
  cases single : v.isList with
  | true => exact Yields.throw
  | false =>
    have bound {k} := @Yields.lists_bound σ good k _ (isList_folded single (folds s op v))
    cases left with
    | true => exact bound.lists_bind fun _ => h.lists_map _
    | false =>
      rw [← List.append_nil ls]
      exact h.lists_bind fun _ => bound.lists_map _

/-- A comparison with a captured part binds the lists of its operand only. -/
lemma yields_capturedComparison_lists (hs : s.Faithful good) (op : Comparison)
    (property : ∀ name, e.property? = some name → ls = []) {asCondition : Compile σ Condition}
    (hc : ∀ {k}, Yields good k asCondition (BindsLists ls)) (captured : Expr) (left : Bool) :
    Yields good n (capturedComparison s op e operand asCondition captured left)
      (BindsLists ls) := by
  refine Yields.evaluate hs fun v _ => ?_
  apply Yields.ite (h.lists_map _)
  have byValue := yields_valueComparison_lists (s := s) (n := n) h op v left
  cases expected? op v with
  | none => exact byValue
  | some expected =>
    dsimp only
    cases name : e.property? with
    | some =>
      rw [property _ name]
      exact Yields.column fun _ _ => Yields.lists_pure _
    | none => exact Yields.ite (hc.lists_map _) byValue

end

/-- No list is null to the database. -/
lemma lists_of_present (es : Bool) (values : List Value) :
    (values.filter (!·.isNullLike es)).filter (·.isList) = values.filter (·.isList) := by
  rw [List.filter_filter]
  refine List.filter_congr fun v _ => ?_
  cases v <;> simp [Value.isList, Value.isNullLike]

/-- A test for membership binds the lists among the items of its collection. -/
lemma yields_membership_lists (hs : s.Faithful good) {item : Compile σ Term}
    (h : ∀ {k}, Yields good k item (BindsLists [])) (collection : Expr) :
    Yields good n (membership s collection item) (BindsLists (nested collection)) := by
  unfold membership
  apply Yields.ite Yields.throw
  refine Yields.evaluate hs fun v hv => Yields.collectionItems fun values hvalues => ?_
  have held : nested collection =
      (values.filter (!·.isNullLike s.emptyStringIsNull)).filter (·.isList) := by
    rw [nested, hv, hvalues, lists_of_present]
  rw [held]
  cases values with
  | nil => exact Yields.lists_pure _
  | cons w ws =>
    generalize (w :: ws).filter (!·.isNullLike s.emptyStringIsNull) = present
    apply h.lists_bind
    intro k t
    cases present with
    | nil => exact Yields.lists_pure _
    | cons =>
      rw [← List.append_nil (List.filter _ _)]
      apply (Yields.lists_boundAll _).lists_bind
      intro k items
      exact Yields.ite (h.lists_map _) (Yields.lists_pure _)

/-- A search binds no list. -/
lemma yields_like_lists (hs : s.Faithful good) (method : Method) (e arg : Expr) :
    Yields good n (like s method (term s e) arg) (BindsLists []) := by
  refine Yields.evaluate hs fun v _ => Yields.patternText fun text _ => ?_
  apply (yields_term_lists hs e).lists_bind
  intro k t
  exact (Yields.lists_bound rfl).lists_map _

/-- What lists a call without a target binds. -/
lemma yields_callCondition_lists (hs : s.Faithful good) {method : Method} {args : List Expr}
    (reads : (Expr.call method args).dependsOnParameter = true) :
    Yields good n (callCondition s method args) (BindsLists (nestedLists (.call method args))) := by
  unfold callCondition
  split
  next first second =>
    rw [nestedLists, reads, Bool.not_true, if_neg Bool.false_ne_true]
    cases hfirst : first.dependsOnParameter with
    | true =>
      rw [nested_of_reads hfirst]
      apply Yields.ite (yields_membership_lists hs (yields_term_lists hs first) second)
      rw [membership, if_pos hfirst]
      exact Yields.throw
    | false =>
      have hsecond : second.dependsOnParameter = true := by
        simpa [Expr.dependsOnParameter, Expr.anyDependsOnParameter, hfirst] using reads
      rw [nested_of_reads hsecond, List.append_nil]
      exact yields_membership_lists hs (yields_term_lists hs second) first
  next => exact Yields.throw

/-- What lists a test of a target against an argument binds. -/
lemma yields_targetCondition_lists (hs : s.Faithful good) {target : Expr} {method : Method}
    {arg : Expr} (reads : (Expr.invoke target method [arg]).dependsOnParameter = true) :
    Yields good n (targetCondition s target method arg)
      (BindsLists (nestedLists (.invoke target method [arg]))) := by
  unfold targetCondition
  cases ht : target.dependsOnParameter with
  | true =>
    have none : nestedLists (.invoke target method [arg]) = [] := by
      cases method with
      | contains =>
        rw [nestedLists, nested_of_reads ht]
        exact ite_self _
      | _ => exact ite_self _
    rw [none, if_pos rfl]
    exact Yields.ite Yields.throw (yields_like_lists hs method target arg)
  | false =>
    rw [if_neg Bool.false_ne_true]
    split
    · rw [nestedLists, reads]
      exact yields_membership_lists hs (yields_term_lists hs arg) target
    · exact Yields.throw

/-- What lists a call on a target binds. -/
lemma yields_invokeCondition_lists (hs : s.Faithful good) {target : Expr} {method : Method}
    {args : List Expr} (reads : (Expr.invoke target method args).dependsOnParameter = true) :
    Yields good n (invokeCondition s target method args)
      (BindsLists (nestedLists (.invoke target method args))) := by
  unfold invokeCondition
  split
  · exact yields_targetCondition_lists hs reads
  · exact yields_targetCondition_lists hs reads
  · exact yields_targetCondition_lists hs reads
  · exact Yields.throw

/-- What is bound for a condition holds just the lists that the filter's collections hold. -/
lemma yields_condition_lists (hs : s.Faithful good) (e : Expr) :
    Yields good n (condition s e) (BindsLists (nestedLists e)) := by
  fun_induction Filter.condition s e generalizing n with
  | case1 e captured =>
    rw [nestedLists_of_captured (by simpa using captured)]
    exact yields_capturedCondition_lists hs e
  | case2 e _ name h =>
    rw [nestedLists_of_property? h]
    exact Yields.column fun _ _ => Yields.lists_pure _
  | case3 op left right reads _ ihl ihr =>
    rw [nestedLists, if_neg reads]
    exact ihl.lists_bind fun _ => ihr.lists_map _
  | case4 op left right hr hl _ _ ih =>
    rw [nestedLists_of_sides (.right hl hr)]
    exact yields_capturedComparison_lists (yields_term_nested hs left) hs op
      (fun _ => nestedLists_of_property?) ih right false
  | case5 op left right hr hl _ _ ih =>
    rw [nestedLists_of_sides (.left hl hr)]
    exact yields_capturedComparison_lists (yields_term_nested hs right) hs op
      (fun _ => nestedLists_of_property?) ih left true
  | case6 op left right _ _ reads =>
    rw [nestedLists, if_neg reads]
    exact (yields_term_nested hs left).lists_bind fun _ => (yields_term_nested hs right).lists_map _
  | case7 operand name h reads =>
    rw [nestedLists, if_neg reads, nestedLists_of_property? h]
    exact Yields.column fun _ _ => Yields.lists_pure _
  | case8 operand _ reads _ ih =>
    rw [nestedLists, if_neg reads]
    exact ih.lists_map _
  | case9 method args reads => exact yields_callCondition_lists hs (reads_of_not reads)
  | case10 target method args reads => exact yields_invokeCondition_lists hs (reads_of_not reads)
  | _ => exact Yields.throw

end RelMap.Filter

namespace RelMap

open Evaluation (EvaluatorCache)

/--
The lists among the values of a clause are those that the collections of the filter hold, and null
is never among the values. So all of them are single values just if no collection holds a list.
-/
theorem FilterTarget.bound_lists_nested (t : FilterTarget) {hash : Expr → UInt64}
    {cache : EvaluatorCache} (reachable : cache.Reachable hash) {body : Expr} {c : Clause}
    (h : (t.clause hash cache body).1 = .ok c) :
    c.parameters.values.filter (·.isList) = Filter.nestedLists body ∧
      (∀ v ∈ c.parameters.values, v ≠ .null) ∧
      ((∀ v ∈ c.parameters.values, v ≠ .null ∧ v.isList = false) ↔
        Filter.nestedLists body = []) := by
  have faithful := t.faithful hash
  obtain ⟨-, -, lists⟩ := (FilterTarget.clause_yields reachable.sound
    (Filter.yields_condition_lists faithful body)).2 c h
  obtain ⟨-, -, fit⟩ := (FilterTarget.clause_yields reachable.sound
    (Filter.yields_condition_fit faithful body)).2 c h
  have present (v) (hv : v ∈ c.parameters.values) : v ≠ .null := (fit v hv).ne_null
  refine ⟨lists, present, ?_⟩
  rw [← lists, List.filter_eq_nil_iff]
  constructor
  · exact fun single v hv => ne_true_of_eq_false (single v hv).2
  · exact fun single v hv => ⟨present v hv, eq_false_of_ne_true (single v hv)⟩

/-- A list of two numbers is spread out, and no list is bound. -/
theorem bound_lists_nested_numbers :
    ∃ c, (sampleTarget.clause Expr.shapeHash (.empty 1)
        (.call .contains [.constant (.list [.int32 1, .int32 2]),
          .member (.parameter "x") "A"])).1 = .ok c ∧
      ∀ v ∈ c.parameters.values, v ≠ .null ∧ v.isList = false := by
  have compiles : ∃ c, (sampleTarget.clause Expr.shapeHash (.empty 1)
      (.call .contains [.constant (.list [.int32 1, .int32 2]),
        .member (.parameter "x") "A"])).1 = .ok c := ⟨_, rfl⟩
  obtain ⟨c, hc⟩ := compiles
  exact ⟨c, hc, (sampleTarget.bound_lists_nested (.empty 1) hc).2.2.2 rfl⟩

/-- A list that is an item of a captured list is bound as it stands. -/
theorem not_single_list_of_lists :
    ∃ c, (sampleTarget.clause Expr.shapeHash (.empty 1024)
        (.call .contains [.constant (.list [.list [.int32 1]]),
          .member (.parameter "x") "A"])).1 = .ok c ∧
      c.parameters.values = [.list [.int32 1]] ∧
      ¬ ∀ v ∈ c.parameters.values, v ≠ .null ∧ v.isList = false :=
  ⟨_, rfl, rfl, fun single => nomatch (single _ (.head _)).2⟩

end RelMap
