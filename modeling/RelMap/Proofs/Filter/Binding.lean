import RelMap.Proofs.Filter.Compile
import RelMap.Proofs.Filter.Marks

/-!
# Which parameters a condition keeps

Values are bound in the order in which their marks stand in the text, and every bound value has its
mark, with one exception: an ordering comparison with a value that is null to the database never
holds, so the text of its operand is not needed; the values that the operand has bound by then stay
bound.
-/

namespace RelMap.Filter

open Evaluation (value)

/-- How many values are bound for a captured expression: one, unless it is null. -/
def capturedBindings (e : Expr) : Nat :=
  match value e with
  | .ok .null => 0
  | _ => 1

/-- How many values are bound for an expression in the place of a term. -/
def termBindings (e : Expr) : Nat :=
  if !e.dependsOnParameter then capturedBindings e
  else
    match e with
    | .convert _ operand => termBindings operand
    | .negate operand => termBindings operand
    | .binary _ left right => termBindings left + termBindings right
    | .invoke target _ _ => termBindings target
    | _ => 0

/--
How many values are bound in vain by a comparison with a captured value, given how many the operand
would bind in vain as a condition.
-/
def comparisonDiscards (emptyStringIsNull : Bool) (op : Comparison) (captured : Except Fault Value)
    (operand : Expr) (asCondition : Nat) : Nat :=
  match captured with
  | .error _ => 0
  | .ok v =>
    if v.isNullLike emptyStringIsNull then
      match op with
      | .eq | .ne => 0
      | .lt | .le | .gt | .ge => termBindings operand
    else if (expected? op v).isSome && isConditionShaped operand then asCondition
    else 0

/-- How many values are bound in vain for an expression in the place of a condition. -/
def discarded (emptyStringIsNull : Bool) : Expr → Nat
  | .binary (.connective _) left right =>
    discarded emptyStringIsNull left + discarded emptyStringIsNull right
  | .binary (.comparison op) left right =>
    match left.dependsOnParameter, right.dependsOnParameter with
    | true, false =>
      comparisonDiscards emptyStringIsNull op (value right) left (discarded emptyStringIsNull left)
    | false, true =>
      comparisonDiscards emptyStringIsNull op (value left) right (discarded emptyStringIsNull right)
    | _, _ => 0
  | .not operand => discarded emptyStringIsNull operand
  | _ => 0

/-- A term whose parameters are all that is bound for it, in order. -/
def InOrder (count n : Nat) (t : Term) (vs : List Value) : Prop :=
  vs.length = count ∧ t.parameters = List.range' n count

variable {σ : Type} {s : Setting σ} {good : σ → Prop} {n : Nat}

/-- Two terms in order, one after the other. -/
lemma InOrder.append {a b : Nat} {l r : Term} {vs ws : List Value} (hl : InOrder a n l vs)
    (hr : InOrder b (n + vs.length) r ws) :
    (vs ++ ws).length = a + b ∧ l.parameters ++ r.parameters = List.range' n (a + b) := by
  obtain ⟨lenl, eql⟩ := hl
  obtain ⟨lenr, eqr⟩ := hr
  refine ⟨by rw [List.length_append, lenl, lenr], ?_⟩
  rw [eql, eqr, lenl, List.range'_append_1]

/-- A captured expression in the place of a term is its only parameter, or null. -/
lemma yields_capturedTerm (hs : s.Faithful good) (e : Expr) :
    Yields good n (capturedTerm s e) (InOrder (capturedBindings e) n) := by
  refine Yields.evaluate hs fun v hv => ?_
  cases v with
  | null =>
    refine Yields.pure ?_
    simp [InOrder, capturedBindings, hv, Term.parameters]
  | list items => exact Yields.throw
  | _ =>
    refine (Yields.bound _).map fun index vs h => ?_
    obtain ⟨rfl, rfl⟩ := h
    simp [InOrder, capturedBindings, hv, Term.parameters]

/-- A property reads the entity. -/
lemma dependsOnParameter_of_property? {e : Expr} {property : String}
    (h : e.property? = some property) : e.dependsOnParameter := by
  fun_induction Expr.property? e with
  | case1 name member => rfl
  | case2 target operand ih => exact ih h
  | case3 => cases h

/-- Nothing is bound for a property. -/
lemma termBindings_of_property? {e : Expr} {property : String} (h : e.property? = some property) :
    termBindings e = 0 := by
  have reads := dependsOnParameter_of_property? h
  fun_induction Expr.property? e with
  | case1 name member => rfl
  | case2 target operand ih =>
    unfold termBindings
    rw [reads]
    exact ih h reads
  | case3 => cases h

/-- No property is a condition by its form. -/
lemma isConditionShaped_of_property? {e : Expr} {property : String}
    (h : e.property? = some property) : isConditionShaped e = false := by
  fun_induction Expr.property? e with
  | case1 name member => rfl
  | case2 target operand ih => rfl
  | case3 => cases h

/-- The parameters of a term are all that is bound for it, in order. -/
lemma yields_term (hs : s.Faithful good) (e : Expr) :
    Yields good n (term s e) (InOrder (termBindings e) n) := by
  fun_induction Filter.term s e generalizing n with
  | case1 e captured =>
    unfold termBindings
    rw [if_pos captured]
    exact yields_capturedTerm hs e
  | case2 e reads property h =>
    refine Yields.column fun c _ => Yields.pure ?_
    rw [termBindings_of_property? h]
    exact ⟨rfl, rfl⟩
  | case3 => exact Yields.throw
  | case4 target operand reads _ ih =>
    unfold termBindings
    rw [if_neg reads]
    exact ih
  | case5 operand reads _ ih =>
    unfold termBindings
    rw [if_neg reads]
    exact ih.map fun _ _ h => h
  | case6 op left right reads _ ihl ihr =>
    unfold termBindings
    rw [if_neg reads]
    exact ihl.bind fun l vs hl => ihr.map fun r ws hr => hl.append hr
  | case7 left right reads _ ihl ihr =>
    unfold termBindings
    rw [if_neg reads]
    exact ihl.bind fun l vs hl => ihr.map fun r ws hr => hl.append hr
  | case8 target method function h reads _ ih =>
    unfold termBindings
    rw [if_neg reads]
    exact ih.map fun _ _ h => h
  | _ => exact Yields.throw

/-- A condition whose parameters increase and lack as many bound values as were discarded. -/
def Increasing (lost n : Nat) (c : Condition) (vs : List Value) : Prop :=
  c.parameters.Sublist (List.range' n vs.length) ∧ c.parameters.length + lost = vs.length

/-- A condition with all parameters in order lacks none. -/
lemma Increasing.of_eq {c : Condition} {vs : List Value}
    (h : c.parameters = List.range' n vs.length) : Increasing 0 n c vs := by
  refine ⟨h ▸ List.Sublist.refl _, ?_⟩
  rw [h, List.length_range', Nat.add_zero]

/-- Two terms in order are all parameters of a comparison. -/
lemma Increasing.of_inOrder {a b : Nat} {l r : Term} {c : Condition} {vs ws : List Value}
    (hl : InOrder a n l vs) (hr : InOrder b (n + vs.length) r ws)
    (hc : c.parameters = l.parameters ++ r.parameters) : Increasing 0 n c (vs ++ ws) := by
  obtain ⟨length, eq⟩ := hl.append hr
  exact Increasing.of_eq (by rw [hc, eq, length])

/-- Two conditions, one after the other. -/
lemma Increasing.connect {a b : Nat} {l r : Condition} {vs ws : List Value} {op : Connective}
    (hl : Increasing a n l vs) (hr : Increasing b (n + vs.length) r ws) :
    Increasing (a + b) n (.connect op l r) (vs ++ ws) := by
  obtain ⟨subl, lenl⟩ := hl
  obtain ⟨subr, lenr⟩ := hr
  refine ⟨?_, ?_⟩
  · rw [List.length_append, ← List.range'_append_1]
    exact subl.append subr
  · simp only [Condition.parameters, List.length_append]
    omega

/-- A captured expression in the place of a condition binds nothing. -/
lemma yields_capturedCondition (hs : s.Faithful good) (e : Expr) :
    Yields good n (capturedCondition s e) (Increasing 0 n) := by
  refine Yields.evaluate hs fun v hv => ?_
  cases v with
  | bool b => exact Yields.pure (Increasing.of_eq rfl)
  | null => exact Yields.pure (Increasing.of_eq rfl)
  | _ => exact Yields.throw

lemma parameters_foldedTerm (fold : Bool) (t : Term) :
    (foldedTerm fold t).parameters = t.parameters := by
  cases fold <;> rfl

/-- A bound value is a term in order. -/
lemma yields_parameter (v : Value) :
    Yields good n (Filter.bind v) fun index vs => InOrder 1 n (.parameter index) vs := by
  refine (Yields.bound v).mono fun index vs h => ?_
  obtain ⟨rfl, rfl⟩ := h
  exact ⟨rfl, rfl⟩

/-- A comparison with a value has all its parameters in order. -/
lemma yields_valueComparison {op : Comparison} {operand : Compile σ Term} {count : Nat}
    (h : ∀ {n}, Yields good n operand (InOrder count n)) (v : Value) (valueOnLeft : Bool) :
    Yields good n (valueComparison s op operand v valueOnLeft) (Increasing 0 n) := by
  unfold valueComparison
  split
  · exact Yields.throw
  · dsimp only
    split
    · refine (yields_parameter _).bind fun index vs hi => h.map fun t ws ht => ?_
      exact Increasing.of_inOrder hi ht (by simp only [Condition.parameters, parameters_foldedTerm])
    · refine h.bind fun t vs ht => (yields_parameter _).map fun index ws hi => ?_
      exact Increasing.of_inOrder ht hi (by simp only [Condition.parameters, parameters_foldedTerm])

/-- A comparison with null has the parameters of its operand, unless it never holds. -/
lemma increasing_nullComparison {op : Comparison} {e : Expr} {t : Term} {vs : List Value}
    {v : Value} {es : Bool} {below : Nat} (h : InOrder (termBindings e) n t vs)
    (hv : v.isNullLike es) :
    Increasing (comparisonDiscards es op (.ok v) e below) n (nullComparison op t) vs := by
  obtain ⟨len, eq⟩ := h
  unfold comparisonDiscards
  dsimp only
  rw [if_pos hv]
  cases op with
  | eq | ne => exact Increasing.of_eq (by rw [nullComparison, Condition.parameters, eq, len])
  -- The text of the operand is thrown away, but what was bound for it stays bound.
  | lt | le | gt | ge =>
    exact ⟨List.nil_sublist _, by simp [nullComparison, Condition.parameters, len]⟩

/-- A comparison with a captured expression lacks what its case discards. -/
lemma yields_capturedComparison (hs : s.Faithful good) {op : Comparison} {e : Expr}
    {asTerm : Compile σ Term} {asCondition : Compile σ Condition} {below : Nat}
    (hterm : ∀ {n}, Yields good n asTerm (InOrder (termBindings e) n))
    (hcondition : Yields good n asCondition (Increasing below n)) (captured : Expr)
    (valueOnLeft : Bool) :
    Yields good n (capturedComparison s op e asTerm asCondition captured valueOnLeft)
      (Increasing (comparisonDiscards s.emptyStringIsNull op (value captured) e below) n) := by
  refine Yields.evaluate hs fun v hv => ?_
  rw [hv]
  by_cases null : v.isNullLike s.emptyStringIsNull
  · rw [if_pos null]
    exact hterm.map fun t vs h => increasing_nullComparison h null
  · unfold comparisonDiscards
    dsimp only
    rw [if_neg null, if_neg null]
    cases hb : expected? op v with
    | none => exact yields_valueComparison hterm v valueOnLeft
    | some expected =>
      dsimp only
      cases hp : e.property? with
      -- A property compared with a truth value is tested by itself and binds nothing.
      | some property =>
        rw [isConditionShaped_of_property? hp]
        exact Yields.column fun c _ => Yields.pure (Increasing.of_eq rfl)
      | none =>
        dsimp only
        cases shaped : isConditionShaped e with
        | true =>
          refine hcondition.map fun c vs h => ?_
          cases expected with
          | true => exact h
          | false => exact h
        | false => exact yields_valueComparison hterm v valueOnLeft

/-- A test against a pattern has all its parameters in order. -/
lemma yields_like (hs : s.Faithful good) (method : Method) {target : Compile σ Term} {count : Nat}
    (h : Yields good n target (InOrder count n)) (arg : Expr) :
    Yields good n (like s method target arg) (Increasing 0 n) := by
  refine Yields.evaluate hs fun v _ => Yields.patternText fun text _ => ?_
  refine h.bind fun t vs ht => (yields_parameter _).map fun index ws hi => ?_
  exact Increasing.of_inOrder ht hi (by simp only [Condition.parameters, parameters_foldedTerm])

/-- A test for membership has all its parameters in order, also where the item is repeated. -/
lemma yields_membership (hs : s.Faithful good) (collection : Expr) {item : Compile σ Term}
    {count : Nat} (h : ∀ {n}, Yields good n item (InOrder count n)) :
    Yields good n (membership s collection item) (Increasing 0 n) := by
  unfold membership
  split
  · exact Yields.throw
  refine Yields.evaluate hs fun v _ => Yields.collectionItems fun values _ => ?_
  split
  · exact Yields.pure (Increasing.of_eq rfl)
  refine h.bind fun operand vs ho => ?_
  obtain ⟨len, eq⟩ := ho
  dsimp only
  split
  · refine Yields.pure (Increasing.of_eq ?_)
    rw [Condition.parameters, eq, List.append_nil, len]
  refine (Yields.boundAll _).bind fun items ws hi => ?_
  obtain ⟨rfl, hitems⟩ := hi
  split
  -- The item is written a second time for the test against null, and bound a second time.
  · refine h.map fun again us ha => Increasing.of_eq ?_
    obtain ⟨len', eq'⟩ := ha
    rw [Condition.parameters, eq, hitems, eq']
    simp [len, len', List.range'_append_1, Nat.add_assoc]
  · refine Yields.pure (Increasing.of_eq ?_)
    rw [Condition.parameters, eq, hitems]
    simp [len, List.range'_append_1]

/-- A call without a target has all its parameters in order. -/
lemma yields_callCondition (hs : s.Faithful good) (method : Method) (args : List Expr) :
    Yields good n (callCondition s method args) (Increasing 0 n) := by
  unfold callCondition
  split
  · exact Yields.ite (yields_membership hs _ (yields_term hs _))
      (yields_membership hs _ (yields_term hs _))
  · exact Yields.throw

/-- A test of a target has all its parameters in order. -/
lemma yields_targetCondition (hs : s.Faithful good) (target : Expr) (method : Method) (arg : Expr) :
    Yields good n (targetCondition s target method arg) (Increasing 0 n) := by
  unfold targetCondition
  split
  · split
    · exact Yields.throw
    · exact yields_like hs method (yields_term hs target) arg
  · split
    · exact yields_membership hs target (yields_term hs arg)
    · exact Yields.throw

/-- A call on a target has all its parameters in order. -/
lemma yields_invokeCondition (hs : s.Faithful good) (target : Expr) (method : Method)
    (args : List Expr) :
    Yields good n (invokeCondition s target method args) (Increasing 0 n) := by
  unfold invokeCondition
  split
  · exact yields_targetCondition hs target _ _
  · exact yields_targetCondition hs target _ _
  · exact yields_targetCondition hs target _ _
  · exact Yields.throw

/-- What does not read the entity discards nothing. -/
lemma discarded_of_captured {es : Bool} {e : Expr} (h : e.dependsOnParameter = false) :
    discarded es e = 0 := by
  fun_induction discarded es e with
  | case1 op left right ihl ihr =>
    simp only [Expr.dependsOnParameter, Bool.or_eq_false_iff] at h
    rw [ihl h.1, ihr h.2]
  | case2 op left right _ hl ih => simp [Expr.dependsOnParameter, hl] at h
  | case3 op left right hr _ ih => simp [Expr.dependsOnParameter, hr] at h
  | case4 => rfl
  | case5 operand ih => exact ih h
  | case6 => rfl

/-- A property discards nothing. -/
lemma discarded_of_property? {es : Bool} {e : Expr} {property : String}
    (h : e.property? = some property) : discarded es e = 0 := by
  cases e with
  | member target name => rfl
  | convert target operand => rfl
  | _ => cases h

/-- The parameters of a condition increase, and lack as many bound values as were discarded. -/
lemma yields_condition (hs : s.Faithful good) (e : Expr) :
    Yields good n (condition s e) (Increasing (discarded s.emptyStringIsNull e) n) := by
  fun_induction Filter.condition s e generalizing n with
  | case1 e captured =>
    rw [discarded_of_captured (by simpa using captured)]
    exact yields_capturedCondition hs e
  | case2 e reads property h =>
    rw [discarded_of_property? h]
    exact Yields.column fun c _ => Yields.pure (Increasing.of_eq rfl)
  | case3 op left right reads _ ihl ihr =>
    exact ihl.bind fun l vs hl => ihr.map fun r ws hr => hl.connect hr
  | case4 op left right hr hl reads _ ih =>
    rw [discarded, hl, hr]
    exact yields_capturedComparison hs (yields_term hs left) ih right false
  | case5 op left right hr hl reads _ ih =>
    rw [discarded, hl, hr]
    exact yields_capturedComparison hs (yields_term hs right) ih left true
  | case6 op left right hl hr reads _ =>
    -- Two terms that both read the entity are compared as they are.
    have lossless : discarded s.emptyStringIsNull (.binary (.comparison op) left right) = 0 := by
      unfold discarded
      split
      next hl' hr' => exact (hl hl' hr').elim
      next hl' hr' => exact (hr hl' hr').elim
      next => rfl
    rw [lossless]
    exact (yields_term hs left).bind fun l vs hl => (yields_term hs right).map fun r ws hr =>
      Increasing.of_inOrder hl hr rfl
  | case7 operand property h reads _ =>
    rw [discarded, discarded_of_property? h]
    exact Yields.column fun c _ => Yields.pure (Increasing.of_eq rfl)
  | case8 operand _ reads _ ih => exact ih.map fun c vs h => h
  | case9 method args => exact yields_callCondition hs method args
  | case10 target method args => exact yields_invokeCondition hs target method args
  | _ => exact Yields.throw

end RelMap.Filter
