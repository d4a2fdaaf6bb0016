import RelMap.Filter.Clause
import RelMap.Proofs.Filter.Agreement

/-!
# Filters that resemble each other

Filters that differ only in captured parts with the same outcomes compile in agreement: every case
of the compilation is decided by what the filters have in common and by the features of captured
values.
-/

namespace RelMap.Filter

open RelMap.Expr (Resembles ResembleAll)

variable {σ τ : Type} {exact : Prop} {good : σ → Prop} {good' : τ → Prop}
variable {s : Setting σ} {s' : Setting τ} {e e' : Expr} {v w : Value}

/-- Captured parts that evaluate to the same outcome. -/
def Captured (exact : Prop) (s : Setting σ) (s' : Setting τ) (e e' : Expr) : Prop :=
  SameOutcome exact s.emptyStringIsNull s'.emptyStringIsNull (Evaluation.value e)
    (Evaluation.value e')

/-- A captured part has the outcome that it has. -/
lemma Captured.refl (same : s.emptyStringIsNull = s'.emptyStringIsNull) (e : Expr) :
    Captured exact s s' e e := by
  unfold Captured
  rw [same]
  cases Evaluation.value e with
  | ok v => exact .ok rfl fun _ => rfl
  | error f => exact .error fun _ => rfl

/-- The column of a property is found alike in settings with one mapping. -/
lemma agree_column (same : s.mapping = s'.mapping) (property : String) :
    Agree exact good good' (column s property) (column s' property) := by
  unfold column
  rw [same]
  split
  · exact Agree.pure _
  · exact Agree.throw fun _ => rfl

/--
A captured part becomes the same term for values with the same features: null, or a parameter.
-/
lemma agree_capturedTerm (hs : s.Faithful good) (hs' : s'.Faithful good')
    (h : Captured exact s s' e e') :
    Agree exact good good' (capturedTerm s e) (capturedTerm s' e') := by
  apply Agree.evaluate hs hs' h
  intro v w features same
  cases Value.Alike.of_features features with
  | null => exact Agree.pure _
  | list => exact Agree.throw fun _ => rfl
  | _ => exact (Agree.bound same).map _

/-- A captured part decides a condition by its features alone: a boolean is one of them. -/
lemma agree_capturedCondition (hs : s.Faithful good) (hs' : s'.Faithful good')
    (h : Captured exact s s' e e') :
    Agree exact good good' (capturedCondition s e) (capturedCondition s' e') := by
  apply Agree.evaluate hs hs' h
  intro v w features _
  cases Value.Alike.of_features features with
  | null => exact Agree.pure _
  | bool b => exact Agree.pure _
  | _ => exact Agree.throw fun _ => rfl

/-- What does not read the entity is evaluated in the place of a term. -/
lemma term_of_captured (h : e.dependsOnParameter = false) : term s e = capturedTerm s e := by
  unfold term
  rw [h]
  rfl

/-- A property of the entity becomes its column in the place of a term. -/
lemma term_of_property? {name : String} (reads : e.dependsOnParameter = true)
    (h : e.property? = some name) : term s e = column s name >>= fun c => pure (.column c) := by
  unfold term
  rw [reads, h]
  rfl

/-- Terms of expressions that resemble each other. -/
theorem agree_term (settings : s.Matches s' good good') {e e' : Expr}
    (h : Resembles exact (Captured exact s s') e e') :
    Agree exact good good' (term s e) (term s' e') := by
  have reads' := h.dependsOnParameter_eq
  cases reads : e.dependsOnParameter with
  | false =>
    obtain ⟨captured', outcome⟩ := h.of_captured reads
    rw [term_of_captured reads, term_of_captured captured']
    exact agree_capturedTerm settings.left settings.right outcome
  | true =>
    rw [reads] at reads'
    have property' := h.property?_eq reads
    cases property : e.property? with
    | some name =>
      rw [property] at property'
      rw [term_of_property? reads property, term_of_property? reads'.symm property'.symm]
      exact (agree_column settings.mapping name).map _
    | none =>
      rw [property] at property'
      unfold term
      rw [reads, ← reads', property, ← property']
      simp only [Bool.not_true, Bool.false_eq_true, if_false]
      cases h with
      | captured captured => exact absurd (captured.symm.trans reads) Bool.false_ne_true
      | parameter names => exact Agree.throw fun ex => by rw [subject, subject, names ex]
      | member name _ h =>
        refine Agree.throw fun _ => ?_
        rw [memberFault, memberFault, h.memberPath?_eq reads]
      | convert target _ h => exact agree_term settings h
      | negate _ h => exact (agree_term settings h).map _
      | binary op _ hl hr =>
        cases op with
        | arithmetic op => exact (agree_term settings hl).map₂ (agree_term settings hr) _
        | coalesce => exact (agree_term settings hl).map₂ (agree_term settings hr) _
        | comparison _ => exact Agree.throw fun _ => rfl
        | connective _ => exact Agree.throw fun _ => rfl
      | not _ h => exact Agree.throw fun _ => rfl
      | call method _ h => exact Agree.throw fun _ => rfl
      | invoke method _ ht ha =>
        cases ha with
        | cons => exact Agree.throw fun _ => rfl
        | nil =>
          dsimp only
          cases textFunction? method with
          | none => exact Agree.throw fun _ => rfl
          | some function => exact (agree_term settings ht).map _
      | list _ h => exact Agree.throw fun _ => rfl

/-- Expressions that resemble each other are both conditions by their form, or none of them is. -/
lemma isConditionShaped_eq {R : Expr → Expr → Prop} (h : Resembles exact R e e')
    (reads : e.dependsOnParameter = true) : isConditionShaped e = isConditionShaped e' := by
  cases h with
  | captured captured => exact absurd (captured.symm.trans reads) Bool.false_ne_true
  | binary op => cases op <;> rfl
  | call method => cases method <;> rfl
  | invoke method => cases method <;> rfl
  | _ => rfl

section
variable {es es' : Bool} (features : v.features es = w.features es')
include features

/-- Values with the same features are both lists, or none of them is. -/
lemma isList_eq : v.isList = w.isList := by
  cases Value.Alike.of_features features <;> rfl

/-- The boolean that an operand has to be is one of the features of the value compared with. -/
lemma expected?_eq (op : Comparison) : expected? op v = expected? op w := by
  cases Value.Alike.of_features features <;> cases op <;> rfl

/-- Whether a comparison ignores case depends on the features of the value only. -/
lemma folds_eq (ignoreCase : s.ignoreCase = s'.ignoreCase) (op : Comparison) :
    folds s op v = folds s' op w := by
  cases Value.Alike.of_features features <;> cases op <;> first | rfl | exact ignoreCase

end

/--
Comparisons with values that have the same features place the value on the same side and fold it
alike.
-/
lemma agree_valueComparison {operand : Compile σ Term} {operand' : Compile τ Term} {es es' : Bool}
    (ignoreCase : s.ignoreCase = s'.ignoreCase) (op : Comparison)
    (h : Agree exact good good' operand operand') (features : v.features es = w.features es')
    (same : exact → v = w) (valueOnLeft : Bool) :
    Agree exact good good' (valueComparison s op operand v valueOnLeft)
      (valueComparison s' op operand' w valueOnLeft) := by
  unfold valueComparison
  rw [← isList_eq features, ← folds_eq features ignoreCase op]
  generalize folds s op v = fold
  apply Agree.ite Iff.rfl
  · exact Agree.throw fun _ => rfl
  have bound : Agree exact good good' (Filter.bind (if fold then foldedValue v else v))
      (Filter.bind (if fold then foldedValue w else w)) := Agree.bound fun ex => by rw [same ex]
  apply Agree.ite Iff.rfl
  · apply bound.bind
    intro index
    exact h.map _
  · apply h.bind
    intro t
    exact bound.map _

/--
Comparisons with captured parts take the same of the four ways: the test against null, the flag of a
property, the condition itself, or the comparison with a bound value.
-/
lemma agree_capturedComparison (settings : s.Matches s' good good')
    (h : Resembles exact (Captured exact s s') e e') (reads : e.dependsOnParameter = true)
    (op : Comparison) {asTerm : Compile σ Term} {asTerm' : Compile τ Term}
    {asCondition : Compile σ Condition} {asCondition' : Compile τ Condition}
    (hterm : Agree exact good good' asTerm asTerm')
    (hcondition : Agree exact good good' asCondition asCondition') {captured captured' : Expr}
    (outcome : Captured exact s s' captured captured') (valueOnLeft : Bool) :
    Agree exact good good' (capturedComparison s op e asTerm asCondition captured valueOnLeft)
      (capturedComparison s' op e' asTerm' asCondition' captured' valueOnLeft) := by
  apply Agree.evaluate settings.left settings.right outcome
  intro v w features same
  have null : v.isNullLike s.emptyStringIsNull = w.isNullLike s'.emptyStringIsNull :=
    congrArg Features.isNull features
  have byValue := agree_valueComparison settings.ignoreCase op hterm features same valueOnLeft
  apply Agree.ite (by rw [null])
  · exact hterm.map _
  rw [← expected?_eq features, ← h.property?_eq reads, ← isConditionShaped_eq h reads]
  cases expected? op v with
  | none => exact byValue
  | some expected =>
    dsimp only
    cases e.property? with
    | some property => exact (agree_column settings.mapping property).map _
    | none =>
      apply Agree.ite Iff.rfl
      · exact hcondition.map _
      · exact byValue

/-- Only strings are searched for, so that the kind of the value decides. -/
lemma agree_patternText {es es' : Bool} (features : v.features es = w.features es')
    (same : exact → v = w) (method : Method) {f : String → Compile σ Condition}
    {f' : String → Compile τ Condition}
    (h : ∀ text text', (exact → text = text') → Agree exact good good' (f text) (f' text')) :
    Agree exact good good' (patternText method v >>= f) (patternText method w >>= f') := by
  cases Value.Alike.of_features features with
  | string => exact h _ _ fun ex => Value.string.inj (same ex)
  | _ => exact Agree.throw fun _ => rfl

/-- Searches for captured parts agree if their targets do. -/
lemma agree_like (settings : s.Matches s' good good') (method : Method)
    {target : Compile σ Term} {target' : Compile τ Term}
    (h : Agree exact good good' target target') {arg arg' : Expr}
    (outcome : Captured exact s s' arg arg') :
    Agree exact good good' (like s method target arg) (like s' method target' arg') := by
  apply Agree.evaluate settings.left settings.right outcome
  intro v w features same
  apply agree_patternText features same
  intro text text' same
  apply h.bind
  intro t
  rw [← settings.ignoreCase]
  exact (Agree.bound fun ex => by rw [same ex]).map _

/-- Lists that are null at the same places keep equally many items when their nulls are left out. -/
lemma sameBound_present {es es' : Bool} {vs ws : List Value}
    (nulls : vs.map (·.isNullLike es) = ws.map (·.isNullLike es')) (same : exact → vs = ws) :
    SameBound exact (vs.filter (!·.isNullLike es)) (ws.filter (!·.isNullLike es')) := by
  induction vs generalizing ws with
  | nil =>
    cases List.map_eq_nil_iff.1 nulls.symm
    exact ⟨rfl, fun _ => rfl⟩
  | cons v vs ih =>
    cases ws with
    | nil => cases nulls
    | cons w ws =>
      obtain ⟨null, nulls⟩ := List.cons.inj nulls
      obtain ⟨length, equal⟩ := ih nulls fun ex => (List.cons.inj (same ex)).2
      dsimp only at null
      rw [List.filter_cons, List.filter_cons, null]
      split
      · refine ⟨by rw [List.length_cons, List.length_cons, length], fun ex => ?_⟩
        rw [equal ex, (List.cons.inj (same ex)).1]
      · exact ⟨length, equal⟩

/-- Lists of one length are both empty, or none of them is. -/
lemma isEmpty_eq_of_length {α β : Type} {as : List α} {bs : List β}
    (h : as.length = bs.length) : as.isEmpty = bs.isEmpty := by
  rw [Bool.eq_iff_iff, List.isEmpty_iff_length_eq_zero, List.isEmpty_iff_length_eq_zero, h]

/-- Tests among captured lists agree: the length of the list and the places of its nulls decide. -/
lemma agree_membership (settings : s.Matches s' good good') {c c' : Expr}
    (h : Resembles exact (Captured exact s s') c c') {item : Compile σ Term}
    {item' : Compile τ Term} (hitem : Agree exact good good' item item') :
    Agree exact good good' (membership s c item) (membership s' c' item') := by
  unfold membership
  rw [← h.dependsOnParameter_eq]
  cases reads : c.dependsOnParameter with
  | true => exact Agree.throw fun _ => rfl
  | false =>
    apply Agree.evaluate settings.left settings.right (h.of_captured reads).2
    intro v w features same
    cases Value.Alike.of_features features with
    | @list vs ws nulls =>
      have length : vs.length = ws.length := by simpa using congrArg List.length nulls
      have anyNull : vs.any (·.isNullLike s.emptyStringIsNull) =
          ws.any (·.isNullLike s'.emptyStringIsNull) := by
        simpa using congrArg (List.any · id) nulls
      have present := sameBound_present nulls fun ex => Value.list.inj (same ex)
      apply Agree.ite (by rw [isEmpty_eq_of_length length])
      · exact Agree.pure _
      apply hitem.bind
      intro operand
      apply Agree.ite (by rw [isEmpty_eq_of_length present.1])
      · exact Agree.pure _
      apply (Agree.boundAll present).bind
      intro items
      apply Agree.ite (by rw [anyNull])
      · exact hitem.map _
      · exact Agree.pure _
    | _ => exact Agree.throw fun _ => rfl

/-- Whether the item of a test for membership stands before the collection. -/
def isSwapped (first second : Expr) : Bool :=
  first.dependsOnParameter && !second.dependsOnParameter &&
    (match first with | .list _ => false | _ => true)

/-- A call of `Contains` is a test for membership, in one order of its arguments or the other. -/
lemma callCondition_contains (s : Setting σ) (first second : Expr) :
    callCondition s .contains [first, second] =
      if isSwapped first second then membership s second (term s first)
      else membership s first (term s second) := rfl

/-- Calls that resemble each other have their items at the same place. -/
lemma isSwapped_eq {R : Expr → Expr → Prop} {first first' second second' : Expr}
    (hfirst : Resembles exact R first first') (hsecond : Resembles exact R second second') :
    isSwapped first second = isSwapped first' second' := by
  unfold isSwapped
  rw [← hfirst.dependsOnParameter_eq, ← hsecond.dependsOnParameter_eq]
  cases reads : first.dependsOnParameter with
  | false => rfl
  | true =>
    cases hfirst with
    | captured captured => exact absurd (captured.symm.trans reads) Bool.false_ne_true
    | _ => rfl

/-- Calls without a target agree if their arguments resemble each other. -/
lemma agree_callCondition (settings : s.Matches s' good good') (method : Method)
    {args args' : List Expr} (h : ResembleAll exact (Captured exact s s') args args') :
    Agree exact good good' (callCondition s method args) (callCondition s' method args') := by
  cases method with
  | contains =>
    rcases h with _ | ⟨hfirst, _ | ⟨hsecond, _ | _⟩⟩
    · exact Agree.throw fun _ => rfl
    · exact Agree.throw fun _ => rfl
    · rw [callCondition_contains, callCondition_contains, ← isSwapped_eq hfirst hsecond]
      apply Agree.ite Iff.rfl
      · exact agree_membership settings hsecond (agree_term settings hfirst)
      · exact agree_membership settings hfirst (agree_term settings hsecond)
    · exact Agree.throw fun _ => rfl
  | _ => exact Agree.throw fun _ => rfl

/-- Tests of a target against an argument agree if both resemble each other. -/
lemma agree_targetCondition (settings : s.Matches s' good good') {target target' : Expr}
    (ht : Resembles exact (Captured exact s s') target target') (method : Method)
    {arg arg' : Expr} (ha : Resembles exact (Captured exact s s') arg arg') :
    Agree exact good good' (targetCondition s target method arg)
      (targetCondition s' target' method arg') := by
  unfold targetCondition
  rw [← ht.dependsOnParameter_eq, ← ha.dependsOnParameter_eq]
  apply Agree.ite Iff.rfl
  · cases reads : arg.dependsOnParameter with
    | true => exact Agree.throw fun _ => rfl
    | false => exact agree_like settings method (agree_term settings ht) (ha.of_captured reads).2
  · cases method with
    | contains => exact agree_membership settings ht (agree_term settings ha)
    | _ => exact Agree.throw fun _ => rfl

/-- Calls on a target agree if the targets and the arguments resemble each other. -/
lemma agree_invokeCondition (settings : s.Matches s' good good') {target target' : Expr}
    (ht : Resembles exact (Captured exact s s') target target') (method : Method)
    {args args' : List Expr} (ha : ResembleAll exact (Captured exact s s') args args') :
    Agree exact good good' (invokeCondition s target method args)
      (invokeCondition s' target' method args') := by
  rcases ha with _ | ⟨ha, _ | _⟩
  · cases method <;> exact Agree.throw fun _ => rfl
  · cases method with
    | contains | startsWith | endsWith => exact agree_targetCondition settings ht _ ha
    | _ => exact Agree.throw fun _ => rfl
  · cases method <;> exact Agree.throw fun _ => rfl

/-- What does not read the entity is evaluated in the place of a condition. -/
lemma condition_of_captured (h : e.dependsOnParameter = false) :
    condition s e = capturedCondition s e := by
  unfold condition
  rw [h]
  rfl

/-- A property of the entity is tested for truth in the place of a condition. -/
lemma condition_of_property? {name : String} (reads : e.dependsOnParameter = true)
    (h : e.property? = some name) :
    condition s e = column s name >>= fun c => pure (.flag c true) := by
  unfold condition
  rw [reads, h]
  rfl

/-- Conditions of expressions that resemble each other. -/
theorem agree_condition (settings : s.Matches s' good good') {e e' : Expr}
    (h : Resembles exact (Captured exact s s') e e') :
    Agree exact good good' (condition s e) (condition s' e') := by
  have reads' := h.dependsOnParameter_eq
  cases reads : e.dependsOnParameter with
  | false =>
    obtain ⟨captured', outcome⟩ := h.of_captured reads
    rw [condition_of_captured reads, condition_of_captured captured']
    exact agree_capturedCondition settings.left settings.right outcome
  | true =>
    rw [reads] at reads'
    have property' := h.property?_eq reads
    cases property : e.property? with
    | some name =>
      rw [property] at property'
      rw [condition_of_property? reads property, condition_of_property? reads'.symm property'.symm]
      exact (agree_column settings.mapping name).map _
    | none =>
      rw [property] at property'
      unfold condition
      rw [reads, ← reads', property, ← property']
      simp only [Bool.not_true, Bool.false_eq_true, if_false]
      cases h with
      | captured captured => exact absurd (captured.symm.trans reads) Bool.false_ne_true
      | parameter names => exact Agree.throw fun ex => by rw [subject, subject, names ex]
      | member name _ h =>
        refine Agree.throw fun _ => ?_
        rw [memberFault, memberFault, h.memberPath?_eq reads]
      | @binary left right left' right' op _ hl hr =>
        cases op with
        | connective op => exact (agree_condition settings hl).map₂ (agree_condition settings hr) _
        | comparison op =>
          dsimp only
          rw [← hl.dependsOnParameter_eq, ← hr.dependsOnParameter_eq]
          cases readsl : left.dependsOnParameter <;> cases readsr : right.dependsOnParameter
          case true.false =>
            exact agree_capturedComparison settings hl readsl op (agree_term settings hl)
              (agree_condition settings hl) (hr.of_captured readsr).2 false
          case false.true =>
            exact agree_capturedComparison settings hr readsr op (agree_term settings hr)
              (agree_condition settings hr) (hl.of_captured readsl).2 true
          case true.true => exact (agree_term settings hl).map₂ (agree_term settings hr) _
          case false.false => exact (agree_term settings hl).map₂ (agree_term settings hr) _
        | _ => exact Agree.throw fun _ => rfl
      | @not operand operand' _ h =>
        dsimp only
        rw [← h.property?_eq reads]
        cases operand.property? with
        | some name => exact (agree_column settings.mapping name).map _
        | none => exact (agree_condition settings h).map _
      | call method _ h => exact agree_callCondition settings method h
      | invoke method _ ht ha => exact agree_invokeCondition settings ht method ha
      | _ => exact Agree.throw fun _ => rfl

end RelMap.Filter
