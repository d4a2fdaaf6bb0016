import RelMap.Proofs.Filter.Resemblance

/-!
# Values that are noted

An evaluator may note the values that it gives. A filter is compiled in the same way for two
databases, of which only one takes the empty string for null, as long as every value noted is null
to both or to none of them. What is never evaluated does not matter.
-/

namespace RelMap

/-- A value that two databases both take for null or both do not, and of a list every item. -/
def Value.NullAlike (es es' : Bool) (v : Value) : Prop :=
  v.isNullLike es = v.isNullLike es' ∧
    ∀ item ∈ v.list?.getD [], item.isNullLike es = item.isNullLike es'

instance (es es' : Bool) (v : Value) : Decidable (v.NullAlike es es') :=
  inferInstanceAs (Decidable (_ ∧ _))

namespace Filter

open Evaluation (value)
open RelMap.Expr (Resembles ResembleAll)

/-- An evaluator that notes the values that it gives. -/
def noting (noted : List Value) (e : Expr) : Except Fault Value × List Value :=
  (value e, noted ++ (value e).toOption.toList)

/-- The setting of another database. -/
def Setting.over {σ : Type} (s : Setting σ) (emptyStringIsNull : Bool) : Setting σ :=
  { s with emptyStringIsNull }

variable {α β γ : Type}

/-- Two compilations that do the same, given something, as long as all that is noted is good. -/
def SameWhile (given : Prop) (good : Value → Prop) (m m' : Compile (List Value) α) : Prop :=
  ∀ p, ∃ noted, (m.run.run p).2.evaluators = p.evaluators ++ noted ∧
    (given → (∀ v ∈ noted, good v) → m'.run.run p = m.run.run p)

namespace SameWhile

variable {given : Prop} {good : Value → Prop} {s : Setting (List Value)}
variable {m m' m'' : Compile (List Value) α} {f f' : α → Compile (List Value) β}
variable {n n' : Compile (List Value) β}

/-- Nothing is noted where nothing is done. -/
lemma pure (a : α) : SameWhile given good (Pure.pure a) (Pure.pure a) := by
  intro p
  exact ⟨[], (List.append_nil _).symm, fun _ _ => rfl⟩

/-- A compilation that fails at once notes nothing. -/
lemma throw (e : Fault) : SameWhile (α := α) given good (MonadExcept.throw e)
    (MonadExcept.throw e) := by
  intro p
  exact ⟨[], (List.append_nil _).symm, fun _ _ => rfl⟩

/-- Two steps, one after the other. -/
lemma bind (hm : SameWhile given good m m') (hf : ∀ a, SameWhile given good (f a) (f' a)) :
    SameWhile given good (m >>= f) (m' >>= f') := by
  intro p
  obtain ⟨noted, log, same⟩ := hm p
  rw [run_bind, run_bind]
  rcases run : m.run.run p with ⟨e | a, q⟩
  · rw [run] at log same
    refine ⟨noted, log, fun given all => ?_⟩
    rw [same given all]
  · rw [run] at log same
    obtain ⟨more, log', same'⟩ := hf a q
    refine ⟨noted ++ more, ?_, fun given all => ?_⟩
    · rw [← List.append_assoc, ← log]
      exact log'
    · rw [same given fun v hv => all v (List.mem_append_left _ hv)]
      exact same' given fun v hv => all v (List.mem_append_right _ hv)

/-- What is made of the result of one step. -/
lemma map (hm : SameWhile given good m m') (g : α → β) :
    SameWhile given good (m >>= fun a => Pure.pure (g a)) (m' >>= fun a => Pure.pure (g a)) := by
  apply hm.bind
  intro a
  exact pure (g a)

/-- What is made of the results of two steps. -/
lemma map₂ (hm : SameWhile given good m m') (hn : SameWhile given good n n') (g : α → β → γ) :
    SameWhile given good (m >>= fun a => n >>= fun b => Pure.pure (g a b))
      (m' >>= fun a => n' >>= fun b => Pure.pure (g a b)) := by
  apply hm.bind
  intro a
  exact hn.map (g a)

/-- Given something, the second compilation may be replaced by one equal to it. -/
lemma congr (h : SameWhile given good m m'') (eq : given → m' = m'') :
    SameWhile given good m m' := by
  intro p
  obtain ⟨noted, log, same⟩ := h p
  refine ⟨noted, log, fun given all => ?_⟩
  rw [eq given]
  exact same given all

/-- A choice is the same if, given something, both conditions are. -/
lemma ite {c c' : Prop} [Decidable c] [Decidable c'] {k k' : Compile (List Value) α}
    (h : given → (c ↔ c')) (hm : SameWhile given good m m') (hk : SameWhile given good k k') :
    SameWhile given good (if c then m else k) (if c' then m' else k') := by
  by_cases hc : c
  · rw [if_pos hc]
    exact hm.congr fun given => if_pos ((h given).1 hc)
  · rw [if_neg hc]
    exact hk.congr fun given => if_neg fun hc' => hc ((h given).2 hc')

/-- Binding a value notes nothing. -/
lemma bound (v : Value) : SameWhile given good (Filter.bind v) (Filter.bind v) := by
  intro p
  exact ⟨[], (List.append_nil _).symm, fun _ _ => rfl⟩

/-- Binding several values notes nothing. -/
lemma boundAll (vs : List Value) : SameWhile given good (bindAll vs) (bindAll vs) := by
  induction vs with
  | nil => exact pure []
  | cons v vs ih => exact (bound v).map₂ ih _

/-- Looking up a column notes nothing. -/
lemma column (s : Setting (List Value)) (property : String) :
    SameWhile given good (Filter.column s property) (Filter.column s property) := by
  unfold Filter.column
  split
  · exact pure _
  · exact throw _

/-- The value of an expression that is no constant is noted, and from there on it is good. -/
lemma evaluate (notes : s.evaluate = noting) {e : Expr} (asked : ∀ v, e ≠ .constant v)
    {g g' : Value → Compile (List Value) β}
    (hg : ∀ v, SameWhile (given ∧ good v) good (g v) (g' v)) :
    SameWhile given good (Filter.evaluate s e >>= g) (Filter.evaluate s e >>= g') := by
  intro p
  rw [run_bind, run_bind, run_evaluate s asked, notes, noting]
  cases value e with
  | error f => exact ⟨[], rfl, fun _ _ => rfl⟩
  | ok v =>
    obtain ⟨noted, log, same⟩ := hg v { p with evaluators := p.evaluators ++ [v] }
    refine ⟨v :: noted, ?_, fun given all => ?_⟩
    · exact log.trans (List.append_assoc ..)
    · obtain ⟨first, others⟩ := List.forall_mem_cons.1 all
      exact same ⟨given, first⟩ others

end SameWhile

/-- An expression with something else than a constant in the place of each captured part. -/
def Disguise (e e' : Expr) : Prop := Resembles True (fun _ c => ∀ v, c ≠ .constant v) e e'

variable {given : Prop} {s : Setting (List Value)} {es' : Bool} {e e' : Expr}

/-- Compilations for two databases that do the same while values are null to both or to none. -/
abbrev SameOver (given : Prop) (s : Setting (List Value)) (es' : Bool)
    (m m' : Compile (List Value) α) : Prop :=
  SameWhile given (Value.NullAlike s.emptyStringIsNull es') m m'

/-- A captured part becomes the same term over both databases. -/
lemma same_capturedTerm (notes : s.evaluate = noting) (asked : ∀ v, e ≠ .constant v) :
    SameOver given s es' (capturedTerm s e) (capturedTerm (s.over es') e) := by
  apply SameWhile.evaluate notes asked
  intro v
  cases v with
  | null => exact .pure _
  | list items => exact .throw _
  | _ => exact (SameWhile.bound _).map _

/-- A captured part decides the same condition over both databases. -/
lemma same_capturedCondition (notes : s.evaluate = noting) (asked : ∀ v, e ≠ .constant v) :
    SameOver given s es' (capturedCondition s e) (capturedCondition (s.over es') e) := by
  apply SameWhile.evaluate notes asked
  intro v
  cases v with
  | null => exact .pure _
  | bool b => exact .pure _
  | _ => exact .throw _

/-- A term is compiled alike for two databases while values are null to both or to none. -/
theorem same_term (notes : s.evaluate = noting) {e e' : Expr} (h : Disguise e e') :
    SameOver given s es' (term s e') (term (s.over es') e') := by
  have reads' := h.dependsOnParameter_eq
  cases reads : e.dependsOnParameter with
  | false =>
    obtain ⟨captured, asked⟩ := h.of_captured reads
    rw [term_of_captured captured, term_of_captured captured]
    exact same_capturedTerm notes asked
  | true =>
    rw [reads] at reads'
    cases property : e'.property? with
    | some name =>
      rw [term_of_property? reads'.symm property, term_of_property? reads'.symm property]
      exact (SameWhile.column s name).map _
    | none =>
      unfold term
      rw [← reads', property]
      simp only [Bool.not_true, Bool.false_eq_true, if_false]
      cases h with
      | captured captured => exact absurd (captured.symm.trans reads) Bool.false_ne_true
      | convert target _ h => exact same_term notes h
      | negate _ h => exact (same_term notes h).map _
      | binary op _ hl hr =>
        cases op with
        | arithmetic op => exact (same_term notes hl).map₂ (same_term notes hr) _
        | coalesce => exact (same_term notes hl).map₂ (same_term notes hr) _
        | _ => exact .throw _
      | invoke method _ ht ha =>
        cases ha with
        | cons => exact .throw _
        | nil =>
          dsimp only
          cases textFunction? method with
          | none => exact .throw _
          | some function => exact (same_term notes ht).map _
      | _ => exact .throw _

/-- A comparison with a value is the same over both databases, as it asks for no nulls. -/
lemma same_valueComparison (op : Comparison) {operand operand' : Compile (List Value) Term}
    (h : SameOver given s es' operand operand') (v : Value) (valueOnLeft : Bool) :
    SameOver given s es' (valueComparison s op operand v valueOnLeft)
      (valueComparison (s.over es') op operand' v valueOnLeft) := by
  apply SameWhile.ite fun _ => Iff.rfl
  · exact .throw _
  apply SameWhile.ite fun _ => Iff.rfl
  · apply (SameWhile.bound _).bind
    intro index
    exact h.map _
  · apply h.bind
    intro t
    exact (SameWhile.bound _).map _

/-- A comparison asks whether its captured part is null, which the note answers alike for both. -/
lemma same_capturedComparison (notes : s.evaluate = noting) (op : Comparison) (e : Expr)
    {asTerm asTerm' : Compile (List Value) Term}
    {asCondition asCondition' : Compile (List Value) Condition}
    (hterm : ∀ {given}, SameOver given s es' asTerm asTerm')
    (hcondition : ∀ {given}, SameOver given s es' asCondition asCondition') {captured : Expr}
    (asked : ∀ v, captured ≠ .constant v) (valueOnLeft : Bool) :
    SameOver given s es' (capturedComparison s op e asTerm asCondition captured valueOnLeft)
      (capturedComparison (s.over es') op e asTerm' asCondition' captured valueOnLeft) := by
  apply SameWhile.evaluate notes asked
  intro v
  -- Both databases take the value for null, or none of them does.
  apply SameWhile.ite fun both => Bool.eq_iff_iff.1 both.2.1
  · exact hterm.map _
  cases expected? op v with
  | none => exact same_valueComparison op hterm v valueOnLeft
  | some expected =>
    dsimp only
    cases e.property? with
    | some property => exact (SameWhile.column s property).map _
    | none =>
      apply SameWhile.ite fun _ => Iff.rfl
      · exact hcondition.map _
      · exact same_valueComparison op hterm v valueOnLeft

/-- A search is the same over both databases, as the empty string is a pattern for each. -/
lemma same_like (notes : s.evaluate = noting) (method : Method)
    {target target' : Compile (List Value) Term}
    (h : ∀ {given}, SameOver given s es' target target') {arg : Expr}
    (asked : ∀ v, arg ≠ .constant v) :
    SameOver given s es' (like s method target arg) (like (s.over es') method target' arg) := by
  apply SameWhile.evaluate notes asked
  intro v
  cases v with
  | string text =>
    apply h.bind
    intro t
    exact (SameWhile.bound _).map _
  | _ => exact .throw _

/-- A test for an item among values, given those that are not null and whether any is. -/
def membershipOf {σ : Type} (item : Compile σ Term) (values present : List Value) (null : Bool) :
    Compile σ Condition := do
  if values.isEmpty then return .truth false
  else
    let operand ← item
    if present.isEmpty then return .isNull operand false
    else
      let items ← bindAll present
      if null then return .amongOrNull operand items (← item)
      else return .among operand items

/-- A test among given items is the same over both databases. -/
lemma same_membershipOf {item item' : Compile (List Value) Term}
    (h : SameOver given s es' item item') (values present : List Value) (null : Bool) :
    SameOver given s es' (membershipOf item values present null)
      (membershipOf item' values present null) := by
  apply SameWhile.ite fun _ => Iff.rfl
  · exact .pure _
  apply h.bind
  intro operand
  apply SameWhile.ite fun _ => Iff.rfl
  · exact .pure _
  apply (SameWhile.boundAll _).bind
  intro items
  apply SameWhile.ite fun _ => Iff.rfl
  · exact h.map _
  · exact .pure _

/-- A test for membership asks which items are null, which the note answers alike for both. -/
lemma same_membership (notes : s.evaluate = noting) {collection : Expr}
    (asked : collection.dependsOnParameter = false → ∀ v, collection ≠ .constant v)
    {item item' : Compile (List Value) Term} (h : ∀ {given}, SameOver given s es' item item') :
    SameOver given s es' (membership s collection item)
      (membership (s.over es') collection item') := by
  unfold membership
  cases reads : collection.dependsOnParameter with
  | true => exact .throw _
  | false =>
    apply SameWhile.evaluate notes (asked reads)
    intro v
    cases v with
    | list values =>
      apply (same_membershipOf h values (values.filter (!·.isNullLike s.emptyStringIsNull))
        (values.any (·.isNullLike s.emptyStringIsNull))).congr
      intro both
      -- The same items are null to both databases.
      have alike : ∀ item ∈ values, item.isNullLike es' = item.isNullLike s.emptyStringIsNull :=
        fun item hi => (both.2.2 item hi).symm
      have present : values.filter (!·.isNullLike es') =
          values.filter (!·.isNullLike s.emptyStringIsNull) :=
        List.filter_congr fun item hi => by rw [alike item hi]
      have null : values.any (·.isNullLike es') =
          values.any (·.isNullLike s.emptyStringIsNull) := by
        rw [Bool.eq_iff_iff, List.any_eq_true, List.any_eq_true]
        exact exists_congr fun item => and_congr_right fun hi => by rw [alike item hi]
      rw [← present, ← null]
      rfl
    | _ => exact .throw _

/-- A captured part in disguise is no constant, so that it is evaluated and noted. -/
lemma Disguise.asked (h : Disguise e e') (captured : e'.dependsOnParameter = false) :
    ∀ v, e' ≠ .constant v :=
  (h.of_captured (h.dependsOnParameter_eq.trans captured)).2

/-- A call without a target is compiled alike if its arguments are. -/
lemma same_callCondition (notes : s.evaluate = noting) (method : Method) {args args' : List Expr}
    (h : ResembleAll True (fun _ c => ∀ v, c ≠ .constant v) args args') :
    SameOver given s es' (callCondition s method args')
      (callCondition (s.over es') method args') := by
  cases method with
  | contains =>
    rcases h with _ | ⟨hfirst, _ | ⟨hsecond, _ | _⟩⟩
    · exact .throw _
    · exact .throw _
    · rw [callCondition_contains, callCondition_contains]
      apply SameWhile.ite fun _ => Iff.rfl
      · exact same_membership notes (Disguise.asked hsecond) (same_term notes hfirst)
      · exact same_membership notes (Disguise.asked hfirst) (same_term notes hsecond)
    · exact .throw _
  | _ => exact .throw _

/-- A test of a target against an argument is compiled alike if both are. -/
lemma same_targetCondition (notes : s.evaluate = noting) {target target' : Expr}
    (ht : Disguise target target') (method : Method) {arg arg' : Expr} (ha : Disguise arg arg') :
    SameOver given s es' (targetCondition s target' method arg')
      (targetCondition (s.over es') target' method arg') := by
  apply SameWhile.ite fun _ => Iff.rfl
  · cases reads : arg'.dependsOnParameter with
    | true => exact .throw _
    | false => exact same_like notes method (same_term notes ht) (ha.asked reads)
  · cases method with
    | contains => exact same_membership notes ht.asked (same_term notes ha)
    | _ => exact .throw _

/-- A call on a target is compiled alike if its target and arguments are. -/
lemma same_invokeCondition (notes : s.evaluate = noting) {target target' : Expr}
    (ht : Disguise target target') (method : Method) {args args' : List Expr}
    (ha : ResembleAll True (fun _ c => ∀ v, c ≠ .constant v) args args') :
    SameOver given s es' (invokeCondition s target' method args')
      (invokeCondition (s.over es') target' method args') := by
  rcases ha with _ | ⟨ha, _ | _⟩
  · cases method <;> exact .throw _
  · cases method with
    | contains | startsWith | endsWith => exact same_targetCondition notes ht _ ha
    | _ => exact .throw _
  · cases method <;> exact .throw _

/-- A condition is compiled alike for two databases while values are null to both or to none. -/
theorem same_condition {given : Prop} (notes : s.evaluate = noting) {e e' : Expr}
    (h : Disguise e e') : SameOver given s es' (condition s e') (condition (s.over es') e') := by
  have reads' := h.dependsOnParameter_eq
  cases reads : e.dependsOnParameter with
  | false =>
    obtain ⟨captured, asked⟩ := h.of_captured reads
    rw [condition_of_captured captured, condition_of_captured captured]
    exact same_capturedCondition notes asked
  | true =>
    rw [reads] at reads'
    cases property : e'.property? with
    | some name =>
      rw [condition_of_property? reads'.symm property, condition_of_property? reads'.symm property]
      exact (SameWhile.column s name).map _
    | none =>
      unfold condition
      rw [← reads', property]
      simp only [Bool.not_true, Bool.false_eq_true, if_false]
      cases h with
      | captured captured => exact absurd (captured.symm.trans reads) Bool.false_ne_true
      | @binary _ _ left right op _ hl hr =>
        cases op with
        | connective op => exact (same_condition notes hl).map₂ (same_condition notes hr) _
        | comparison op =>
          dsimp only
          cases readsl : left.dependsOnParameter <;> cases readsr : right.dependsOnParameter
          case true.false =>
            exact same_capturedComparison notes op left (same_term notes hl)
              (same_condition notes hl) (Disguise.asked hr readsr) false
          case false.true =>
            exact same_capturedComparison notes op right (same_term notes hr)
              (same_condition notes hr) (Disguise.asked hl readsl) true
          case true.true => exact (same_term notes hl).map₂ (same_term notes hr) _
          case false.false => exact (same_term notes hl).map₂ (same_term notes hr) _
        | _ => exact .throw _
      | @not _ operand _ h =>
        dsimp only
        cases operand.property? with
        | some name => exact (SameWhile.column s name).map _
        | none => exact (same_condition notes h).map _
      | call method _ h => exact same_callCondition notes method h
      | invoke method _ ht ha => exact same_invokeCondition notes ht method ha
      | _ => exact .throw _

end Filter

end RelMap
