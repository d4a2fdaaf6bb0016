import RelMap.Proofs.Filter.Reading
import RelMap.Proofs.Statement

/-!
# How conditions are grouped

The text of a compiled filter has one reading, which groups the operators as the filter does. The
compilation is followed step by step: what each step places in the condition reads as the part of
the filter that it compiles, however many values are bound before and after it.
-/

namespace RelMap.Filter

open Evaluation (value)

variable {σ : Type}

/-- The bound values hold some values from a place on. -/
def Fills (n : Nat) (vs bound : List Value) : Prop :=
  ∃ before after, before.length = n ∧ bound = before ++ vs ++ after

/-- A result with a property however the bound values go on. -/
def Placed {α : Type} (n : Nat) (P : List Value → α → Prop) (a : α) (vs : List Value) : Prop :=
  ∀ bound, Fills n vs bound → P bound a

variable {α β : Type} {good : σ → Prop} {n : Nat} {s : Setting σ} {sp : Spelling}
variable {vs ws bound : List Value}

/-- Where two lists stand one behind the other, the first one stands. -/
lemma Fills.left (h : Fills n (vs ++ ws) bound) : Fills n vs bound := by
  obtain ⟨before, after, length, rfl⟩ := h
  exact ⟨before, ws ++ after, length, by simp only [List.append_assoc]⟩

/-- The second list stands where the first one ends. -/
lemma Fills.right (h : Fills n (vs ++ ws) bound) : Fills (n + vs.length) ws bound := by
  obtain ⟨before, after, length, rfl⟩ := h
  exact ⟨before ++ vs, after, by rw [List.length_append, length], by simp only [List.append_assoc]⟩

/-- The places from there on hold the values, one after the other. -/
lemma Fills.getElem? (h : Fills n vs bound) : (List.range' n vs.length).map (bound[·]?) =
    vs.map some := by
  obtain ⟨before, after, rfl, rfl⟩ := h
  apply List.ext_getElem
  · simp
  · intro i hi hi'
    simp only [List.length_map] at hi'
    simp [List.getElem?_append_right, List.getElem?_append_left hi']

namespace Yields

variable {m : Compile σ α} {f : α → Compile σ β} {P : List Value → α → Prop}
variable {R : List Value → β → Prop}

/-- A result that binds nothing is placed anywhere. -/
lemma placed_pure {a : α} (h : ∀ bound, P bound a) :
    Yields good n (Pure.pure a) (Placed n P) :=
  pure fun bound _ => h bound

/-- What is placed may be weakened. -/
lemma placed_mono (hm : Yields good n m (Placed n P)) {Q : List Value → α → Prop}
    (h : ∀ bound a, P bound a → Q bound a) : Yields good n m (Placed n Q) :=
  hm.mono fun a _ placed bound fills => h bound a (placed bound fills)

/-- What the first step has placed may be used for what the second one places. -/
lemma placed_bind (hm : Yields good n m (Placed n P))
    (hf : ∀ {k} a, Yields good k (f a) (Placed k fun bound b => P bound a → R bound b)) :
    Yields good n (m >>= f) (Placed n R) :=
  hm.bind fun a _ first => (hf a).mono fun _ _ second bound fills =>
    second bound fills.right (first bound fills.left)

/-- What is made of a result is placed where the result is. -/
lemma placed_map (hm : Yields good n m (Placed n P)) {g : α → β}
    (h : ∀ bound a, P bound a → R bound (g a)) :
    Yields good n (m >>= fun a => Pure.pure (g a)) (Placed n R) :=
  hm.placed_bind fun a => placed_pure fun bound => h bound a

/-- A value that is bound is found at the place of its parameter. -/
lemma placed_bound (v : Value) :
    Yields good n (Filter.bind v) (Placed n fun bound i => bound[i]? = some v) := by
  apply (Yields.bound v).mono
  rintro i vs ⟨rfl, rfl⟩ bound fills
  exact (List.cons.inj fills.getElem?).1

/-- Values that are bound are found at the places of their parameters. -/
lemma placed_boundAll (values : List Value) :
    Yields good n (bindAll values)
      (Placed n fun bound items => items.map (bound[·]?) = values.map some) := by
  apply (Yields.boundAll values).mono
  rintro items vs ⟨rfl, rfl⟩ bound fills
  exact fills.getElem?

end Yields

/-- The tree of a term in the case of comparisons calls the function for that case. -/
lemma tree_foldedTerm (fold : Bool) (t : Term) :
    (foldedTerm fold t).tree sp = foldedTree fold (t.tree sp) := by
  cases fold <;> rfl

/-- A captured part reads as null, or as the mark of its value. -/
lemma yields_capturedTerm_reads (hs : s.Faithful good) {e : Expr}
    (captured : e.dependsOnParameter = false) :
    Yields good n (capturedTerm s e)
      (Placed n fun bound t => TermReads s sp bound e (t.tree sp)) := by
  refine Yields.evaluate hs fun v hv => ?_
  cases v with
  | null => exact Yields.placed_pure fun _ => .null captured hv
  | list items => exact Yields.throw
  | _ => exact (Yields.placed_bound _).placed_map fun _ _ h => .value captured hv nofun rfl h

/-- An expression reads the entity or does not. -/
lemma reads_of_not {e : Expr} (h : ¬(!e.dependsOnParameter) = true) :
    e.dependsOnParameter = true := by
  simpa using h

/-- The term of an expression reads as the expression. -/
lemma yields_term_reads (hs : s.Faithful good) (e : Expr) :
    Yields good n (term s e) (Placed n fun bound t => TermReads s sp bound e (t.tree sp)) := by
  fun_induction Filter.term s e generalizing n with
  | case1 e captured => exact yields_capturedTerm_reads hs (by simpa using captured)
  | case2 e reads property h =>
    exact Yields.column fun c hc => Yields.placed_pure fun _ => .property h hc
  | case3 => exact Yields.throw
  | case4 target operand reads _ ih =>
    exact ih.placed_mono fun _ _ h => .convert target (reads_of_not reads) h
  | case5 operand reads _ ih =>
    exact ih.placed_map fun _ _ h => .negate (reads_of_not reads) h
  | case6 op left right reads _ ihl ihr =>
    apply ihl.placed_bind
    intro k l
    apply ihr.placed_map
    intro bound r hr hl
    exact .arithmetic op (reads_of_not reads) hl hr
  | case7 left right reads _ ihl ihr =>
    apply ihl.placed_bind
    intro k l
    apply ihr.placed_map
    intro bound r hr hl
    exact .coalesce (reads_of_not reads) hl hr
  | case8 target method function h reads _ ih =>
    exact ih.placed_map fun _ _ ht => .function (reads_of_not reads) h ht
  | _ => exact Yields.throw

/-- A condition that can be written, and reads as an expression. -/
def Grouped (s : Setting σ) (sp : Spelling) (e : Expr) (bound : List Value)
    (c : Condition) : Prop :=
  c.Proper ∧ ConditionReads s sp bound e (c.tree sp)

/-- A captured part reads as a truth value. -/
lemma yields_capturedCondition_reads (hs : s.Faithful good) {e : Expr}
    (captured : e.dependsOnParameter = false) :
    Yields good n (capturedCondition s e) (Placed n (Grouped s sp e)) := by
  refine Yields.evaluate hs fun v hv => ?_
  cases v with
  | bool b => exact Yields.placed_pure fun _ => ⟨trivial, .truth captured hv⟩
  | null => exact Yields.placed_pure fun _ => ⟨trivial, .null captured hv⟩
  | _ => exact Yields.throw

section
variable {op : Comparison} {l r e captured : Expr} {left : Bool} {v : Value}

/-- A comparison with null reads as a test for null, or never holds. -/
lemma yields_nullComparison_reads {operand : Compile σ Term}
    (h : Yields good n operand (Placed n fun bound t => TermReads s sp bound e (t.tree sp)))
    (sides : Sides l r e captured left) (hv : value captured = .ok v)
    (null : v.isNullLike s.emptyStringIsNull = true) :
    Yields good n (operand >>= fun t => Pure.pure (nullComparison op t))
      (Placed n (Grouped s sp (.binary (.comparison op) l r))) := by
  apply h.placed_map
  intro bound t ht
  cases op with
  | eq => exact ⟨trivial, .isNull sides hv null ht⟩
  | ne => exact ⟨trivial, .isNotNull sides hv null ht⟩
  | lt | le | gt | ge => exact ⟨trivial, .never _ sides hv null nofun nofun⟩

/-- A comparison with a value reads as one with the mark of the value, on the side it was on. -/
lemma yields_valueComparison_reads {operand : Compile σ Term}
    (h : ∀ {k}, Yields good k operand (Placed k fun bound t => TermReads s sp bound e (t.tree sp)))
    (sides : Sides l r e captured left) (hv : value captured = .ok v)
    (null : v.isNullLike s.emptyStringIsNull = false)
    (other : expected? op v = none ∨ e.property? = none ∧ isConditionShaped e = false) :
    Yields good n (valueComparison s op operand v left)
      (Placed n (Grouped s sp (.binary (.comparison op) l r))) := by
  unfold valueComparison
  cases list : v.isList with
  | true => exact Yields.throw
  | false =>
    dsimp only
    have reads {bound i t} := @ConditionReads.value σ s sp bound l r e captured left v i t op sides
      hv null list other
    cases left with
    | true =>
      apply (Yields.placed_bound _).placed_bind
      intro k index
      apply h.placed_map
      intro bound t ht hi
      refine ⟨trivial, ?_⟩
      rw [Condition.tree, tree_foldedTerm, tree_foldedTerm]
      exact reads hi ht
    | false =>
      apply h.placed_bind
      intro k t
      apply (Yields.placed_bound _).placed_map
      intro bound index hi ht
      refine ⟨trivial, ?_⟩
      rw [Condition.tree, tree_foldedTerm, tree_foldedTerm]
      exact reads hi ht

/-- A comparison with a captured part reads in one of four ways, by the value of that part. -/
lemma yields_capturedComparison_reads (hs : s.Faithful good) {asTerm : Compile σ Term}
    {asCondition : Compile σ Condition} (sides : Sides l r e captured left)
    (hterm : ∀ {k}, Yields good k asTerm
      (Placed k fun bound t => TermReads s sp bound e (t.tree sp)))
    (hcondition : ∀ {k}, Yields good k asCondition (Placed k (Grouped s sp e))) :
    Yields good n (capturedComparison s op e asTerm asCondition captured left)
      (Placed n (Grouped s sp (.binary (.comparison op) l r))) := by
  refine Yields.evaluate hs fun v hv => ?_
  cases null : v.isNullLike s.emptyStringIsNull with
  | true => exact yields_nullComparison_reads hterm sides hv null
  | false =>
    rw [if_neg Bool.false_ne_true]
    cases hb : expected? op v with
    | none => exact yields_valueComparison_reads hterm sides hv null (.inl hb)
    | some expected =>
      dsimp only
      cases hp : e.property? with
      | some name =>
        exact Yields.column fun c hc => Yields.placed_pure fun _ =>
          ⟨trivial, .flag op sides hv hb hp hc⟩
      | none =>
        dsimp only
        cases shaped : isConditionShaped e with
        | false => exact yields_valueComparison_reads hterm sides hv null (.inr ⟨hp, shaped⟩)
        | true =>
          apply hcondition.placed_map
          rintro bound c ⟨proper, reads⟩
          cases expected with
          | true => exact ⟨proper, .holds op sides hv hb shaped reads⟩
          | false => exact ⟨proper, .fails op sides hv hb shaped reads⟩

end

/-- A test for membership reads by the nulls among the items: without the list, with it, or both. -/
lemma yields_membership_reads (hs : s.Faithful good) (collection : Expr) {item : Expr}
    {asTerm : Compile σ Term}
    (h : ∀ {k}, Yields good k asTerm
      (Placed k fun bound t => TermReads s sp bound item (t.tree sp))) :
    Yields good n (membership s collection asTerm)
      (Placed n fun bound c => collection.dependsOnParameter = false ∧ c.Proper ∧
        MembershipReads s sp bound collection item (c.tree sp)) := by
  unfold membership
  cases captured : collection.dependsOnParameter with
  | true => exact Yields.throw
  | false =>
    refine Yields.evaluate hs fun v hv => Yields.collectionItems fun values hvalues => ?_
    rw [hvalues] at hv
    split
    next empty =>
      rw [List.isEmpty_iff.1 empty] at hv
      exact Yields.placed_pure fun _ => ⟨rfl, trivial, .never hv⟩
    next nonempty =>
      apply h.placed_bind
      intro k operand
      dsimp only
      split
      next none =>
        exact Yields.placed_pure fun _ ht =>
          ⟨rfl, trivial, .isNull hv (by simpa using nonempty) (List.isEmpty_iff.1 none) ht⟩
      next present =>
        apply (Yields.placed_boundAll _).placed_bind
        intro k items
        have proper {bound : List Value} {items : List Nat} (hi : items.map (bound[·]?) =
            (values.filter (!·.isNullLike s.emptyStringIsNull)).map some) : items ≠ [] := by
          rintro rfl
          exact present (List.isEmpty_iff.2 (List.map_eq_nil_iff.1 hi.symm))
        cases anyNull : values.any (·.isNullLike s.emptyStringIsNull) with
        -- The item is written again for the test against null, with parameters of its own.
        | true =>
          apply h.placed_map
          intro bound again ha hi ht
          exact ⟨rfl, proper hi, .amongOrNull hv anyNull ht hi ha⟩
        | false =>
          have all : values.filter (!·.isNullLike s.emptyStringIsNull) = values := by
            rw [List.filter_eq_self]
            intro w hw
            simpa using List.any_eq_false.1 anyNull w hw
          apply Yields.placed_pure
          intro bound hi ht
          refine ⟨rfl, proper hi, .among hv anyNull ht ?_⟩
          rw [hi, all]

/-- A search reads as the match of its target with the mark of the pattern. -/
lemma yields_like_reads (hs : s.Faithful good) {method : Method} {e arg : Expr}
    (hm : method ∈ [Method.contains, .startsWith, .endsWith])
    (reads : e.dependsOnParameter = true) (captured : arg.dependsOnParameter = false) :
    Yields good n (like s method (term s e) arg)
      (Placed n (Grouped s sp (.invoke e method [arg]))) := by
  refine Yields.evaluate hs fun v hv => Yields.patternText fun text htext => ?_
  rw [htext] at hv
  dsimp only
  apply (@yields_term_reads σ good n s sp hs e).placed_bind
  intro k t
  apply (Yields.placed_bound _).placed_map
  intro bound index hi ht
  refine ⟨trivial, ?_⟩
  rw [Condition.tree, tree_foldedTerm, tree_foldedTerm]
  exact .like hm reads captured hv hi ht

/-- A call without a target reads as a test for membership. -/
lemma yields_callCondition_reads (hs : s.Faithful good) {method : Method} {args : List Expr}
    (reads : (Expr.call method args).dependsOnParameter = true) :
    Yields good n (callCondition s method args)
      (Placed n (Grouped s sp (.call method args))) := by
  unfold callCondition
  split
  next first second =>
    have some : first.dependsOnParameter = true ∨ second.dependsOnParameter = true := by
      simpa [Expr.dependsOnParameter, Expr.anyDependsOnParameter] using reads
    apply Yields.ite
    · apply (yields_membership_reads hs second (yields_term_reads hs first)).placed_mono
      rintro bound c ⟨captured, proper, member⟩
      refine ⟨proper, .contains ?_ captured member⟩
      simpa [captured] using some
    · apply (yields_membership_reads hs first (yields_term_reads hs second)).placed_mono
      rintro bound c ⟨captured, proper, member⟩
      refine ⟨proper, .contained captured ?_ member⟩
      simpa [captured] using some
  next => exact Yields.throw

/-- A test of a target reads as a search, or as a test for membership if the target is captured. -/
lemma yields_targetCondition_reads (hs : s.Faithful good) {target : Expr} {method : Method}
    {arg : Expr} (hm : method ∈ [Method.contains, .startsWith, .endsWith])
    (reads : (Expr.invoke target method [arg]).dependsOnParameter = true) :
    Yields good n (targetCondition s target method arg)
      (Placed n (Grouped s sp (.invoke target method [arg]))) := by
  have some : target.dependsOnParameter = true ∨ arg.dependsOnParameter = true := by
    simpa [Expr.dependsOnParameter, Expr.anyDependsOnParameter] using reads
  unfold targetCondition
  cases ht : target.dependsOnParameter with
  | true =>
    cases ha : arg.dependsOnParameter with
    | true => exact Yields.throw
    | false => exact yields_like_reads hs hm ht ha
  | false =>
    rw [if_neg Bool.false_ne_true]
    split
    · apply (yields_membership_reads hs target (yields_term_reads hs arg)).placed_mono
      rintro bound c ⟨captured, proper, member⟩
      refine ⟨proper, .containedIn captured ?_ member⟩
      simpa [captured] using some
    · exact Yields.throw

/-- A call on a target reads as the test of its target. -/
lemma yields_invokeCondition_reads (hs : s.Faithful good) {target : Expr} {method : Method}
    {args : List Expr} (reads : (Expr.invoke target method args).dependsOnParameter = true) :
    Yields good n (invokeCondition s target method args)
      (Placed n (Grouped s sp (.invoke target method args))) := by
  unfold invokeCondition
  split
  · exact yields_targetCondition_reads hs (by decide) reads
  · exact yields_targetCondition_reads hs (by decide) reads
  · exact yields_targetCondition_reads hs (by decide) reads
  · exact Yields.throw

/-- The condition of an expression can be written and reads as the expression. -/
lemma yields_condition_reads (hs : s.Faithful good) (e : Expr) :
    Yields good n (condition s e) (Placed n (Grouped s sp e)) := by
  fun_induction Filter.condition s e generalizing n with
  | case1 e captured => exact yields_capturedCondition_reads hs (by simpa using captured)
  | case2 e reads property h =>
    exact Yields.column fun c hc => Yields.placed_pure fun _ => ⟨trivial, .property h hc⟩
  | case3 op left right reads _ ihl ihr =>
    apply ihl.placed_bind
    intro k l
    apply ihr.placed_map
    rintro bound r ⟨properr, readsr⟩ ⟨properl, readsl⟩
    exact ⟨⟨properl, properr⟩, .connect op (reads_of_not reads) readsl readsr⟩
  | case4 op left right hr hl reads _ ih =>
    exact yields_capturedComparison_reads hs (.right hl hr) (yields_term_reads hs left) ih
  | case5 op left right hr hl reads _ ih =>
    exact yields_capturedComparison_reads hs (.left hl hr) (yields_term_reads hs right) ih
  | case6 op left right hl hr reads _ =>
    obtain ⟨readsl, readsr⟩ : left.dependsOnParameter = true ∧ right.dependsOnParameter = true := by
      have some := reads_of_not reads
      rw [Expr.dependsOnParameter] at some
      cases hl' : left.dependsOnParameter <;> cases hr' : right.dependsOnParameter
      · rw [hl', hr'] at some
        cases some
      · exact (hr hl' hr').elim
      · exact (hl hl' hr').elim
      · exact ⟨rfl, rfl⟩
    apply (yields_term_reads hs left).placed_bind
    intro k l
    apply (yields_term_reads hs right).placed_map
    intro bound r ht hu
    exact ⟨trivial, .compare op readsl readsr hu ht⟩
  | case7 operand property h reads _ =>
    exact Yields.column fun c hc => Yields.placed_pure fun _ => ⟨trivial, .notProperty h hc⟩
  | case8 operand h reads _ ih =>
    exact ih.placed_map fun _ _ hc => ⟨hc.1, .not (reads_of_not reads) h hc.2⟩
  | case9 method args reads => exact yields_callCondition_reads hs (reads_of_not reads)
  | case10 target method args reads => exact yields_invokeCondition_reads hs (reads_of_not reads)
  | _ => exact Yields.throw

end RelMap.Filter

namespace RelMap

open Evaluation (EvaluatorCache)
open RelMap.Filter (ConditionReads)
open Sql (ReadsAs Tree)

/-- What a compilation places among the bound values, a clause has among its parameters. -/
lemma FilterTarget.clause_placed {t : FilterTarget} {hash : Expr → UInt64} {cache : EvaluatorCache}
    {body : Expr} {P : List Value → Condition → Prop} (sound : cache.Sound)
    (h : Filter.Yields EvaluatorCache.Sound 0
      (Filter.condition (t.setting (EvaluatorCache.evaluate hash)) body) (Filter.Placed 0 P))
    {c : Clause} (hc : (t.clause hash cache body).1 = .ok c) :
    c.spelling = ⟨t.dialect, t.tableAlias⟩ ∧ c.parameters.dialect = t.dialect ∧
      P c.parameters.values c.condition := by
  obtain ⟨spelled, dialect, placed⟩ := (FilterTarget.clause_yields sound h).2 c hc
  exact ⟨spelled, dialect, placed _ ⟨[], [], rfl, by rw [List.nil_append, List.append_nil]⟩⟩

/--
The text of a clause is balanced and has one reading, and this reading groups the operators as the
filter does.
-/
theorem FilterTarget.clause_grouped (t : FilterTarget) {hash : Expr → UInt64}
    {cache : EvaluatorCache} (reachable : cache.Reachable hash)
    (standard : t.tableAlias = rootAlias) {body : Expr} {c : Clause}
    (hc : (t.clause hash cache body).1 = .ok c) :
    Sql.Balanced t.dialect c.sql ∧
      (∀ tree, ReadsAs t.dialect c.sql tree ↔ tree = c.condition.tree c.spelling) ∧
      ConditionReads (t.setting (EvaluatorCache.evaluate hash)) c.spelling c.parameters.values body
        (c.condition.tree c.spelling) := by
  obtain ⟨_, result⟩ := FilterTarget.clause_yields reachable.sound
    (@Filter.yields_condition_reads _ _ 0 _ ⟨t.dialect, t.tableAlias⟩ (t.faithful hash) body)
  obtain ⟨spelled, _, placed⟩ := result c hc
  obtain ⟨proper, reads⟩ := placed c.parameters.values
    ⟨[], [], rfl, by rw [List.nil_append, List.append_nil]⟩
  have ha : Sql.Leads c.spelling.dialect (c.spelling.tableAlias ++ ".")
      [.word c.spelling.tableAlias, .dot] .outside := by
    rw [spelled, standard]
    exact leads_rootAlias t.dialect
  have dialect : t.dialect = c.spelling.dialect := by rw [spelled]
  rw [dialect, Clause.sql]
  refine ⟨?_, fun tree => Spelling.readsAs_condition_iff ha proper, ?_⟩
  · exact ((Spelling.readsAs_condition_iff ha proper).2 rfl).balanced
  · rw [spelled]
    exact reads

/-- A filter with a negated condition before another one. -/
def sampleNegation : Expr :=
  .binary (.connective .or)
    (.not (.binary (.comparison .gt)
      (.binary (.arithmetic .add) (.member (.parameter "x") "A") (.constant (.int32 5)))
      (.member (.parameter "x") "B")))
    (.binary (.comparison .eq) (.member (.parameter "x") "B") (.constant .null))

/-- The negation ends before the other condition. -/
theorem clause_grouped_negation :
    ∃ c, (sampleTarget.clause Expr.shapeHash (.empty 1) sampleNegation).1 = .ok c ∧
      c.sql = "(NOT ((a.`A` + ?) > a.`B`)) OR (a.`B` IS NULL)" ∧
      ∀ tree, ReadsAs .mySql c.sql tree ↔ tree =
        .connect .or
          (.not (.compare .gt (.arithmetic .add (.column "a" "A") (.mark "?")) (.column "a" "B")))
          (.isNull (.column "a" "B") false) :=
  ⟨_, rfl, by decide, (@FilterTarget.clause_grouped sampleTarget Expr.shapeHash _ (.empty 1) rfl
    sampleNegation _ rfl).2.1⟩

/-- A negated property before a disjunction that does not read the entity. -/
def sampleShortcuts : Expr :=
  .binary (.connective .and) (.not (.member (.parameter "x") "A"))
    (.binary (.connective .or) (.constant (.bool true)) (.constant (.bool true)))

/-- Neither is the first part the negation of the property, nor the second one a disjunction. -/
theorem not_grouped_shortcuts :
    ∃ c d, (sampleTarget.clause Expr.shapeHash (.empty 1) sampleShortcuts).1 = .ok c ∧
      (sampleTarget.clause Expr.shapeHash (.empty 1) (.member (.parameter "x") "A")).1 = .ok d ∧
      ∃ t u v, ReadsAs .mySql c.sql (.connect .and t u) ∧ ReadsAs .mySql d.sql v ∧
        t ≠ .not v ∧ ∀ op l r, u ≠ .connect op l r := by
  have reads {c : Condition} (proper : c.Proper) :
      ReadsAs .mySql (Spelling.condition ⟨.mySql, rootAlias⟩ c) (c.tree ⟨.mySql, rootAlias⟩) :=
    (@Spelling.readsAs_condition_iff ⟨.mySql, rootAlias⟩ (leads_rootAlias .mySql) c proper _).2 rfl
  exact ⟨_, _, rfl, rfl, _, _, _, reads ⟨trivial, trivial⟩, reads trivial, nofun, nofun⟩

end RelMap
