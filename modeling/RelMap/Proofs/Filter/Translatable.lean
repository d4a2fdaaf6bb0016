import RelMap.Proofs.Engine
import RelMap.Proofs.Filter.Screening
import RelMap.Proofs.Statement

/-!
# Which parts of a filter are looked at

A filter that compiles has no part that statements cannot express, with one exception: the item of a
membership test is not looked at when the collection is empty. Apart from that, captured values do
not decide whether a filter has a place for what it reads and calls.
-/

namespace RelMap.Filter

open Evaluation (value)

/-- Whether an expression is captured and its value is the empty list. -/
def isEmptyCollection (e : Expr) : Bool :=
  match value e with
  | .ok (.list []) => !e.dependsOnParameter
  | _ => false

/-- Whether something that reads the entity is looked for in an empty collection. -/
def looksInNothing (collection item : Expr) : Bool :=
  isEmptyCollection collection && item.dependsOnParameter

/-- Whether an expression is a membership test in an empty collection. -/
def isEmptyMembership : Expr → Bool
  | .call .contains [first, second] => looksInNothing first second || looksInNothing second first
  | .invoke target .contains [arg] => looksInNothing target arg
  | _ => false

/-- The parts of an expression but for the items of membership tests in empty collections. -/
def examined (e : Expr) : List Expr := e.partsBut isEmptyMembership

variable {σ : Type} {s : Setting σ} {good : σ → Prop} {e left right operand target arg : Expr}
variable {args : List Expr} {name : String} {op : BinaryOp} {kind : Kind} {method : Method}

@[simp] lemma examined_member : examined (.member target name) =
    .member target name :: examined target := rfl

@[simp] lemma examined_binary : examined (.binary op left right) =
    .binary op left right :: (examined left ++ examined right) := rfl

@[simp] lemma examined_not : examined (.not operand) = .not operand :: examined operand := rfl

@[simp] lemma examined_negate :
    examined (.negate operand) = .negate operand :: examined operand := rfl

@[simp] lemma examined_convert :
    examined (.convert kind operand) = .convert kind operand :: examined operand := rfl

/-- A collection that reads the entity is not known to be empty. -/
lemma isEmptyCollection_of_reads (h : e.dependsOnParameter = true) :
    isEmptyCollection e = false := by
  unfold isEmptyCollection
  split
  · rw [h]
    rfl
  · rfl

/-- What is examined is part of the expression. -/
lemma examined_subset : examined e ⊆ e.parts := e.partsBut_subset isEmptyMembership

/-- A node is found in order with what is below it. -/
lemma Screens.node {α : Type} {m : Compile σ α} {found blamed : List Expr}
    (h : Screens s good m found blamed) (fine : e.Translatable s.mapping)
    (below : examined e ⊆ e :: found) (within : blamed ⊆ e.parts) :
    Screens s good m (examined e) e.parts := by
  intro p hp
  obtain ⟨next, result⟩ := h p hp
  exact ⟨next, (result.after (List.forall_mem_singleton.2 fine)).mono below within⟩

/-- All parts of a captured term are examined, as it is evaluated. -/
lemma screens_capturedTerm (hs : s.Faithful good) (e : Expr) :
    Screens s good (capturedTerm s e) e.parts e.parts := by
  refine Screens.evaluated hs fun v _ => ?_
  cases v with
  | null => exact .pure nofun
  | list items => exact .other rfl
  | _ => exact .bound _ fun index => .pure nofun

/-- All parts of a captured condition are examined, as it is evaluated. -/
lemma screens_capturedCondition (hs : s.Faithful good) (e : Expr) :
    Screens s good (capturedCondition s e) e.parts e.parts := by
  refine Screens.evaluated hs fun v _ => ?_
  cases v with
  | bool b => exact .pure nofun
  | null => exact .pure nofun
  | _ => exact .other rfl

/-- A property is the only part of an expression that is nothing but it, conversions apart. -/
lemma screened_property {property : String} (h : e.property? = some property) :
    (∀ c, s.mapping.requireColumn property = .ok c →
        ∀ p ∈ examined e, p.Translatable s.mapping) ∧
      ∀ fault, s.mapping.requireColumn property = .error fault →
        ∃ p ∈ e.parts, p.Refused s.mapping (.mapping fault) := by
  fun_induction Expr.property? e with
  | case1 name x =>
    cases h
    refine ⟨fun c hc => ?_, fun fault missing => ⟨_, Expr.mem_parts_self, .unmapped missing⟩⟩
    rw [examined_member, List.forall_mem_cons]
    refine ⟨fun _ => ⟨⟨name, rfl⟩, c, hc⟩, ?_⟩
    rw [examined, Expr.partsBut, List.forall_mem_singleton]
    trivial
  | case2 target operand ih =>
    obtain ⟨found, missing⟩ := ih h
    refine ⟨fun c hc => ?_, fun fault hf => ?_⟩
    · rw [examined_convert, List.forall_mem_cons]
      exact ⟨trivial, found c hc⟩
    · obtain ⟨p, hp, refused⟩ := missing fault hf
      exact ⟨p, by simp [hp], refused⟩
  | case3 => cases h

/-- A property has its column, or it is to blame. -/
lemma screens_property {β : Type} {property : String} (h : e.property? = some property)
    {g : String → β} :
    Screens s good (column s property >>= fun c => pure (g c)) (examined e) e.parts := by
  unfold column
  cases hc : s.mapping.requireColumn property with
  | ok c => exact .pure ((screened_property h).1 c hc)
  | error fault => exact .throw fun _ => (screened_property h).2 fault hc

/-- A member that is no property is refused for what it is. -/
lemma refused_of_memberFault (reads : (Expr.member target name).dependsOnParameter = true)
    (h : (Expr.member target name).property? = none) :
    ∃ p ∈ (Expr.member target name).parts,
      p.Refused s.mapping (.unsupported (memberFault target name)) := by
  refine ⟨_, Expr.mem_parts_self, .path reads fun x => ?_⟩
  rintro rfl
  cases h

/-- A method that is known by its name only is to blame for the fault of its name. -/
lemma screens_methodFault {α : Type} {fault : Method → UnsupportedFault}
    (h : e.method? = some method) (named : ∀ name, fault (.named name) = .method name)
    (known : method.isNamed = false →
      (Fault.unsupported (fault method)).isUntranslatable = false) :
    Screens s good (unsupported (fault method) : Compile σ α) (examined e) e.parts := by
  cases method with
  | named name =>
    refine .throw fun _ => ⟨e, Expr.mem_parts_self, ?_⟩
    rw [named]
    cases e <;> cases h
    · exact .call
    · exact .invoke
  | _ => exact .other (known rfl)

/-- A known method that is no term is refused for its place, not for itself. -/
lemma isUntranslatable_methodTermFault (h : method.isNamed = false) :
    (Fault.unsupported (methodTermFault method)).isUntranslatable = false := by
  cases method <;> first | rfl | cases h

/-- A known method that is no condition is refused for its place, not for itself. -/
lemma isUntranslatable_methodConditionFault (h : method.isNamed = false) :
    (Fault.unsupported (methodConditionFault method)).isUntranslatable = false := by
  cases method <;> first | rfl | cases h

/-- A term examines its expression. -/
lemma screens_term (hs : s.Faithful good) (e : Expr) :
    Screens s good (term s e) (examined e) e.parts := by
  fun_induction Filter.term s e with
  | case1 e captured => exact (screens_capturedTerm hs e).mono examined_subset (List.Subset.refl _)
  | case2 e reads property h => exact screens_property h
  | case3 target name reads h =>
    exact .throw fun _ => refused_of_memberFault (by simpa using reads) h
  | case4 target operand reads _ ih => exact ih.node trivial (by simp) (by simp)
  | case5 operand reads _ ih => exact ih.map.node trivial (by simp) (by simp)
  | case6 op left right reads _ ihl ihr =>
    exact (ihl.bind fun l => ihr.map).node trivial (by simp) (by simp)
  | case7 left right reads _ ihl ihr =>
    exact (ihl.bind fun l => ihr.map).node trivial (by simp) (by simp)
  | case8 target method function h reads _ ih =>
    have fine : method.isNamed = false := by cases method <;> first | rfl | cases h
    refine ih.map.node fine ?_ (by simp)
    rw [examined, Expr.partsBut, Expr.partsOfAllBut, List.append_nil]
    exact List.Subset.refl _
  | case9 | case10 | case11 =>
    exact screens_methodFault rfl (fun _ => rfl) isUntranslatable_methodTermFault
  | case12 => exact .other rfl

section
variable {found blamed : List Expr} {asTerm : Compile σ Term} {asCondition : Compile σ Condition}

/-- A comparison with a value examines what its operand does. -/
lemma screens_valueComparison {comparison : Comparison} (h : Screens s good asTerm found blamed)
    (v : Value) (valueOnLeft : Bool) :
    Screens s good (valueComparison s comparison asTerm v valueOnLeft) found blamed := by
  unfold valueComparison
  split
  · exact .other rfl
  · dsimp only
    split
    · exact .bound _ fun index => h.map
    · exact h.first fun t => .bound _ fun index => .pure nofun

/-- A comparison with a captured part examines both sides. -/
lemma screens_capturedComparison (hs : s.Faithful good) {comparison : Comparison}
    (hterm : Screens s good asTerm (examined e) e.parts)
    (hcondition : Screens s good asCondition (examined e) e.parts) (captured : Expr)
    (valueOnLeft : Bool) :
    Screens s good (capturedComparison s comparison e asTerm asCondition captured valueOnLeft)
      (captured.parts ++ examined e) (captured.parts ++ e.parts) := by
  refine Screens.evaluate hs fun v _ => ?_
  split
  · exact hterm.map
  split
  next => exact screens_valueComparison hterm v valueOnLeft
  next =>
    split
    next property h => exact screens_property h
    next =>
      split
      · exact hcondition.map
      · exact screens_valueComparison hterm v valueOnLeft

/-- A search examines its target and what is searched for. -/
lemma screens_like (hs : s.Faithful good) (method : Method)
    (h : Screens s good asTerm found blamed) (arg : Expr) :
    Screens s good (like s method asTerm arg) (arg.parts ++ found) (arg.parts ++ blamed) := by
  refine Screens.evaluate hs fun v _ => ?_
  cases v with
  | string text => exact h.first fun t => .bound _ fun index => .pure nofun
  | _ => exact .other rfl

/-- The item is looked at unless the collection is empty. -/
lemma screens_membership (hs : s.Faithful good) (collection : Expr)
    (h : Screens s good asTerm found blamed) :
    Screens s good (membership s collection asTerm)
      (collection.parts ++ if isEmptyCollection collection then [] else found)
      (collection.parts ++ blamed) := by
  unfold membership
  split
  · exact .other rfl
  next captured =>
  refine Screens.evaluate hs fun v hv => ?_
  cases v with
  | list values =>
    cases values with
    | nil =>
      have empty : isEmptyCollection collection = true := by
        rw [isEmptyCollection, hv]
        simpa using captured
      rw [empty]
      exact .pure nofun
    | cons first others =>
      refine Screens.mono (h.first fun operand => ?_) ?_ (List.Subset.refl _)
      · refine .ite (.pure nofun) (.boundAll _ fun items => .ite ?_ (.pure nofun))
        -- The item is written a second time where there are nulls.
        exact (h.mono (List.nil_subset _) (List.Subset.refl _)).map
      · split
        · exact List.nil_subset _
        · exact List.Subset.refl _
  | _ => exact .other rfl

end

/-- What is looked at where one expression may be an item and another its collection. -/
def lookedAt (collection item : Expr) : List Expr :=
  if looksInNothing collection item then [] else examined item

/-- What is looked at of an item is part of the item. -/
lemma lookedAt_subset {collection item : Expr} : lookedAt collection item ⊆ item.parts := by
  unfold lookedAt
  split
  · exact List.nil_subset _
  · exact examined_subset

/-- An item that reads the entity is passed over only if the collection is empty. -/
lemma lookedAt_subset_of_reads {collection item : Expr}
    (reads : collection.dependsOnParameter = false → item.dependsOnParameter = true) :
    lookedAt collection item ⊆ if isEmptyCollection collection then [] else examined item := by
  unfold lookedAt looksInNothing
  cases empty : isEmptyCollection collection with
  | false => exact List.Subset.refl _
  | true =>
    cases captured : collection.dependsOnParameter with
    | false =>
      rw [reads captured]
      exact List.Subset.refl _
    | true => exact nomatch empty.symm.trans (isEmptyCollection_of_reads captured)

/-- One of two expressions that is an item in an empty collection reads the entity. -/
lemma looksInNothing_and_reads {first second : Expr} :
    ((looksInNothing first second || looksInNothing second first) && first.dependsOnParameter)
      = looksInNothing second first := by
  unfold looksInNothing
  cases reads : first.dependsOnParameter with
  | false => rw [Bool.and_false, Bool.and_false]
  | true => rw [isEmptyCollection_of_reads reads, Bool.false_and, Bool.false_or, Bool.and_true]

/-- Each argument of `Contains` is examined as far as the other one allows. -/
lemma examined_contains {first second : Expr} : examined (.call .contains [first, second]) =
    .call .contains [first, second] :: (lookedAt second first ++ lookedAt first second) := by
  have swapped : isEmptyMembership (.call .contains [first, second])
      = (looksInNothing second first || looksInNothing first second) := Bool.or_comm ..
  rw [examined, Expr.partsBut, Expr.partsOfAllBut, Expr.partsOfAllBut, Expr.partsOfAllBut,
    List.append_nil]
  congr 2
  · rw [isEmptyMembership, looksInNothing_and_reads]
    rfl
  · rw [swapped, looksInNothing_and_reads]
    rfl

/-- The same where the method is called on a target. -/
lemma examined_invoke_contains : examined (.invoke target .contains [arg]) =
    .invoke target .contains [arg] :: (examined target ++ lookedAt target arg) := by
  have skipped : (isEmptyMembership (.invoke target .contains [arg]) && arg.dependsOnParameter)
      = looksInNothing target arg := by
    rw [isEmptyMembership, looksInNothing, Bool.and_assoc, Bool.and_self]
  rw [examined, Expr.partsBut, Expr.partsOfAllBut, Expr.partsOfAllBut, List.append_nil, skipped]
  rfl

/-- No more of an argument is examined than there is. -/
lemma examined_invoke_subset : examined (.invoke target method [arg]) ⊆
    .invoke target method [arg] :: (examined target ++ arg.parts) := by
  rw [examined, Expr.partsBut, Expr.partsOfAllBut, Expr.partsOfAllBut, List.append_nil]
  refine List.cons_subset_cons _ (Expr.append_subset_append (List.Subset.refl _) ?_)
  split
  · exact List.nil_subset _
  · exact examined_subset

/-- A call without a target examines its arguments, but not the item of an empty list. -/
lemma screens_callCondition (hs : s.Faithful good)
    (reads : (Expr.call method args).dependsOnParameter = true) :
    Screens s good (callCondition s method args) (examined (.call method args))
      (Expr.call method args).parts := by
  unfold callCondition
  split
  next first second =>
    -- An empty collection is captured, so it is the item that reads the entity.
    simp only [Expr.dependsOnParameter, Expr.anyDependsOnParameter, Bool.or_false,
      Bool.or_eq_true] at reads
    refine .ite ?_ ?_
    · refine (screens_membership hs second (screens_term hs first)).node rfl ?_ (by simp)
      rw [examined_contains]
      refine List.cons_subset_cons _ (List.Subset.trans (List.perm_append_comm ..).subset ?_)
      exact Expr.append_subset_append lookedAt_subset
        (lookedAt_subset_of_reads fun captured => reads.resolve_right (by simp [captured]))
    · refine (screens_membership hs first (screens_term hs second)).node rfl ?_ (by simp)
      rw [examined_contains]
      exact List.cons_subset_cons _ (Expr.append_subset_append lookedAt_subset
        (lookedAt_subset_of_reads fun captured => reads.resolve_left (by simp [captured])))
  next => exact screens_methodFault rfl (fun _ => rfl) isUntranslatable_methodConditionFault

/-- A test of a target against an argument examines both, but not the item of an empty list. -/
lemma screens_targetCondition (hs : s.Faithful good)
    (reads : target.dependsOnParameter = true ∨ arg.dependsOnParameter = true)
    (known : method.isNamed = false) :
    Screens s good (targetCondition s target method arg) (examined (.invoke target method [arg]))
      (Expr.invoke target method [arg]).parts := by
  unfold targetCondition
  split
  · split
    · exact .other rfl
    · refine (screens_like hs method (screens_term hs target) arg).node known ?_ (by simp)
      exact List.Subset.trans examined_invoke_subset
        (List.cons_subset_cons _ (List.perm_append_comm ..).subset)
  · split
    · refine (screens_membership hs target (screens_term hs arg)).node known ?_ (by simp)
      rw [examined_invoke_contains]
      exact List.cons_subset_cons _ (Expr.append_subset_append examined_subset
        (lookedAt_subset_of_reads fun captured => reads.resolve_left (by simp [captured])))
    · exact .other rfl

/-- A call on a target examines the target and its arguments. -/
lemma screens_invokeCondition (hs : s.Faithful good)
    (reads : (Expr.invoke target method args).dependsOnParameter = true) :
    Screens s good (invokeCondition s target method args) (examined (.invoke target method args))
      (Expr.invoke target method args).parts := by
  have either {arg : Expr} (h : args = [arg]) :
      target.dependsOnParameter = true ∨ arg.dependsOnParameter = true := by
    simpa [h, Expr.dependsOnParameter, Expr.anyDependsOnParameter] using reads
  unfold invokeCondition
  split
  · exact screens_targetCondition hs (either rfl) rfl
  · exact screens_targetCondition hs (either rfl) rfl
  · exact screens_targetCondition hs (either rfl) rfl
  · exact screens_methodFault rfl (fun _ => rfl) isUntranslatable_methodConditionFault

/-- A condition examines its expression. -/
lemma screens_condition (hs : s.Faithful good) (e : Expr) :
    Screens s good (condition s e) (examined e) e.parts := by
  fun_induction Filter.condition s e with
  | case1 e captured =>
    exact (screens_capturedCondition hs e).mono examined_subset (List.Subset.refl _)
  | case2 e reads property h => exact screens_property h
  | case3 op left right reads _ ihl ihr =>
    exact (ihl.bind fun l => ihr.map).node trivial (by simp) (by simp)
  | case4 op left right hr hl reads _ ih =>
    refine (screens_capturedComparison hs (screens_term hs left) ih right false).node trivial ?_
      (by simp)
    rw [examined_binary]
    exact List.cons_subset_cons _ (List.Subset.trans (List.perm_append_comm ..).subset
      (Expr.append_subset_append examined_subset (List.Subset.refl _)))
  | case5 op left right hr hl reads _ ih =>
    refine (screens_capturedComparison hs (screens_term hs right) ih left true).node trivial ?_
      (by simp)
    rw [examined_binary]
    exact List.cons_subset_cons _ (Expr.append_subset_append examined_subset (List.Subset.refl _))
  | case6 op left right hl hr reads _ =>
    exact ((screens_term hs left).bind fun l => (screens_term hs right).map).node trivial (by simp)
      (by simp)
  | case7 operand property h reads _ =>
    exact (screens_property h).node trivial (by simp) (by simp)
  | case8 operand _ reads _ ih => exact ih.map.node trivial (by simp) (by simp)
  | case9 method args reads => exact screens_callCondition hs (by simpa using reads)
  | case10 target method args reads => exact screens_invokeCondition hs (by simpa using reads)
  | case11 target name reads h =>
    exact .throw fun _ => refused_of_memberFault (by simpa using reads) h
  | case12 => exact .other rfl

end RelMap.Filter

namespace RelMap

open Evaluation (EvaluatorCache)

variable {hash : Expr → UInt64} {t : FilterTarget} {cache : EvaluatorCache} {body : Expr}

/-- What a clause has found in order, or which part it blames. -/
lemma FilterTarget.clause_screened (sound : cache.Sound) :
    (∀ c, (t.clause hash cache body).1 = .ok c →
        ∀ p ∈ Filter.examined body, p.Translatable t.mapping) ∧
      ∀ e, (t.clause hash cache body).1 = .error e → e.fault.isUntranslatable = true →
        ∃ p ∈ body.parts, p.Refused t.mapping e.fault := by
  obtain ⟨-, result⟩ := Filter.screens_condition (t.faithful hash) body ⟨cache, []⟩ sound
  unfold FilterTarget.clause FilterTarget.clauseWith
  rcases run : (Filter.condition (t.setting (EvaluatorCache.evaluate hash)) body).run.run
    ⟨cache, []⟩ with ⟨fault | condition, progress⟩
  · rw [run] at result
    refine ⟨nofun, fun e he => ?_⟩
    cases he
    exact result
  · rw [run] at result
    exact ⟨fun c _ => result, nofun⟩

/--
In a filter that compiles no method is called that is known by its name only, and all that is read
of the entity is properties with a column, no matter what was captured; only the items of membership
tests in empty collections are exempt. Without such tests, a filter of the same shape is never
refused for what it calls or reads, whatever it captured.
-/
theorem FilterTarget.clause_translatable {c : Clause} (reachable : cache.Reachable hash)
    (hc : (t.clause hash cache body).1 = .ok c) :
    (∀ p ∈ Filter.examined body, p.Translatable t.mapping) ∧
      ((∀ p ∈ body.parts, Filter.isEmptyMembership p = false) →
        (∀ p ∈ body.parts, p.Translatable t.mapping) ∧
        ∀ (other : FilterTarget) (hash' : Expr → UInt64) (cache' : EvaluatorCache) (body' : Expr)
          (e : Error), other.mapping = t.mapping → cache'.Reachable hash' →
          body.sameShape body' = true → (other.clause hash' cache' body').1 = .error e →
          e.fault.isUntranslatable = false) := by
  have found := (FilterTarget.clause_screened reachable.sound).1 c hc
  refine ⟨found, fun nonempty => ?_⟩
  rw [Filter.examined, Expr.partsBut_eq_parts nonempty] at found
  refine ⟨found, fun other hash' cache' body' e mapping reachable' same he => ?_⟩
  by_contra untranslatable
  obtain ⟨q, hq, refused⟩ := (FilterTarget.clause_screened reachable'.sound).2 e he
    (by simpa using untranslatable)
  obtain ⟨p, hp, alike⟩ := Expr.exists_part_of_sameShape same hq
  rw [mapping] at refused
  exact refused.not_translatable ((found p hp).of_sameShape alike)

/-- Whether a property is equal to a captured value. -/
def sampleComparison (v : Value) : Expr :=
  .binary (.comparison .eq) (.member (.parameter "x") "A")
    (.member (.closure ⟨"C", [("n", v)]⟩) "n")

/-- A comparison that compiles with a number fails with a list, but not for what it reads. -/
theorem clause_translatable_comparison :
    (∀ p ∈ (sampleComparison (.int32 7)).parts, p.Translatable sampleMapping) ∧
      ∃ e, (sampleTarget.clause Expr.shapeHash (.empty 1) (sampleComparison (.list []))).1 = .error e
        ∧ e.fault.isUntranslatable = false := by
  have compiles : ∃ c, (sampleTarget.clause Expr.shapeHash (.empty 1)
      (sampleComparison (.int32 7))).1 = .ok c := ⟨_, rfl⟩
  have fails : ∃ e, (sampleTarget.clause Expr.shapeHash (.empty 1)
      (sampleComparison (.list []))).1 = .error e := ⟨_, rfl⟩
  obtain ⟨c, hc⟩ := compiles
  obtain ⟨e, he⟩ := fails
  obtain ⟨found, refuses⟩ := (FilterTarget.clause_translatable (.empty 1) hc).2 (by decide)
  exact ⟨found, e, he, refuses sampleTarget _ _ _ e rfl (.empty 1) rfl he⟩

/-- Whether a property without a column is among captured values. -/
def sampleMembership (values : List Value) : Expr :=
  .call .contains
    [.member (.closure ⟨"C", [("ids", .list values)]⟩) "ids", .member (.parameter "x") "Nope"]

/-- With no values the property is not looked at, and with one the same filter is refused. -/
theorem not_translatable_empty_membership :
    (∃ c, (sampleTarget.clause Expr.shapeHash (.empty 1024) (sampleMembership [])).1 = .ok c ∧
        c.sql = "1=0") ∧
      (¬∀ p ∈ (sampleMembership []).parts, p.Translatable sampleMapping) ∧
      (sampleMembership []).sameShape (sampleMembership [.int32 1]) = true ∧
      (sampleTarget.clause Expr.shapeHash (.empty 1024) (sampleMembership [.int32 1])).1 =
        .error ⟨"T", .mapping (.unmappedProperty "Nope")⟩ := by
  refine ⟨⟨_, rfl, rfl⟩, fun all => ?_, rfl, rfl⟩
  obtain ⟨-, c, found⟩ := all (.member (.parameter "x") "Nope") (by simp [sampleMembership]) rfl
  cases found

end RelMap
