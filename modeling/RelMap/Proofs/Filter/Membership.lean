import RelMap.Proofs.Evaluation.Values
import RelMap.Proofs.Filter.CapturedValues
import RelMap.Proofs.Filter.Meaning

/-!
# Membership in captured lists

There are three ways to ask whether something that reads the entity is in a captured list, and one
condition for all of them. Which of its four forms it has depends on how many values of the list are
null to the database, but what it says does not: the item is one of the other values, or it is null
and so is a value of the list.
-/

namespace RelMap

open Evaluation (EvaluatorCache value)

/-- The terms that a condition looks for in a list. -/
def Condition.tested : Condition → List Term
  | .isNull operand _ => [operand]
  | .among operand _ => [operand]
  | .amongOrNull operand _ again => [operand, again]
  | _ => []

/-- The parameters of the list in which a condition looks for a term. -/
def Condition.listed : Condition → List Nat
  | .among _ items => items
  | .amongOrNull _ items _ => items
  | _ => []

/--
Whether a value is in a list: it is equal to one that is not null to the database, or it is null
and there is one in the list that is null to the database too.
-/
def Database.IsMember {D : Type} (db : Database D) (emptyStringIsNull : Bool) (v : Option D)
    (ws : List Value) : Prop :=
  (∃ x, v = some x ∧ ∃ w ∈ ws, w.isNullLike emptyStringIsNull = false ∧
    ∃ y, db.bound w = some y ∧ db.compare .eq x y = true) ∨
  v = none ∧ ∃ w ∈ ws, w.isNullLike emptyStringIsNull = true

/--
A value is in a list if it is among the values to be listed, or it is null and one of them is.
-/
lemma Database.isMember_iff {D : Type} {db : Database D} {es : Bool} {v : Option D}
    {ws : List Value} : db.IsMember es v ws ↔
      db.among v ((ws.filter (!·.isNullLike es)).map db.bound) = some true ∨
        v = none ∧ ws.any (·.isNullLike es) = true := by
  rw [IsMember, among_eq_true, List.any_eq_true]
  refine or_congr_left ?_
  constructor
  · rintro ⟨x, rfl, w, hw, present, y, hy, equal⟩
    have listed : w ∈ ws.filter (!·.isNullLike es) := List.mem_filter.2 ⟨hw, by rw [present]; rfl⟩
    exact ⟨_, List.mem_map_of_mem listed, compared_eq_true.2 ⟨x, y, rfl, hy, equal⟩⟩
  · rintro ⟨_, mem, equal⟩
    obtain ⟨w, listed, rfl⟩ := List.mem_map.1 mem
    obtain ⟨hw, present⟩ := List.mem_filter.1 listed
    obtain ⟨x, y, rfl, hy, equal⟩ := compared_eq_true.1 equal
    exact ⟨x, rfl, w, hw, by simpa using present, y, hy, equal⟩

/-- Parameters that some values were bound to have these values. -/
lemma Term.values_parameters {D : Type} (db : Database D) {bound ws : List Value} {items : List Nat}
    (h : items.map (bound[·]?) = ws.map some) :
    items.map (fun i => (Term.parameter i).value db bound) = ws.map db.bound := by
  have values := congrArg (List.map (·.bind db.bound)) h
  rwa [List.map_map, List.map_map] at values

namespace Filter

variable {σ : Type} {s : Setting σ} {good : σ → Prop} {n : Nat} {item : Expr}
variable {ws bound : List Value} {t u : Term} {items : List Nat}

/-- A condition that looks for an expression in a list, and says what membership says. -/
structure Looks (s : Setting σ) (item : Expr) (ws bound : List Value) (c : Condition) : Prop where
  /-- The values that are not null to the database are listed in order. -/
  listed : c.listed.map (bound[·]?) = (ws.filter (!·.isNullLike s.emptyStringIsNull)).map some
  /-- What is looked for is the expression, as often as it is written. -/
  tested : ∀ u ∈ c.tested, Means s.mapping item bound u
  /-- The condition is true if and only if the value of the expression is in the list. -/
  holds : ∀ (D : Type) (db : Database D), c.outcome db bound = some true ↔
    db.IsMember s.emptyStringIsNull (item.rowValue s.mapping db) ws

/-- Nothing is in an empty list. -/
lemma looks_never : Looks s item [] bound (.truth false) where
  listed := rfl
  tested := List.forall_mem_nil _
  holds D db := by
    rw [Database.isMember_iff]
    simp [Condition.outcome, Database.among]

/-- Among values that are all null to the database, there is null only. -/
lemma looks_isNull (nonempty : ws ≠ [])
    (none : ws.filter (!·.isNullLike s.emptyStringIsNull) = []) (ht : Means s.mapping item bound t) :
    Looks s item ws bound (.isNull t false) where
  listed := by
    rw [none]
    rfl
  tested := List.forall_mem_singleton.2 ht
  holds D db := by
    have anyNull : ws.any (·.isNullLike s.emptyStringIsNull) = true := by
      obtain ⟨w, hw⟩ := List.exists_mem_of_ne_nil ws nonempty
      have absent := List.filter_eq_nil_iff.1 none w hw
      exact List.any_eq_true.2 ⟨w, hw, by simpa using absent⟩
    rw [Database.isMember_iff, none, anyNull, Condition.outcome, ht]
    simp [Database.among]

/-- Among values of which none is null to the database, there is what is equal to one. -/
lemma looks_among (anyNull : ws.any (·.isNullLike s.emptyStringIsNull) = false)
    (hi : items.map (bound[·]?) = (ws.filter (!·.isNullLike s.emptyStringIsNull)).map some)
    (ht : Means s.mapping item bound t) : Looks s item ws bound (.among t items) where
  listed := hi
  tested := List.forall_mem_singleton.2 ht
  holds D db := by
    rw [Database.isMember_iff, anyNull, Condition.outcome, ht, Term.values_parameters db hi]
    simp

/-- Among both kinds of values, there is null too. -/
lemma looks_amongOrNull (anyNull : ws.any (·.isNullLike s.emptyStringIsNull) = true)
    (hi : items.map (bound[·]?) = (ws.filter (!·.isNullLike s.emptyStringIsNull)).map some)
    (ht : Means s.mapping item bound t) (hu : Means s.mapping item bound u) :
    Looks s item ws bound (.amongOrNull t items u) where
  listed := hi
  tested := List.forall_mem_cons.2 ⟨ht, List.forall_mem_singleton.2 hu⟩
  holds D db := by
    rw [Database.isMember_iff, anyNull, Condition.outcome, ht, hu, Term.values_parameters db hi,
      Sql.either_eq_true]
    simp

lemma yields_membership_means (hs : s.Faithful good) {collection : Expr}
    (hv : value collection = .ok (.list ws)) :
    Yields good n (membership s collection (term s item))
      (Placed n fun bound c => Looks s item ws bound c) := by
  unfold membership
  apply Yields.ite Yields.throw
  refine Yields.evaluate hs fun v same => Yields.collectionItems fun values hvalues => ?_
  rw [hv, hvalues] at same
  cases same
  split
  next empty =>
    rw [List.isEmpty_iff.1 empty]
    exact Yields.placed_pure fun _ => looks_never
  next nonempty =>
    apply (yields_term_means hs item).placed_bind
    intro k operand
    dsimp only
    split
    next none =>
      exact Yields.placed_pure fun _ ht =>
        looks_isNull (by simpa using nonempty) (List.isEmpty_iff.1 none) ht
    next =>
      apply (Yields.placed_boundAll _).placed_bind
      intro k items
      cases anyNull : ws.any (·.isNullLike s.emptyStringIsNull) with
      -- The item is compiled again: its parameters are others now, but its value is the same.
      | true =>
        apply (yields_term_means hs item).placed_map
        exact fun bound again hu hi ht => looks_amongOrNull anyNull hi ht hu
      | false =>
        apply Yields.placed_pure
        exact fun bound hi ht => looks_among anyNull hi ht

section
variable {collection : Expr} (free : collection.dependsOnParameter = false)
variable (reads : item.dependsOnParameter = true)
include free reads

lemma condition_contains :
    condition s (.call .contains [collection, item]) = membership s collection (term s item) := by
  have inOrder : isSwapped collection item = false := by
    unfold isSwapped
    rw [free]
    rfl
  rw [condition, Expr.dependsOnParameter, Expr.anyDependsOnParameter, Expr.anyDependsOnParameter,
    reads, free]
  exact (callCondition_contains ..).trans (if_neg (ne_true_of_eq_false inOrder))

/-- The item may stand before the collection, unless it is a list itself. -/
lemma condition_contains_swapped (single : ∀ items, item ≠ .list items) :
    condition s (.call .contains [item, collection]) = membership s collection (term s item) := by
  have swapped : isSwapped item collection = true := by
    unfold isSwapped
    rw [reads, free]
    cases item with
    | list items => exact absurd rfl (single items)
    | _ => rfl
  rw [condition, Expr.dependsOnParameter, Expr.anyDependsOnParameter, reads]
  exact (callCondition_contains ..).trans (if_pos swapped)

lemma condition_contained :
    condition s (.invoke collection .contains [item]) = membership s collection (term s item) := by
  have chosen : targetCondition s collection .contains item =
      membership s collection (term s item) := by
    unfold targetCondition
    rw [free]
    rfl
  rw [condition, Expr.dependsOnParameter, Expr.anyDependsOnParameter, reads, free, ← chosen]
  rfl

end

end Filter

/-- Filters with one condition have one clause, and leave the cache alike. -/
lemma FilterTarget.clause_congr (t : FilterTarget) (hash : Expr → UInt64) (cache : EvaluatorCache)
    {e e' : Expr} (same : Filter.condition (t.setting (EvaluatorCache.evaluate hash)) e =
      Filter.condition (t.setting (EvaluatorCache.evaluate hash)) e') :
    t.clause hash cache e = t.clause hash cache e' := by
  unfold FilterTarget.clause FilterTarget.clauseWith
  rw [same]

open Sql (ReadsAs)

/--
Membership means membership. Something that reads the entity and is no list itself may be looked for
in a captured list in three ways, which have one clause or one error. The text of the clause reads
as its condition alone, with a mark for every bound value. What is looked for is the item, wherever
the clause has it; listed are the values that are not null to the database, in order; and in every
database and for every row the condition is true if and only if the item is in the list.
-/
theorem FilterTarget.clause_membership (t : FilterTarget) (hash : Expr → UInt64)
    {collection item : Expr} (free : collection.dependsOnParameter = false)
    (reads : item.dependsOnParameter = true) (single : ∀ items, item ≠ .list items) :
    let es := t.dialect.emptyStringIsNull
    let contains : Expr := .call .contains [collection, item]
    (∀ cache, t.clause hash cache (.call .contains [item, collection]) =
        t.clause hash cache contains ∧
      t.clause hash cache (.invoke collection .contains [item]) = t.clause hash cache contains) ∧
    ∀ (cache : EvaluatorCache) (c : Clause) (ws : List Value), cache.Reachable hash →
      value collection = .ok (.list ws) → (t.clause hash cache contains).1 = .ok c →
      (t.tableAlias = rootAlias → MarksAll c.sql c.parameters ∧
        ∀ tree, ReadsAs t.dialect c.sql tree ↔ tree = c.condition.tree c.spelling) ∧
      c.condition.listed.map (c.parameters.values[·]?) =
        (ws.filter (!·.isNullLike es)).map some ∧
      ∀ (D : Type) (db : Database D),
        let v := item.rowValue t.mapping db
        (∀ u ∈ c.condition.tested, u.value db c.parameters.values = v) ∧
          (c.condition.outcome db c.parameters.values = some true ↔ db.IsMember es v ws) := by
  intro es contains
  constructor
  · intro cache
    constructor
    · apply t.clause_congr
      rw [Filter.condition_contains_swapped free reads single, Filter.condition_contains free reads]
    · apply t.clause_congr
      rw [Filter.condition_contained free reads, Filter.condition_contains free reads]
  · intro cache c ws reachable hv hc
    have faithful := t.faithful hash
    have means := @Filter.yields_membership_means _ _ _ 0 item ws faithful collection hv
    rw [← Filter.condition_contains free reads] at means
    obtain ⟨spelled, dialect, looks⟩ := FilterTarget.clause_placed reachable.sound means hc
    refine ⟨fun standard => ?_, looks.listed, fun D db => ⟨fun u hu => looks.tested u hu D db,
      looks.holds D db⟩⟩
    rw [standard] at spelled
    obtain ⟨-, -, increasing⟩ := (FilterTarget.clause_yields reachable.sound
      (Filter.yields_condition faithful contains)).2 c hc
    have grouped := @Filter.yields_condition_reads _ _ 0 _ ⟨t.dialect, t.tableAlias⟩ faithful contains
    obtain ⟨-, -, proper, -⟩ := FilterTarget.clause_placed reachable.sound grouped hc
    have marked := marksAllBut_of_reads dialect increasing (reads_clause spelled)
    exact ⟨marked.marksAll_iff.2 rfl, fun tree => Clause.readsAs_iff spelled proper⟩

/-- A sum in a list with null is written twice and looked for among the numbers of the list. -/
theorem clause_membership_sum :
    let sum : Expr := .binary (.arithmetic .add) (.member (.parameter "x") "A")
      (.constant (.int32 5))
    let numbers : List Value := [.int32 1, .null, .int32 2]
    ∃ c, (sampleTarget.clause Expr.shapeHash (.empty 1)
        (.call .contains [.constant (.list numbers), sum])).1 = .ok c ∧
      c.sql = "((a.`A` + ?) IN (?, ?) OR (a.`A` + ?) IS NULL)" ∧
      c.parameters.values = [.int32 5, .int32 1, .int32 2, .int32 5] ∧
      MarksAll c.sql c.parameters ∧
      ∀ (D : Type) (db : Database D), c.condition.outcome db c.parameters.values = some true ↔
        db.IsMember false (sum.rowValue sampleMapping db) numbers := by
  intro sum numbers
  have reads : sum.dependsOnParameter = true := rfl
  obtain ⟨-, compiled⟩ := sampleTarget.clause_membership Expr.shapeHash
    (rfl : (Expr.constant (.list numbers)).dependsOnParameter = false) reads nofun
  obtain ⟨text, -, meaning⟩ := compiled (.empty 1) _ numbers (.empty 1) rfl rfl
  exact ⟨_, rfl, by decide, rfl, (text rfl).1, fun D db => (meaning D db).2⟩

end RelMap
