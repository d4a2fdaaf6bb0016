import RelMap.Proofs.Include.Layout
import RelMap.Proofs.Include.Tree
import Mathlib.Data.List.Induction

/-!
# What a plan joins

The rows that a database returns for a plan: the rows of the root table, extended type by type with
the rows of the joined table that match, or with nothing where none does. Nothing matches null.
-/

namespace RelMap

/-- The rows of the tables of all types, each with its values in slot order. -/
abbrev Tables := String → List (List Value)

/-- A row of joined tables: the row of each, or nothing where none matches. -/
abbrev JoinedRow := List (Option (List Value))

/-- The properties that a link compares: of the type that it leads to, and of the one before it. -/
def Link.compared? (l : Link) (parent related : EntityMapping) : Option (String × String) :=
  match l.kind with
  | .reference =>
    (parent.foreignKeys.find? (·.navigation == l.navigation)).map fun fk =>
      (fk.principalProperty, fk.property)
  | .collection _ =>
    match related.foreignKeysTo parent.entityType with
    | [fk] => some (fk.property, fk.principalProperty)
    | _ => none

namespace PlanDraft

/-- The columns of a join are those of the properties that its link compares. -/
lemma exists_compared {parent related : EntityMapping} {l : Link} {column parentColumn : String}
    (h : joinColumns parent related l.kind l.navigation = .ok (column, parentColumn)) :
    ∃ property parentProperty, l.compared? parent related = some (property, parentProperty) ∧
      related.column? property = some column ∧
      parent.column? parentProperty = some parentColumn := by
  have named {m : EntityMapping} {property c : String} (hc : joinColumn m property = .ok c) :
      m.column? property = some c := by
    unfold joinColumn EntityMapping.requireColumn at hc
    cases hm : m.column? property with
    | none => rw [hm] at hc; cases hc
    | some c' => rw [hm] at hc; cases hc; rfl
  unfold Link.compared?
  cases hk : l.kind with
  | reference =>
    rw [hk, joinColumns, referenceColumns] at h
    split at h
    next => cases h
    next fk found =>
      simp only [bind_eq_ok, pure_eq_ok] at h
      obtain ⟨c, hc, c', hc', h⟩ := h
      cases h
      exact ⟨fk.principalProperty, fk.property, by rw [found]; rfl, named hc, named hc'⟩
  | collection k =>
    rw [hk, joinColumns, collectionColumns] at h
    split at h
    next => cases h
    next fk found =>
      simp only [bind_eq_ok, pure_eq_ok] at h
      obtain ⟨c, hc, c', hc', h⟩ := h
      cases h
      exact ⟨fk.property, fk.principalProperty, by rw [found], named hc, named hc'⟩
    next => cases h

/-- Every join compares the columns of the properties that the link of its type compares. -/
def Compares (d : PlanDraft) : Prop :=
  ∀ (i : Nat) (e : PlannedEntity) (l : Link), d.entities[i + 1]? = some e → e.link = some l →
    ∃ parent property parentProperty column parentColumn,
      d.entities[l.parent]? = some parent ∧
      l.compared? parent.mapping e.mapping = some (property, parentProperty) ∧
      e.mapping.column? property = some column ∧
      parent.mapping.column? parentProperty = some parentColumn ∧
      d.joins[i]? = some (e.join parent column parentColumn)

/-- The joins of a plan compare what the links of its types compare. -/
lemma Grown.compares {r : Registry} {root : EntityMapping} {d : PlanDraft} (h : Grown r root d) :
    d.entities.length = d.joins.length + 1 ∧ d.Compares := by
  induction h with
  | root he => exact ⟨rfl, fun i e l hi => by simp at hi⟩
  | @join d place parent type related navigation kind column parentColumn entity _ hp _ hc he ih =>
    obtain ⟨_, rfl⟩ := planEntity_eq_ok he
    obtain ⟨length, compares⟩ := ih
    refine ⟨by simp [length], fun i e l hi hl => ?_⟩
    rcases getElem?_concat_eq_some.1 hi with hi | ⟨last, rfl⟩
    · obtain ⟨parent', property, parentProperty, c, c', hp', rest⟩ := compares i e l hi hl
      refine ⟨parent', property, parentProperty, c, c',
        getElem?_concat_eq_some.2 (.inl hp'), rest.1, rest.2.1, rest.2.2.1, ?_⟩
      exact getElem?_concat_eq_some.2 (.inl rest.2.2.2)
    · cases hl
      obtain ⟨property, parentProperty, compared, hc, hc'⟩ :=
        @exists_compared _ _ ⟨place, navigation, kind⟩ _ _ hc
      have place : i = d.joins.length := Nat.succ.inj (last.trans length)
      exact ⟨parent, property, parentProperty, column, parentColumn,
        getElem?_concat_eq_some.2 (.inl hp), compared, hc, hc',
        getElem?_concat_eq_some.2 (.inr ⟨place, rfl⟩)⟩

end PlanDraft

/-- Whether a row matches one of the type before it. -/
def Link.matches (l : Link) (parent related : EntityMapping) (before row : List Value) : Bool :=
  match l.compared? parent related with
  | none => false
  | some (property, parentProperty) =>
    !(related.valueOf property row).isNull &&
      decide (related.valueOf property row = parent.valueOf parentProperty before)

/-- The rows of a table that match a row of the type before it. -/
def Tables.matching (db : Tables) (l : Link) (parent related : EntityMapping)
    (before : List Value) : List (List Value) :=
  (db related.entityType).filter (l.matches parent related before)

namespace Plan

/-- The rows of a planned type that match a row of the types before it. -/
def candidates (p : Plan) (db : Tables) (row : JoinedRow) (e : PlannedEntity) (l : Link) :
    List (List Value) :=
  match p.entities[l.parent]?, (row[l.parent]?).join with
  | some parent, some before => db.matching l parent.mapping e.mapping before
  | _, _ => []

/-- What a planned type adds to a row of the types before it; there is always something. -/
def extensions (p : Plan) (db : Tables) (row : JoinedRow) (e : PlannedEntity) : JoinedRow :=
  match e.link with
  | none => (db e.mapping.entityType).map some
  | some l =>
    match p.candidates db row e l with
    | [] => [none]
    | rows => rows.map some

/-- The rows of several types joined one after the other. -/
def joinAll (p : Plan) (db : Tables) (es : List PlannedEntity) : List JoinedRow :=
  es.foldl (fun rows e => rows.flatMap fun row => (p.extensions db row e).map (row ++ [·])) [[]]

/-- The rows that a plan joins. -/
def leftJoin (p : Plan) (db : Tables) : List JoinedRow := p.joinAll db p.entities

/-- A joined row in the order of the columns; where there is no row, all is null. -/
def flat (p : Plan) (row : JoinedRow) : List Value :=
  p.arrange ((p.entities.zip row).map fun (e, values) =>
    values.getD (List.replicate e.mapping.slotCount .null))

/-- The rows of a planned type that are reached from the rows of the root table. -/
inductive Reached (p : Plan) (db : Tables) : Nat → List Value → Prop where
  | root {e row} :
    p.entities[0]? = some e →
    row ∈ db e.mapping.entityType →
    Reached p db 0 row
  | join {i e l parent before row} :
    p.entities[i]? = some e →
    e.link = some l →
    p.entities[l.parent]? = some parent →
    Reached p db l.parent before →
    row ∈ db.matching l parent.mapping e.mapping before →
    Reached p db i row

variable {p : Plan} {db : Tables} {row : JoinedRow} {es : List PlannedEntity} {e : PlannedEntity}

/-- One more type adds something to every row of the types before it. -/
lemma mem_joinAll_concat : row ∈ p.joinAll db (es ++ [e]) ↔
    ∃ front ∈ p.joinAll db es, ∃ values ∈ p.extensions db front e, front ++ [values] = row := by
  simp [joinAll, List.foldl_append]

/-- A row of several types is put together of what each of them adds to those before it. -/
lemma mem_joinAll : row ∈ p.joinAll db es ↔ row.length = es.length ∧
    ∀ (i : Nat) (e : PlannedEntity), es[i]? = some e →
      ∃ values ∈ p.extensions db (row.take i) e, row[i]? = some values := by
  -- By induction on the types from the end, where the join adds them.
  induction es using List.reverseRecOn generalizing row with
  | nil => simp [joinAll]
  | append_singleton es e ih =>
    rw [mem_joinAll_concat]
    constructor
    · rintro ⟨front, hf, values, hv, rfl⟩
      obtain ⟨length, each⟩ := ih.1 hf
      refine ⟨by simp [length], fun i e' hi => ?_⟩
      rcases getElem?_concat_eq_some.1 hi with hi | ⟨rfl, rfl⟩
      · obtain ⟨values', hv', eq⟩ := each i e' hi
        have lt := (List.getElem?_eq_some_iff.1 eq).1
        rw [List.take_append_of_le_length (Nat.le_of_lt lt), List.getElem?_append_left lt]
        exact ⟨values', hv', eq⟩
      · refine ⟨values, ?_, ?_⟩
        · rwa [← length, List.take_left]
        · rw [← length, List.getElem?_concat_length]
    · rintro ⟨length, each⟩
      rcases List.eq_nil_or_concat row with rfl | ⟨front, last, rfl⟩
      · simp at length
      · rw [List.concat_eq_append] at length each ⊢
        have width : front.length = es.length := by simpa using length
        obtain ⟨values, hv, eq⟩ := each es.length e List.getElem?_concat_length
        rw [← width, List.getElem?_concat_length, Option.some.injEq] at eq
        rw [← width, List.take_left] at hv
        refine ⟨front, ih.2 ⟨width, fun i e' hi => ?_⟩, values, hv, by rw [eq]⟩
        have lt : i < front.length := width ▸ (List.getElem?_eq_some_iff.1 hi).1
        obtain ⟨values', hv', eq'⟩ := each i e' (getElem?_concat_eq_some.2 (.inl hi))
        rw [List.take_append_of_le_length (Nat.le_of_lt lt)] at hv'
        rw [List.getElem?_append_left lt] at eq'
        exact ⟨values', hv', eq'⟩

/-- A joined type always adds something. -/
lemma extensions_ne_nil {l : Link} (h : e.link = some l) : p.extensions db row e ≠ [] := by
  rw [extensions, h]
  dsimp only
  split
  next => exact List.cons_ne_nil _ _
  next matched => exact fun unmatched => matched (List.map_eq_nil_iff.1 unmatched)

/-- A row of several types is the beginning of a row of these and more joined types. -/
lemma exists_mem_joinAll_append {more : List PlannedEntity} (joined : ∀ e ∈ more, e.link.isSome)
    (h : row ∈ p.joinAll db es) : ∃ rest, row ++ rest ∈ p.joinAll db (es ++ more) := by
  induction more using List.reverseRecOn with
  | nil => exact ⟨[], by simpa using h⟩
  | append_singleton more e ih =>
    obtain ⟨rest, hr⟩ := ih fun e' he' => joined e' (List.mem_append_left _ he')
    obtain ⟨l, hl⟩ := Option.isSome_iff_exists.1 (joined e (by simp))
    obtain ⟨values, others, hv⟩ := List.exists_cons_of_ne_nil
      (@extensions_ne_nil p db (row ++ rest) e l hl)
    refine ⟨rest ++ [values], ?_⟩
    rw [← List.append_assoc, mem_joinAll_concat]
    exact ⟨row ++ rest, hr, values, by rw [hv]; exact List.mem_cons_self .., by simp⟩

/-- The beginning of a row is a row of the types at the beginning. -/
lemma take_mem_joinAll (h : row ∈ p.joinAll db es) (i : Nat) :
    row.take i ∈ p.joinAll db (es.take i) := by
  obtain ⟨length, each⟩ := mem_joinAll.1 h
  refine mem_joinAll.2 ⟨by simp [length], fun j e hj => ?_⟩
  rw [List.getElem?_take] at hj
  split at hj
  next lt =>
    obtain ⟨values, hv, eq⟩ := each j e hj
    refine ⟨values, ?_, ?_⟩
    · rwa [List.take_take, Nat.min_eq_left (Nat.le_of_lt lt)]
    · rwa [List.getElem?_take_of_lt lt]
  next => cases hj

section
variable {r : Registry} {root : EntityMapping} {i : Nat} {values : Option (List Value)}
variable {l : Link} {x before : List Value} {parent : PlannedEntity}

/-- What a type adds to a row that goes through is in a row of the plan. -/
lemma exists_mem_leftJoin (grown : PlanDraft.Grown r root ⟨p.entities, p.joins⟩)
    (h : row ∈ p.joinAll db (p.entities.take i)) (hi : p.entities[i]? = some e)
    (hv : values ∈ p.extensions db row e) :
    ∃ row' ∈ p.leftJoin db, row'.take i = row ∧ row'[i]? = some values := by
  have later : ∀ e' ∈ p.entities.drop (i + 1), e'.link.isSome := by
    intro e' he'
    obtain ⟨n, hn⟩ := List.getElem?_of_mem he'
    rw [List.getElem?_drop, Nat.add_right_comm] at hn
    exact grown.isSome_link hn
  -- The row goes on with what the type adds, and from there on with whatever the others add.
  have next : row ++ [values] ∈ p.joinAll db (p.entities.take (i + 1)) := by
    rw [List.take_add_one, hi, Option.toList_some, mem_joinAll_concat]
    exact ⟨row, h, values, hv, rfl⟩
  obtain ⟨more, hm⟩ := exists_mem_joinAll_append later next
  rw [List.take_append_drop] at hm
  have width : row.length = i := by
    rw [(mem_joinAll.1 h).1, List.length_take,
      Nat.min_eq_left (Nat.le_of_lt (List.getElem?_eq_some_iff.1 hi).1)]
  refine ⟨_, hm, ?_, ?_⟩
  · rw [List.append_assoc, ← width, List.take_left]
  · rw [List.append_assoc, ← width, List.getElem?_append_right (Nat.le_refl _), Nat.sub_self]
    rfl

/-- What a type adds depends on the types before it only. -/
lemma extensions_take (nested : ∀ l, e.link = some l → l.parent < i) :
    p.extensions db (row.take i) e = p.extensions db row e := by
  unfold extensions
  cases hl : e.link with
  | none => rfl
  | some l =>
    dsimp only
    rw [candidates, candidates, List.getElem?_take_of_lt (nested l hl)]

/-- A row of a plan has of every type what this type adds to the row. -/
lemma mem_leftJoin (grown : PlanDraft.Grown r root ⟨p.entities, p.joins⟩) :
    row ∈ p.leftJoin db ↔ row.length = p.entities.length ∧
      ∀ (i : Nat) (e : PlannedEntity), p.entities[i]? = some e →
        ∃ values ∈ p.extensions db row e, row[i]? = some values := by
  rw [leftJoin, mem_joinAll]
  refine and_congr_right fun _ => forall_congr' fun i => forall_congr' fun e =>
    imp_congr_right fun hi => ?_
  rw [extensions_take fun l hl => grown.parent_lt hi hl]

/-- The candidates of a type are the rows that match the one of the type before it. -/
lemma candidates_eq (hp : p.entities[l.parent]? = some parent)
    (hb : row[l.parent]? = some (some before)) :
    p.candidates db row e l = db.matching l parent.mapping e.mapping before := by
  rw [candidates, hp, hb]
  rfl

/-- A joined type adds the rows that match, if any. -/
lemma some_mem_extensions (hl : e.link = some l) :
    some x ∈ p.extensions db row e ↔ x ∈ p.candidates db row e l := by
  rw [extensions, hl]
  dsimp only
  split
  next unmatched => simp [unmatched]
  next => simp

/-- What is reached from the rows of the root table is in a row of the plan. -/
lemma Reached.exists_mem_leftJoin (grown : PlanDraft.Grown r root ⟨p.entities, p.joins⟩)
    (h : p.Reached db i x) : ∃ row ∈ p.leftJoin db, row[i]? = some (some x) := by
  induction h with
  | @root e row he hr =>
    obtain ⟨first, hfirst, _, link⟩ := grown.first
    cases he.symm.trans hfirst
    have added : some row ∈ p.extensions db [] e := by
      rw [extensions, link]
      exact List.mem_map_of_mem hr
    have start : [] ∈ p.joinAll db (p.entities.take 0) := List.mem_singleton_self _
    obtain ⟨row', hrow, _, eq⟩ := Plan.exists_mem_leftJoin grown start he added
    exact ⟨row', hrow, eq⟩
  | @join i e l parent before x he hl hp _ hx ih =>
    obtain ⟨row, hrow, hb⟩ := ih
    have added : some x ∈ p.extensions db (row.take i) e := by
      rw [extensions_take fun l hl => grown.parent_lt he hl, some_mem_extensions hl,
        candidates_eq hp hb]
      exact hx
    obtain ⟨row', hrow', _, eq⟩ :=
      Plan.exists_mem_leftJoin grown (take_mem_joinAll hrow i) he added
    exact ⟨row', hrow', eq⟩

/-- What is in a row of a plan matches what the row has of the type before it. -/
lemma exists_before (grown : PlanDraft.Grown r root ⟨p.entities, p.joins⟩)
    (h : row ∈ p.leftJoin db) (hi : p.entities[i]? = some e) (hl : e.link = some l)
    (hx : row[i]? = some (some x)) :
    ∃ parent before, p.entities[l.parent]? = some parent ∧
      row[l.parent]? = some (some before) ∧
      x ∈ db.matching l parent.mapping e.mapping before := by
  obtain ⟨values, hv, eq⟩ := (mem_leftJoin grown).1 h |>.2 i e hi
  rw [hx, Option.some.injEq] at eq
  subst eq
  rw [some_mem_extensions hl] at hv
  unfold candidates at hv
  split at hv
  next parent before hp hb => exact ⟨parent, before, hp, Option.join_eq_some_iff.1 hb, hv⟩
  next => cases hv

/-- What is in a row of a plan is a row of its table, reached from the rows of the root table. -/
lemma reached_of_mem_leftJoin (grown : PlanDraft.Grown r root ⟨p.entities, p.joins⟩)
    (h : row ∈ p.leftJoin db) (hi : p.entities[i]? = some e) (hx : row[i]? = some (some x)) :
    x ∈ db e.mapping.entityType ∧ p.Reached db i x := by
  induction i using Nat.strongRecOn generalizing e x with
  | ind i ih =>
    cases hl : e.link with
    | some l =>
      obtain ⟨parent, before, hp, hb, hm⟩ := exists_before grown h hi hl hx
      obtain ⟨_, reached⟩ := ih l.parent (grown.parent_lt hi hl) hp hb
      exact ⟨(List.mem_filter.1 hm).1, .join hi hl hp reached hm⟩
    | none =>
      obtain ⟨values, hv, eq⟩ := (mem_leftJoin grown).1 h |>.2 i e hi
      rw [hx, Option.some.injEq] at eq
      subst eq
      rw [extensions, hl] at hv
      have stored : x ∈ db e.mapping.entityType := by simpa using hv
      cases i with
      | zero => exact ⟨stored, .root hi stored⟩
      | succ i =>
        have linked := grown.isSome_link hi
        rw [hl] at linked
        cases linked

end

end Plan

end RelMap
