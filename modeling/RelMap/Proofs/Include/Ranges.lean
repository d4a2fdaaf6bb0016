import RelMap.Proofs.Include.Join
import RelMap.Proofs.Include.Places

/-!
# Ranges of columns

The columns of the types of a plan lie one range behind the other, and the text of the statement
selects them in this order.
-/

namespace RelMap

namespace Plan

variable {p : Plan} {es : List PlannedEntity} {e : PlannedEntity} {i : Nat}

lemma offset_succ (he : es[i]? = some e) :
    offset es (i + 1) = offset es i + e.mapping.slotCount := by
  have taken : es.take (i + 1) = es.take i ++ [e] := by
    rw [List.take_add_one, he]
    rfl
  rw [offset, taken, List.flatMap_append, List.length_append, List.flatMap_singleton,
    e.length_columns, offset]

/-- Behind the columns of all types there is none. -/
lemma offset_length (es : List PlannedEntity) :
    offset es es.length = (es.flatMap (·.columns)).length := by
  rw [offset, List.take_length]

end Plan

namespace PlanDraft

variable {r : Registry} {root : EntityMapping}

/-- The columns of a type stand behind those of all types before it. -/
lemma Grown.start_eq {d : PlanDraft} (h : Grown r root d) {i : Nat} {e : PlannedEntity}
    (hi : d.entities[i]? = some e) : e.start = Plan.offset d.entities i := by
  induction h generalizing i e with
  | root he =>
    obtain ⟨_, rfl⟩ := planEntity_eq_ok he
    rcases getElem?_concat_eq_some (l := []).1 hi with hi | ⟨rfl, rfl⟩
    · cases hi
    · rfl
  | @join d _ _ _ _ _ _ _ _ entity grown _ _ _ he ih =>
    obtain ⟨_, rfl⟩ := planEntity_eq_ok he
    rcases getElem?_concat_eq_some.1 hi with hi | ⟨rfl, rfl⟩
    · have le : i ≤ d.entities.length := Nat.le_of_lt (List.getElem?_eq_some_iff.1 hi).1
      rw [ih hi, Plan.offset, Plan.offset, List.take_append_of_le_length le]
    · rw [Plan.offset, List.take_left, width]

end PlanDraft

namespace PlannedEntity

variable {e : PlannedEntity}

/--
The columns of a type are named for its alias and its properties, each once. The first of them is
that of the first key property, or of the first property where there is no key.
-/
lemma columns_eq_map (named : e.IsNamed) :
    ∃ first rest, (e.mapping.keys.head? <|> e.mapping.propertyNames.head?) = some first ∧
      (first :: rest).Perm e.mapping.propertyNames ∧
      e.columns = (first :: rest).map (columnAlias e.tableAlias) := by
  obtain ⟨p, rest, selected, name⟩ := EntityMapping.selectedProperties_eq_cons named.2
  have perm : e.mapping.selectedProperties.Perm e.mapping.properties :=
    List.filter_append_perm ..
  refine ⟨p.name, rest.map (·.name), ?_, ?_, ?_⟩
  · obtain ⟨q, qs, hq⟩ := List.exists_cons_of_ne_nil named.2
    rw [name, EntityMapping.splitProperty, EntityMapping.firstKey?, MappingDraft.propertyNames, hq]
    cases e.mapping.keys <;> rfl
  · rw [← List.map_cons, ← selected]
    exact perm.map _
  · rw [columns, selected, ← List.map_cons, List.map_map]
    rfl

lemma length_selectItems (d : Dialect) (e : PlannedEntity) :
    (e.selectItems d).length = e.columns.length := by
  rw [selectItems_eq, columns, List.length_map, List.length_map]

/-- There are as many items as columns. -/
lemma length_flatMap_selectItems (d : Dialect) (es : List PlannedEntity) :
    (es.flatMap (selectItems d)).length = (es.flatMap (·.columns)).length := by
  simp only [List.length_flatMap, length_selectItems]

end PlannedEntity

namespace Plan

variable {p : Plan} {r : Registry} {root : EntityMapping}

/-- The ranges of the types' columns follow each other, and make up all columns. -/
structure Partitioned (p : Plan) : Prop where
  /-- The range of the first type begins at the first column. -/
  first : ∀ e, p.entities[0]? = some e → e.start = 0
  /-- The range of every other type begins where the one before it ends. -/
  next : ∀ i e e', p.entities[i]? = some e → p.entities[i + 1]? = some e' → e'.start = e.stop
  /-- The range of the last type ends with the last column. -/
  last : ∀ e, p.entities.getLast? = some e → e.stop = p.columns.length
  /-- No range is empty. -/
  nonempty : ∀ e ∈ p.entities, e.start < e.stop
  /-- The columns of a range are named for the properties of its type, the key before all others. -/
  listed : ∀ e ∈ p.entities, ∃ first rest,
    (e.mapping.keys.head? <|> e.mapping.propertyNames.head?) = some first ∧
      (first :: rest).Perm e.mapping.propertyNames ∧ (first :: rest).Nodup ∧
      (p.columns.drop e.start).take (e.stop - e.start) =
        (first :: rest).map (columnAlias e.tableAlias)
  /-- Rows are split where the ranges of the types behind the first begin. -/
  splits : p.splitPoints.map some = p.entities.tail.map (p.columns[·.start]?)
  /-- No two columns have the same name. -/
  distinct : p.columns.Nodup

lemma partitioned (grown : PlanDraft.Grown r root ⟨p.entities, p.joins⟩) : p.Partitioned := by
  obtain ⟨named, _⟩ := grown.named
  -- The range of a type holds its own columns.
  have range {i : Nat} {e : PlannedEntity} (he : p.entities[i]? = some e) :
      (p.columns.drop e.start).take (e.stop - e.start) = e.columns := by
    rw [PlannedEntity.stop, Nat.add_sub_cancel_left, grown.start_eq he, ← e.length_columns]
    rw [p.columns_eq]
    exact take_drop_flatMap he
  constructor
  · intro e he
    exact grown.start_eq he
  · intro i e e' he he'
    rw [grown.start_eq he', PlannedEntity.stop, grown.start_eq he]
    exact offset_succ he
  · intro e he
    rw [List.getLast?_eq_getElem?] at he
    have some : p.entities.length ≠ 0 := by
      intro none
      rw [List.length_eq_zero_iff.1 none] at he
      cases he
    rw [PlannedEntity.stop, grown.start_eq he]
    refine (offset_succ he).symm.trans ?_
    rw [Nat.sub_add_cancel (Nat.one_le_iff_ne_zero.2 some), offset_length, p.columns_eq]
  · intro e he
    exact Nat.lt_add_of_pos_right (List.length_pos_iff.2 (named e he).2)
  · intro e he
    obtain ⟨i, hi⟩ := List.getElem?_of_mem he
    obtain ⟨first, rest, split, perm, columns⟩ := PlannedEntity.columns_eq_map (named e he)
    exact ⟨first, rest, split, perm, perm.nodup_iff.2 e.mapping.nodup_propertyNames,
      (range hi).trans columns⟩
  · rw [splitPoints_eq grown, List.map_map]
    apply List.map_congr_left
    intro e he
    obtain ⟨i, hi⟩ := List.getElem?_of_mem (List.mem_of_mem_tail he)
    obtain ⟨rest, columns⟩ := PlannedEntity.columns_eq_cons (named e (List.mem_of_mem_tail he))
    have here := @getElem?_flatMap _ _ p.entities (·.columns) i 0 e hi (by rw [columns]; simp)
    rw [Nat.add_zero, columns] at here
    rw [Function.comp_apply, grown.start_eq hi, p.columns_eq]
    exact here.symm
  · exact nodup_columns grown

/-- The statement of a plan selects its columns in order, and joins all types but the root. -/
structure Selects (p : Plan) (items joins : List String) : Prop where
  /-- The items are selected from the table of the root and the joined ones. -/
  text : p.sql = Text.joined " " (("SELECT " ++ Text.joined ", " items ++ " FROM " ++
    p.dialect.qualify p.root.schema p.root.table ++ " a") :: joins)
  /-- There is an item for every column. -/
  width : items.length = p.columns.length
  /-- An item reads the column of its property from its type, and gives it the column's name. -/
  item : ∀ k c, p.columns[k]? = some c → ∃ e ∈ p.entities, ∃ q ∈ e.mapping.properties,
    e.start ≤ k ∧ k < e.stop ∧ c = columnAlias e.tableAlias q.name ∧
      items[k]? =
        some (e.tableAlias ++ "." ++ p.dialect.quote q.column ++ " AS " ++ p.dialect.quote c)
  /-- There is a join for every type but the root. -/
  count : p.entities.length = joins.length + 1
  /-- A join compares the columns of the properties that its navigation relates. -/
  join : ∀ i e, p.entities[i + 1]? = some e →
    ∃ l parent property parentProperty column parentColumn,
      e.link = some l ∧ p.entities[l.parent]? = some parent ∧
      l.compared? parent.mapping e.mapping = some (property, parentProperty) ∧
      e.mapping.column? property = some column ∧
      parent.mapping.column? parentProperty = some parentColumn ∧
      joins[i]? = some ("LEFT JOIN " ++ p.dialect.qualify e.mapping.schema e.mapping.table ++ " " ++
        e.tableAlias ++ " ON " ++ e.tableAlias ++ "." ++ p.dialect.quote column ++ " = " ++
        parent.tableAlias ++ "." ++ p.dialect.quote parentColumn)

lemma selects (grown : PlanDraft.Grown r root ⟨p.entities, p.joins⟩) :
    ∃ items joins, p.Selects items joins := by
  obtain ⟨count, compares⟩ := grown.compares
  refine ⟨p.items, p.joins.map (Join.sql p.dialect), ?_, ?_, ?_, ?_, ?_⟩
  · rw [sql, rootAlias]
    simp only [String.append_assoc]
    rfl
  · rw [p.items_eq, p.columns_eq, PlannedEntity.length_flatMap_selectItems]
  · intro k c hc
    rw [p.columns_eq] at hc
    obtain ⟨i, e, j, he, hj, rfl⟩ := exists_place_flatMap (List.getElem?_eq_some_iff.1 hc).1
    have start : e.start = offset p.entities i := grown.start_eq he
    rw [getElem?_flatMap he hj, PlannedEntity.columns, List.getElem?_map,
      Option.map_eq_some_iff] at hc
    obtain ⟨q, hq, rfl⟩ := hc
    refine ⟨e, List.mem_of_getElem? he, q,
      EntityMapping.mem_selectedProperties.1 (List.mem_of_getElem? hq), ?_, ?_, rfl, ?_⟩
    · rw [start]
      exact Nat.le_add_right ..
    · rw [e.length_columns] at hj
      rw [PlannedEntity.stop, start]
      exact Nat.add_lt_add_left hj _
    · rw [p.items_eq, ← PlannedEntity.length_flatMap_selectItems p.dialect,
        getElem?_flatMap he (by rwa [PlannedEntity.length_selectItems]),
        PlannedEntity.selectItems_eq, List.getElem?_map, hq]
      rfl
  · rw [List.length_map]
    exact count
  · intro i e he
    obtain ⟨l, hl⟩ := Option.isSome_iff_exists.1 (grown.isSome_link he)
    obtain ⟨parent, property, parentProperty, column, parentColumn, hp, compared, hc, hc', hj⟩ :=
      compares i e l he hl
    refine ⟨l, parent, property, parentProperty, column, parentColumn, hl, hp, compared, hc,
      hc', ?_⟩
    rw [List.getElem?_map, hj]
    rfl

end Plan

end RelMap
