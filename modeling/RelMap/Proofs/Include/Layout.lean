import RelMap.Include.Row
import RelMap.Proofs.Include.Columns

/-!
# Rows in the order of a plan's columns

Values of all types of a plan, put into one row in the order of the plan's own columns, are what the
layout of these columns splits the row into.
-/

namespace RelMap

/-- The value of a property among values in slot order. -/
def EntityMapping.valueOf (m : EntityMapping) (property : String) (values : List Value) : Value :=
  ((m.slot? property).bind (values[·]?)).getD .null

/-- Values in slot order, put in the order of the columns. -/
def EntityMapping.arrange (m : EntityMapping) (values : List Value) : List Value :=
  m.selectedProperties.map fun p => m.valueOf p.name values

/-- Values of several types, each in slot order, put one after the other. -/
def arrangeParts (es : List PlannedEntity) (parts : List (List Value)) : List Value :=
  (es.zip parts).flatMap fun (e, values) => e.mapping.arrange values

/-- The row of a plan that holds the given values of every type. -/
def Plan.arrange (p : Plan) (parts : List (List Value)) : List Value :=
  arrangeParts p.entities parts

/-- The slots of a type in the order of its columns. -/
def EntityMapping.selectedSlots (m : EntityMapping) : List Nat :=
  m.selectedProperties.filterMap fun p => m.slot? p.name

namespace EntityMapping

variable {m : EntityMapping} {values : List Value}

/-- Every slot has a column. -/
lemma mem_selectedSlots {i : Nat} : i ∈ m.selectedSlots ↔ i < m.slotCount := by
  constructor
  · intro hi
    obtain ⟨p, _, hp⟩ := List.mem_filterMap.1 hi
    exact lt_of_getElem?_propertyNames (getElem?_of_slot? hp)
  · intro lt
    have lt' : i < m.propertyNames.length := m.length_propertyNames.symm ▸ lt
    refine List.mem_filterMap.2 ⟨m.properties[i], mem_selectedProperties.2 (List.getElem_mem _), ?_⟩
    have named : m.properties[i].name = m.propertyNames[i] := (List.getElem_map _).symm
    rw [named, slot?_getElem lt']

/-- Arranged values are those of the selected slots. -/
lemma arrange_eq_map (m : EntityMapping) (values : List Value) :
    m.arrange values = m.selectedSlots.map fun i => values[i]?.getD .null := by
  have each (ps : List Property) (h : ∀ p ∈ ps, p ∈ m.properties) :
      (ps.map fun p => m.valueOf p.name values) =
        (ps.filterMap fun p => m.slot? p.name).map fun i => values[i]?.getD .null := by
    induction ps with
    | nil => rfl
    | cons p ps ih =>
      obtain ⟨i, hi⟩ := exists_slot? (h p (List.mem_cons_self ..))
      rw [List.map_cons, valueOf, List.filterMap_cons, hi, List.map_cons,
        ih fun q hq => h q (List.mem_cons_of_mem _ hq)]
      rfl
  exact each m.selectedProperties fun p hp => mem_selectedProperties.1 hp

lemma length_arrange (m : EntityMapping) (values : List Value) :
    (m.arrange values).length = m.slotCount := by
  rw [arrange, List.length_map, length_selectedProperties]

end EntityMapping

namespace FragmentLayout

/-- Filling slots does not change how many there are. -/
lemma length_fill (slots : List Value) (pairs : List (Nat × Value)) :
    (fill slots pairs).length = slots.length := by
  induction pairs generalizing slots with
  | nil => rfl
  | cons pair pairs ih => rw [fill, ih, List.length_set]

/-- A slot for which there is no value stays as it is. -/
lemma getElem?_fill_of_notMem {slots : List Value} {pairs : List (Nat × Value)} {i : Nat}
    (h : ∀ v, (i, v) ∉ pairs) : (fill slots pairs)[i]? = slots[i]? := by
  induction pairs generalizing slots with
  | nil => rfl
  | cons pair pairs ih =>
    have apart : pair.1 ≠ i := by
      rintro rfl
      exact h pair.2 (List.mem_cons_self ..)
    rw [fill, ih fun v hv => h v (List.mem_cons_of_mem _ hv), List.getElem?_set_ne apart]

/-- A slot for which there is one value only holds that value. -/
lemma getElem?_fill_of_mem {slots : List Value} {pairs : List (Nat × Value)} {i : Nat}
    {v : Value} (hi : i < slots.length) (h : (i, v) ∈ pairs)
    (only : ∀ v', (i, v') ∈ pairs → v' = v) : (fill slots pairs)[i]? = some v := by
  induction pairs generalizing slots with
  | nil => cases h
  | cons pair pairs ih =>
    have only' : ∀ v', (i, v') ∈ pairs → v' = v := fun v' hv => only v' (List.mem_cons_of_mem _ hv)
    rw [fill]
    by_cases later : (i, v) ∈ pairs
    · exact ih (by rwa [List.length_set]) later only'
    · rcases List.mem_cons.1 h with rfl | h
      · have none : ∀ v', (i, v') ∉ pairs := fun v' hv => later (only' v' hv ▸ hv)
        rw [getElem?_fill_of_notMem none, List.getElem?_set_self hi]
      · exact absurd h later

/-- Slots filled with the values of their places hold these values. -/
lemma getElem?_fill (values slots : List Value) (places : List Nat) {i : Nat}
    (hi : i < slots.length) :
    (fill slots (places.map fun j => (j, values[j]?.getD .null)))[i]? =
      if i ∈ places then some (values[i]?.getD .null) else slots[i]? := by
  split
  next here =>
    apply getElem?_fill_of_mem hi (List.mem_map.2 ⟨i, here, rfl⟩)
    intro v hv
    obtain ⟨_, _, pair⟩ := List.mem_map.1 hv
    cases pair
    rfl
  next absent =>
    apply getElem?_fill_of_notMem
    intro v hv
    obtain ⟨_, hj, pair⟩ := List.mem_map.1 hv
    cases pair
    exact absent hj

/-- A part of a row that was arranged in the order of its columns is found again. -/
lemma fragment_arrange {m : EntityMapping} {values row rest : List Value} {start : Nat}
    (length : values.length = m.slotCount) (h : row.drop start = m.arrange values ++ rest) :
    fragment ⟨start, m.selectedSlots, m.slotCount⟩ row = ⟨values⟩ := by
  have pairs : m.selectedSlots.zip (row.drop start) =
      m.selectedSlots.map fun i => (i, values[i]?.getD .null) := by
    rw [h, EntityMapping.arrange_eq_map]
    have cut := @List.zip_append _ _ m.selectedSlots []
      (m.selectedSlots.map fun i => values[i]?.getD .null) rest (by rw [List.length_map])
    rw [List.append_nil, List.zip_nil_left, List.append_nil] at cut
    rw [cut, List.zip_map_right, List.zip_eq_zipWith, List.zipWith_self, List.map_map]
    rfl
  rw [fragment, pairs, Fragment.mk.injEq]
  refine List.ext_getElem? fun i => ?_
  -- Every slot has a column, so that nothing is left of the nulls that the filling began with.
  rcases Nat.lt_or_ge i m.slotCount with lt | ge
  · rw [getElem?_fill _ _ _ (by simpa using lt), if_pos (EntityMapping.mem_selectedSlots.2 lt),
      List.getElem?_eq_getElem (length.symm ▸ lt), Option.getD_some]
  · rw [List.getElem?_eq_none (by simpa [length_fill] using ge),
      List.getElem?_eq_none (length.symm ▸ ge)]

end FragmentLayout

namespace Plan

variable {root : String} {e : PlannedEntity}

/-- The slots of a type's own columns. -/
lemma columnSlots_columns (h : e.IsNamed) :
    columnSlots root e e.columns = .ok e.mapping.selectedSlots := by
  have each (ps : List Property) (hps : ∀ p ∈ ps, p ∈ e.mapping.properties) :
      columnSlots root e (ps.map fun p => columnAlias e.tableAlias p.name) =
        .ok (ps.filterMap fun p => e.mapping.slot? p.name) := by
    induction ps with
    | nil => rfl
    | cons p ps ih =>
      obtain ⟨i, hi⟩ := EntityMapping.exists_slot? (hps p (List.mem_cons_self ..))
      have slot : columnSlot root e (columnAlias e.tableAlias p.name) = .ok i := by
        simp only [columnSlot, PlannedEntity.cut?_columnAlias h, if_pos, ok_bind, hi]
      rw [List.map_cons, columnSlots, slot, ok_bind,
        ih fun q hq => hps q (List.mem_cons_of_mem _ hq), List.filterMap_cons, hi]
      rfl
  exact each e.mapping.selectedProperties fun p hp => EntityMapping.mem_selectedProperties.1 hp

/-- Where the parts of types begin, the first of them at a given place, and where the last ends. -/
def bounds (start : Nat) : List PlannedEntity → List Nat
  | [] => [start]
  | e :: es => start :: bounds (start + e.mapping.slotCount) es

/-- The layouts of types whose columns follow each other from a given place on. -/
def layouts (start : Nat) : List PlannedEntity → List FragmentLayout
  | [] => []
  | e :: es =>
    ⟨start, e.mapping.selectedSlots, e.mapping.slotCount⟩ ::
      layouts (start + e.mapping.slotCount) es

/-- The part of the next type begins behind the columns of the last one. -/
lemma indexFrom_splitColumn {e' : PlannedEntity} (h : e.IsNamed) (h' : e'.IsNamed)
    (apart : e.tableAlias ≠ e'.tableAlias) (front rest : List String) :
    indexFrom (front ++ (e.columns ++ (e'.columns ++ rest))) (front.length + 1) e'.splitColumn =
      some (front.length + e.mapping.slotCount) := by
  obtain ⟨cs, hcs⟩ := PlannedEntity.columns_eq_cons h
  obtain ⟨ds, hds⟩ := PlannedEntity.columns_eq_cons h'
  have absent : e'.splitColumn ∉ cs := fun hc =>
    PlannedEntity.columnAlias_notMem_columns h h' apart _ (hcs ▸ List.mem_cons_of_mem _ hc)
  have width : cs.length + 1 = e.mapping.slotCount := by
    rw [← e.length_columns, hcs, List.length_cons]
  -- Searching begins behind the first column of the type before.
  have dropped : (front ++ (e.columns ++ (e'.columns ++ rest))).drop (front.length + 1) =
      cs ++ e'.splitColumn :: (ds ++ rest) := by
    rw [List.drop_append, hcs, hds]
    simp
  have found : (cs ++ e'.splitColumn :: (ds ++ rest)).findIdx? (· == e'.splitColumn) =
      some cs.length := by
    have none : cs.findIdx? (· == e'.splitColumn) = none := by
      rw [List.findIdx?_eq_none_iff]
      exact fun c hc => beq_eq_false_iff_ne.2 fun same => absent (same ▸ hc)
    simp [List.findIdx?_append, none, List.findIdx?_cons]
  rw [indexFrom, dropped, found, Option.map_some, ← width, Nat.add_assoc, Nat.add_comm 1]

/-- The parts of the types behind the first begin where their columns do. -/
lemma boundaries_columns {es : List PlannedEntity} (named : ∀ e' ∈ e :: es, e'.IsNamed)
    (apart : (e :: es).Pairwise (·.tableAlias ≠ ·.tableAlias)) (front : List String) :
    ∃ starts, boundaries (front ++ (e :: es).flatMap (·.columns)) front.length
        (es.map (·.splitColumn)) = .ok starts ∧
      front.length :: starts ++ [front.length + ((e :: es).flatMap (·.columns)).length] =
        bounds front.length (e :: es) := by
  induction es generalizing e front with
  | nil =>
    refine ⟨[], rfl, ?_⟩
    simp [bounds, e.length_columns]
  | cons e' es ih =>
    have named' : ∀ e'' ∈ e' :: es, e''.IsNamed := fun e'' h =>
      named e'' (List.mem_cons_of_mem _ h)
    obtain ⟨first, later⟩ := List.pairwise_cons.1 apart
    obtain ⟨starts, found, bound⟩ := ih named' later (front ++ e.columns)
    have next := indexFrom_splitColumn (named e (List.mem_cons_self ..))
      (named' e' (List.mem_cons_self ..)) (first e' (List.mem_cons_self ..)) front
      (es.flatMap (·.columns))
    rw [List.length_append, e.length_columns] at found bound
    rw [List.append_assoc] at found
    refine ⟨(front.length + e.mapping.slotCount) :: starts, ?_, ?_⟩
    · rw [List.map_cons, boundaries, List.flatMap_cons, List.flatMap_cons, next]
      dsimp only
      rw [← List.flatMap_cons, found]
      rfl
    · rw [bounds, ← bound, List.flatMap_cons, List.length_append, e.length_columns]
      simp [Nat.add_assoc]

/-- The layouts of types in the order of their own columns. -/
lemma fragmentLayouts_columns {es : List PlannedEntity} (named : ∀ e ∈ es, e.IsNamed)
    (front : List String) :
    fragmentLayouts root (front ++ es.flatMap (·.columns)) es (bounds front.length es) =
      .ok (layouts front.length es) := by
  induction es generalizing front with
  | nil => rfl
  | cons e es ih =>
    obtain ⟨more, hb⟩ : ∃ more, bounds (front.length + e.mapping.slotCount) es =
        (front.length + e.mapping.slotCount) :: more := by
      cases es <;> exact ⟨_, rfl⟩
    have own : ((front ++ (e :: es).flatMap (·.columns)).drop front.length).take
        (front.length + e.mapping.slotCount - front.length) = e.columns := by
      rw [List.drop_left, Nat.add_sub_cancel_left, List.flatMap_cons, ← e.length_columns,
        List.take_left]
    have rest := ih (fun e' h => named e' (List.mem_cons_of_mem _ h)) (front ++ e.columns)
    rw [List.length_append, e.length_columns, List.append_assoc, ← List.flatMap_cons, hb] at rest
    rw [bounds, hb, fragmentLayouts, own, columnSlots_columns (named e (List.mem_cons_self ..)),
      ok_bind, rest]
    rfl

/-- There is a value for every column. -/
lemma length_arrangeParts {es : List PlannedEntity} {parts : List (List Value)}
    (length : parts.length = es.length) :
    (arrangeParts es parts).length = (es.flatMap (·.columns)).length := by
  induction es generalizing parts with
  | nil => rfl
  | cons e es ih =>
    cases parts with
    | nil => cases length
    | cons values parts =>
      have rest := ih (Nat.succ.inj length)
      rw [arrangeParts] at rest
      rw [arrangeParts, List.zip_cons_cons, List.flatMap_cons, List.length_append, rest,
        EntityMapping.length_arrange, List.flatMap_cons, List.length_append, e.length_columns]

/-- A row that is arranged for a plan has a value for every column of the plan. -/
lemma length_arrange {p : Plan} {parts : List (List Value)}
    (length : parts.length = p.entities.length) : (p.arrange parts).length = p.columns.length := by
  rw [arrange, length_arrangeParts length, p.columns_eq]

/-- The parts of a row that was arranged in the order of the columns are found again. -/
lemma fragments_arrange {es : List PlannedEntity} {parts : List (List Value)}
    (length : parts.length = es.length)
    (widths : ∀ part ∈ es.zip parts, part.2.length = part.1.mapping.slotCount)
    (front : List Value) :
    (layouts front.length es).map (·.fragment (front ++ arrangeParts es parts)) =
      parts.map (⟨·⟩) := by
  induction es generalizing parts front with
  | nil =>
    cases List.length_eq_zero_iff.1 length
    rfl
  | cons e es ih =>
    cases parts with
    | nil => cases length
    | cons values parts =>
      have row : arrangeParts (e :: es) (values :: parts) =
          e.mapping.arrange values ++ arrangeParts es parts := rfl
      have rest := ih (Nat.succ.inj length)
        (fun part h => widths part (List.mem_cons_of_mem _ h)) (front ++ e.mapping.arrange values)
      rw [List.length_append, EntityMapping.length_arrange, List.append_assoc, ← row] at rest
      have first : FragmentLayout.fragment
          ⟨front.length, e.mapping.selectedSlots, e.mapping.slotCount⟩
          (front ++ arrangeParts (e :: es) (values :: parts)) = ⟨values⟩ := by
        have own := widths (e, values) (List.mem_cons_self ..)
        refine @FragmentLayout.fragment_arrange _ _ _ (arrangeParts es parts) _ own ?_
        rw [List.drop_left, row]
      rw [layouts, List.map_cons, first, rest, List.map_cons]

/-- Only the root is not split off. -/
lemma splitPoints_eq {p : Plan} {r : Registry} {root : EntityMapping}
    (grown : PlanDraft.Grown r root ⟨p.entities, p.joins⟩) :
    p.splitPoints = p.entities.tail.map (·.splitColumn) := by
  obtain ⟨e, es, entities, _, link, others⟩ := grown.head
  dsimp only at entities
  have head : (!e.isRoot) = false := by
    rw [PlannedEntity.isRoot, link]
    rfl
  have joined : es.filter (!·.isRoot) = es := by
    apply List.filter_eq_self.2
    intro e' he'
    rw [PlannedEntity.isRoot, Option.not_isNone, others e' he']
  rw [p.splitPoints_eq_map_filter, entities, List.filter_cons, head, if_neg Bool.false_ne_true,
    joined, List.tail_cons]

/-- The layout of a plan's own columns: the parts follow each other, each in column order. -/
lemma layout_columns {p : Plan} {r : Registry} {root : EntityMapping}
    (grown : PlanDraft.Grown r root ⟨p.entities, p.joins⟩) :
    p.layout p.columns =
      .ok ⟨p.root.entityType, p.columns.length, layouts 0 p.entities⟩ := by
  obtain ⟨named, apart⟩ := grown.named
  obtain ⟨e, es, entities, _⟩ := grown.head
  dsimp only at named apart entities
  have splits : p.splitPoints = es.map (·.splitColumn) := by
    rw [splitPoints_eq grown, entities, List.tail_cons]
  rw [entities] at named apart
  obtain ⟨starts, found, bound⟩ := boundaries_columns named apart []
  have laid := @fragmentLayouts_columns p.root.entityType _ named []
  rw [List.length_nil, Nat.zero_add, ← entities] at bound
  rw [List.length_nil, List.nil_append, ← entities] at found laid
  rw [← bound] at laid
  rw [layout, splits, p.columns_eq, found]
  dsimp only [ok_bind]
  change (fragmentLayouts p.root.entityType (p.entities.flatMap (·.columns)) p.entities
    (0 :: starts ++ [(p.entities.flatMap (·.columns)).length])).bind _ = _
  rw [laid]
  rfl

/--
The layout of a plan's own columns splits every row that was arranged in their order into what it
was made of.
-/
lemma split_arrange {p : Plan} {r : Registry} {root : EntityMapping}
    (grown : PlanDraft.Grown r root ⟨p.entities, p.joins⟩) :
    ∃ l, p.layout p.columns = .ok l ∧
      ∀ parts : List (List Value), parts.length = p.entities.length →
        (∀ part ∈ p.entities.zip parts, part.2.length = part.1.mapping.slotCount) →
        l.split (p.arrange parts) = .ok (parts.map (⟨·⟩)) := by
  refine ⟨_, layout_columns grown, fun parts length widths => ?_⟩
  have fragments := fragments_arrange length widths []
  rw [RowLayout.split, if_neg, ← fragments]
  · rfl
  · rw [not_not, length_arrange length]

end Plan

end RelMap
