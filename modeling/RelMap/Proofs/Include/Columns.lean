import RelMap.Proofs.Include.Plan
import RelMap.Proofs.Mapping.Slots
import RelMap.Proofs.Text.Part

/-!
# Columns of a plan

Every type of a plan has an alias of its own, and no alias has the separator in it, so that the name
of a column says which type and property it belongs to. The columns of a type begin with the one
that its part of a row is split at.
-/

namespace RelMap

/-- Numbers are written differently. -/
lemma toString_injective {m n : Nat} (h : toString m = toString n) : m = n := by
  rw [Nat.toString_eq_repr, Nat.toString_eq_repr] at h
  have digits := congrArg String.toList h
  rw [Nat.toList_repr, Nat.toList_repr] at digits
  rw [← @Nat.ofDigitChars_ten_toDigits m, digits, Nat.ofDigitChars_ten_toDigits]

/-- The alias of the type at a place. -/
def aliasAt : Nat → String
  | 0 => rootAlias
  | index + 1 => joinAlias (index + 1)

/-- Different places have different aliases. -/
lemma aliasAt_injective {i j : Nat} (h : aliasAt i = aliasAt j) : i = j := by
  -- The alias of the root begins with another letter than all others.
  have apart (index : Nat) : rootAlias ≠ joinAlias (index + 1) := by
    intro same
    have heads := congrArg String.toList same
    rw [joinAlias, String.toList_append] at heads
    exact absurd (List.cons.inj heads).1 (by decide)
  cases i with
  | zero =>
    cases j with
    | zero => rfl
    | succ j => exact absurd h (apart j)
  | succ i =>
    cases j with
    | zero => exact absurd h.symm (apart i)
    | succ j =>
      have rests := congrArg String.toList h
      rw [aliasAt, aliasAt, joinAlias, joinAlias, String.toList_append, String.toList_append,
        List.append_cancel_left_eq, String.toList_inj] at rests
      exact toString_injective rests

/-- There is no separator in an alias. -/
lemma underscore_notMem_aliasAt (i : Nat) : '_' ∉ (aliasAt i).toList := by
  cases i with
  | zero => decide
  | succ i =>
    rw [aliasAt, joinAlias, String.toList_append, Nat.toString_eq_repr, Nat.toList_repr,
      List.mem_append, not_or]
    exact ⟨by decide, Nat.underscore_not_in_toDigits⟩

/-- The types of a plan have the aliases of their places, and at least one column. -/
lemma PlanDraft.Grown.alias_eq {r : Registry} {root : EntityMapping} {d : PlanDraft}
    (h : Grown r root d) {i : Nat} {e : PlannedEntity} (hi : d.entities[i]? = some e) :
    e.tableAlias = aliasAt i ∧ e.mapping.properties ≠ [] := by
  induction h generalizing i e with
  | root he =>
    obtain ⟨columns, rfl⟩ := planEntity_eq_ok he
    rcases getElem?_concat_eq_some (l := []).1 hi with hi | ⟨rfl, rfl⟩
    · cases hi
    · exact ⟨rfl, columns⟩
  | @join d _ _ _ _ _ _ _ _ _ grown hp _ _ he ih =>
    obtain ⟨columns, rfl⟩ := planEntity_eq_ok he
    rcases getElem?_concat_eq_some.1 hi with hi | ⟨rfl, rfl⟩
    · exact ih hi
    · obtain ⟨n, hn⟩ := Nat.exists_eq_succ_of_ne_zero
        (Nat.ne_of_gt (Nat.zero_lt_of_lt (List.getElem?_eq_some_iff.1 hp).1))
      rw [hn]
      exact ⟨rfl, columns⟩

namespace PlannedEntity

/-- A type whose columns can be told from those of other types. -/
def IsNamed (e : PlannedEntity) : Prop := '_' ∉ e.tableAlias.toList ∧ e.mapping.properties ≠ []

variable {e e' : PlannedEntity} {p : Property}

/-- The name of a column says which type and property it belongs to. -/
lemma cut?_columnAlias (h : e.IsNamed) (property : String) :
    Text.cut? aliasSeparator (columnAlias e.tableAlias property) = some (e.tableAlias, property) :=
  Text.cut?_append (by decide : aliasSeparator.toList = ['_', '_']) h.1

/-- No type has a column of another one. -/
lemma columnAlias_notMem_columns (h : e.IsNamed) (h' : e'.IsNamed)
    (apart : e.tableAlias ≠ e'.tableAlias) (property : String) :
    columnAlias e'.tableAlias property ∉ e.columns := by
  intro hc
  obtain ⟨p, _, same⟩ := List.mem_map.1 hc
  have cuts := congrArg (Text.cut? aliasSeparator) same
  rw [cut?_columnAlias h, cut?_columnAlias h', Option.some.injEq, Prod.mk.injEq] at cuts
  exact apart cuts.1

end PlannedEntity

namespace EntityMapping

variable {m : EntityMapping}

/-- The selected properties are all properties. -/
lemma mem_selectedProperties {p : Property} : p ∈ m.selectedProperties ↔ p ∈ m.properties := by
  rw [selectedProperties, List.mem_append, List.mem_filter, List.mem_filter, ← and_or_left]
  refine and_iff_left ?_
  rw [bne, Bool.not_eq_true']
  exact (Bool.eq_false_or_eq_true _)

lemma length_selectedProperties (m : EntityMapping) :
    m.selectedProperties.length = m.slotCount := by
  rw [selectedProperties, List.length_append, slotCount]
  exact (List.length_eq_length_filter_add _).symm

/-- The selected columns are those of the selected properties. -/
lemma selectedColumns_eq (m : EntityMapping) :
    m.selectedColumns = m.selectedProperties.map fun p => (p, p.column) := by
  have declared : m.properties.zip m.columns = m.properties.map fun p => (p, p.column) := by
    rw [m.describes.columns]
    exact (List.map_prod_left_eq_zip ..).symm
  rw [selectedColumns, declared, selectedProperties, List.map_append, List.filter_map,
    List.filter_map]
  rfl

/-- There is a property whose column comes first. -/
lemma splitProperty_mem (h : m.properties ≠ []) : m.splitProperty ∈ m.propertyNames := by
  unfold splitProperty firstKey?
  cases hk : m.keys with
  | cons k ks => exact mem_propertyNames_of_mem_keys (by rw [hk]; exact List.mem_cons_self ..)
  | nil =>
    obtain ⟨p, ps, hp⟩ := List.exists_cons_of_ne_nil h
    simp [MappingDraft.propertyNames, hp]

/-- The property whose column comes first is selected first. -/
lemma selectedProperties_eq_cons (h : m.properties ≠ []) :
    ∃ p rest, m.selectedProperties = p :: rest ∧ p.name = m.splitProperty := by
  obtain ⟨p, hp, name⟩ := List.mem_map.1 (splitProperty_mem h)
  have first : m.properties.filter (·.name == m.splitProperty) ≠ [] :=
    List.ne_nil_of_mem (List.mem_filter.2 ⟨hp, beq_iff_eq.2 name⟩)
  obtain ⟨q, rest, hq⟩ := List.exists_cons_of_ne_nil first
  have found : q ∈ m.properties.filter (·.name == m.splitProperty) := by
    rw [hq]
    exact List.mem_cons_self ..
  refine ⟨q, rest ++ m.properties.filter (·.name != m.splitProperty), ?_, ?_⟩
  · rw [selectedProperties, hq, List.cons_append]
  · exact beq_iff_eq.1 (List.mem_filter.1 found).2

end EntityMapping

/-- The columns of a type begin with the one that its part of a row is split at. -/
lemma PlannedEntity.columns_eq_cons {e : PlannedEntity} (h : e.IsNamed) :
    ∃ rest, e.columns = e.splitColumn :: rest := by
  obtain ⟨p, rest, selected, name⟩ := EntityMapping.selectedProperties_eq_cons h.2
  refine ⟨rest.map fun p => columnAlias e.tableAlias p.name, ?_⟩
  rw [columns, selected, List.map_cons, name]
  rfl

/-- An item reads the column of its property, and gives it the name of the column. -/
lemma PlannedEntity.selectItems_eq (d : Dialect) (e : PlannedEntity) :
    e.selectItems d = e.mapping.selectedProperties.map fun p =>
      e.tableAlias ++ "." ++ d.quote p.column ++ " AS " ++
        d.quote (columnAlias e.tableAlias p.name) := by
  rw [selectItems, EntityMapping.selectedColumns_eq, List.map_map]
  rfl

lemma PlannedEntity.length_columns (e : PlannedEntity) :
    e.columns.length = e.mapping.slotCount := by
  rw [columns, List.length_map, EntityMapping.length_selectedProperties]

/-- The types of a plan can be told apart by the names of their columns. -/
lemma PlanDraft.Grown.named {r : Registry} {root : EntityMapping} {d : PlanDraft}
    (h : Grown r root d) :
    (∀ e ∈ d.entities, e.IsNamed) ∧ d.entities.Pairwise (·.tableAlias ≠ ·.tableAlias) := by
  constructor
  · intro e he
    obtain ⟨i, hi⟩ := List.getElem?_of_mem he
    obtain ⟨name, columns⟩ := h.alias_eq hi
    rw [PlannedEntity.IsNamed, name]
    exact ⟨underscore_notMem_aliasAt i, columns⟩
  · rw [List.pairwise_iff_getElem]
    intro i j hi hj lt same
    rw [(h.alias_eq (List.getElem?_eq_getElem hi)).1, (h.alias_eq (List.getElem?_eq_getElem hj)).1]
      at same
    exact Nat.ne_of_lt lt (aliasAt_injective same)

end RelMap
