import RelMap.Proofs.Include.Layout

/-!
# Places of columns

Every column of a plan belongs to one slot of one of its types, and every slot has one column, which
is named for the type's alias and the slot's property. So a row that holds each value in the column
named for it is split into the values of the types, each in slot order.
-/

namespace RelMap

/-- Whether a layout puts the value of a column into a slot of the part at a place. -/
def RowLayout.Puts (l : RowLayout) (column place slot : Nat) : Prop :=
  ∃ f offset, l.fragments[place]? = some f ∧ f.slots[offset]? = some slot ∧
    column = f.start + offset

namespace Plan

/-- Whether a column is named for a slot of the type at a place. -/
def Names (p : Plan) (column place slot : Nat) : Prop :=
  ∃ e name, p.entities[place]? = some e ∧ e.mapping.propertyNames[slot]? = some name ∧
    p.columns[column]? = some (columnAlias e.tableAlias name)

/-- A row that holds the values of every type, each in the column named for its slot. -/
structure Holds (p : Plan) (parts : List (List Value)) (row : List Value) : Prop where
  /-- There is a value for every column. -/
  length : row.length = p.columns.length
  /-- The value of a column is that of the slot it is named for. -/
  value : ∀ column place slot, p.Names column place slot →
    row[column]? = parts[place]?.bind (·[slot]?)

/-- How many columns stand before those of the type at a place. -/
def offset (es : List PlannedEntity) (place : Nat) : Nat :=
  ((es.take place).flatMap (·.columns)).length

variable {p : Plan} {r : Registry} {root : EntityMapping} {e : PlannedEntity}
variable {column place slot : Nat} {parts : List (List Value)}

/-- The layout of a type among several that follow each other. -/
lemma getElem?_layouts (start : Nat) (es : List PlannedEntity) (place : Nat) :
    (layouts start es)[place]? =
      es[place]?.map fun e =>
        ⟨start + offset es place, e.mapping.selectedSlots, e.mapping.slotCount⟩ := by
  induction es generalizing start place with
  | nil => rfl
  | cons e es ih =>
    cases place with
    | zero => rfl
    | succ place =>
      rw [layouts, List.getElem?_cons_succ, ih, List.getElem?_cons_succ, offset, offset,
        List.take_succ_cons, List.flatMap_cons, List.length_append, e.length_columns,
        Nat.add_assoc]

/-- There is a layout for every type. -/
lemma length_layouts (start : Nat) (es : List PlannedEntity) :
    (layouts start es).length = es.length := by
  induction es generalizing start with
  | nil => rfl
  | cons e es ih => rw [layouts, List.length_cons, List.length_cons, ih]

/-- The names of a type's columns differ. -/
lemma nodup_entityColumns (named : e.IsNamed) : e.columns.Nodup := by
  have names : (e.mapping.selectedProperties.map (·.name)).Nodup := by
    have perm : e.mapping.selectedProperties.Perm e.mapping.properties :=
      List.filter_append_perm ..
    exact (perm.map _).nodup_iff.2 e.mapping.nodup_propertyNames
  have whole : e.columns =
      (e.mapping.selectedProperties.map (·.name)).map (columnAlias e.tableAlias) := by
    rw [List.map_map]
    rfl
  rw [whole]
  refine names.map fun a b same => ?_
  have cuts := congrArg (Text.cut? aliasSeparator) same
  rw [PlannedEntity.cut?_columnAlias named, PlannedEntity.cut?_columnAlias named] at cuts
  exact (Prod.mk.inj (Option.some.inj cuts)).2

/-- The names of all columns differ. -/
lemma nodup_columns (grown : PlanDraft.Grown r root ⟨p.entities, p.joins⟩) : p.columns.Nodup := by
  obtain ⟨named, apart⟩ := grown.named
  rw [p.columns_eq, List.nodup_flatMap]
  constructor
  · exact fun e he => nodup_entityColumns (named e he)
  · refine apart.imp_of_mem fun {a b} ha hb apart => ?_
    intro column hc hc'
    obtain ⟨q, _, rfl⟩ := List.mem_map.1 hc'
    exact PlannedEntity.columnAlias_notMem_columns (named a ha) (named b hb) apart _ hc

/-- The columns of a type are named for the slots that they are put into. -/
lemma getElem?_entityColumns {offset : Nat} (h : e.mapping.selectedSlots[offset]? = some slot) :
    ∃ name, e.mapping.propertyNames[slot]? = some name ∧
      e.columns[offset]? = some (columnAlias e.tableAlias name) := by
  have slotted (q) (hq : q ∈ e.mapping.selectedProperties) : (e.mapping.slot? q.name).isSome := by
    obtain ⟨i, hi⟩ := EntityMapping.exists_slot? (EntityMapping.mem_selectedProperties.1 hq)
    rw [hi]
    rfl
  rw [EntityMapping.selectedSlots, getElem?_filterMap slotted, Option.bind_eq_some_iff] at h
  obtain ⟨q, hq, hs⟩ := h
  refine ⟨q.name, EntityMapping.getElem?_of_slot? hs, ?_⟩
  rw [PlannedEntity.columns, List.getElem?_map, hq]
  rfl

/-- A layout of a plan's own columns puts a column into the slot that it is named for. -/
lemma puts_iff (grown : PlanDraft.Grown r root ⟨p.entities, p.joins⟩) {l : RowLayout}
    (hl : p.layout p.columns = .ok l) :
    l.Puts column place slot ↔ p.Names column place slot := by
  cases (layout_columns grown).symm.trans hl
  -- The column at an offset of a type is named for the slot at that offset.
  have named {e : PlannedEntity} {j : Nat} (he : p.entities[place]? = some e)
      (hj : e.mapping.selectedSlots[j]? = some slot) :
      ∃ name, e.mapping.propertyNames[slot]? = some name ∧
        p.columns[offset p.entities place + j]? = some (columnAlias e.tableAlias name) := by
    obtain ⟨name, hname, hc⟩ := getElem?_entityColumns hj
    refine ⟨name, hname, ?_⟩
    rw [p.columns_eq, offset, getElem?_flatMap he (List.getElem?_eq_some_iff.1 hc).1, hc]
  constructor
  · rintro ⟨f, j, hf, hj, rfl⟩
    rw [getElem?_layouts, Option.map_eq_some_iff] at hf
    obtain ⟨e, he, rfl⟩ := hf
    obtain ⟨name, hname, hc⟩ := named he hj
    rw [Nat.zero_add]
    exact ⟨e, name, he, hname, hc⟩
  · rintro ⟨e, name, he, hname, hc⟩
    obtain ⟨j, hj⟩ := List.getElem?_of_mem
      (EntityMapping.mem_selectedSlots.2 (EntityMapping.lt_of_getElem?_propertyNames hname))
    obtain ⟨name', hname', hc'⟩ := named he hj
    cases hname.symm.trans hname'
    -- Only one column has this name.
    have same : column = offset p.entities place + j := by
      have bound := (List.getElem?_eq_some_iff.1 hc).1
      exact (List.getElem?_inj bound (nodup_columns grown)).1 (hc.trans hc'.symm)
    refine ⟨⟨offset p.entities place, e.mapping.selectedSlots, e.mapping.slotCount⟩, j, ?_, hj,
      same⟩
    rw [getElem?_layouts, he, Option.map_some, Nat.zero_add]

/-- A column is named for exactly one slot of one type. -/
lemma existsUnique_names (grown : PlanDraft.Grown r root ⟨p.entities, p.joins⟩)
    (h : column < p.columns.length) :
    ∃! target : Nat × Nat, p.Names column target.1 target.2 := by
  have here := List.getElem?_eq_getElem h
  obtain ⟨e, he, hc⟩ := mem_columns.1 (List.getElem_mem h)
  obtain ⟨q, hq, name⟩ := List.mem_map.1 hc
  obtain ⟨place, hplace⟩ := List.getElem?_of_mem he
  obtain ⟨slot, hs⟩ := EntityMapping.exists_slot? (EntityMapping.mem_selectedProperties.1 hq)
  refine ⟨(place, slot), ⟨e, q.name, hplace, EntityMapping.getElem?_of_slot? hs, ?_⟩, ?_⟩
  · rw [here, name]
  · rintro ⟨place', slot'⟩ ⟨e', name', hplace', hname', hc'⟩
    -- The name of the column says which alias and which property it is of.
    have cuts := congrArg (Text.cut? aliasSeparator)
      (name.trans (Option.some.inj (here.symm.trans hc')))
    rw [PlannedEntity.cut?_columnAlias (grown.named.1 e he),
      PlannedEntity.cut?_columnAlias (grown.named.1 e' (List.mem_of_getElem? hplace'))] at cuts
    obtain ⟨aliases, names⟩ := Prod.mk.inj (Option.some.inj cuts)
    have places : place = place' := by
      rw [(grown.alias_eq hplace).1, (grown.alias_eq hplace').1] at aliases
      exact aliasAt_injective aliases
    subst places names
    cases hplace.symm.trans hplace'
    have slots : slot = slot' :=
      Option.some.inj (hs.symm.trans (EntityMapping.slot?_of_getElem? hname'))
    rw [slots]

/-- A slot of a type has exactly one column that is named for it. -/
lemma existsUnique_column (grown : PlanDraft.Grown r root ⟨p.entities, p.joins⟩)
    (he : p.entities[place]? = some e) (h : slot < e.mapping.slotCount) :
    ∃! column, p.Names column place slot := by
  have lt : slot < e.mapping.propertyNames.length := e.mapping.length_propertyNames.symm ▸ h
  have hname := List.getElem?_eq_getElem lt
  obtain ⟨q, hq, name⟩ := List.mem_map.1 (List.getElem_mem lt)
  have member : columnAlias e.tableAlias q.name ∈ p.columns :=
    mem_columns.2 ⟨e, List.mem_of_getElem? he,
      List.mem_map.2 ⟨q, EntityMapping.mem_selectedProperties.2 hq, rfl⟩⟩
  obtain ⟨column, hc⟩ := List.getElem?_of_mem member
  refine ⟨column, ⟨e, q.name, he, name ▸ hname, hc⟩, ?_⟩
  rintro column' ⟨e', name', he', hname', hc'⟩
  cases he.symm.trans he'
  cases (name ▸ hname).symm.trans hname'
  exact (List.getElem?_inj (List.getElem?_eq_some_iff.1 hc').1 (nodup_columns grown)).1
    (hc'.trans hc.symm)

/-- The types of a plan with the values of each. -/
lemma exists_part (length : parts.length = p.entities.length)
    (he : p.entities[place]? = some e) : ∃ values, parts[place]? = some values := by
  have lt : place < parts.length := length ▸ (List.getElem?_eq_some_iff.1 he).1
  exact ⟨_, List.getElem?_eq_getElem lt⟩

/-- A row in column order holds the values of every type. -/
lemma holds_arrange (grown : PlanDraft.Grown r root ⟨p.entities, p.joins⟩)
    (length : parts.length = p.entities.length)
    (widths : ∀ part ∈ p.entities.zip parts, part.2.length = part.1.mapping.slotCount) :
    p.Holds parts (p.arrange parts) := by
  refine ⟨length_arrange length, fun column place slot hn => ?_⟩
  obtain ⟨f, j, hf, hj, rfl⟩ := (puts_iff grown (layout_columns grown)).2 hn
  rw [getElem?_layouts, Option.map_eq_some_iff] at hf
  obtain ⟨e, he, rfl⟩ := hf
  obtain ⟨values, hv⟩ := exists_part length he
  have pair : (p.entities.zip parts)[place]? = some (e, values) :=
    List.getElem?_zip_eq_some.2 ⟨he, hv⟩
  have width : values.length = e.mapping.slotCount :=
    widths (e, values) (List.mem_of_getElem? pair)
  have front : offset p.entities place =
      (arrangeParts (p.entities.take place) (parts.take place)).length := by
    rw [offset, length_arrangeParts]
    rw [List.length_take, List.length_take, length]
  have taken : (p.entities.take place).zip (parts.take place) =
      (p.entities.zip parts).take place := by
    rw [List.zip_eq_zipWith, List.zip_eq_zipWith, List.take_zipWith]
  have within : j < (e.mapping.arrange values).length := by
    rw [EntityMapping.arrange_eq_map, List.length_map]
    exact (List.getElem?_eq_some_iff.1 hj).1
  have bound : slot < values.length :=
    width ▸ EntityMapping.mem_selectedSlots.1 (List.mem_of_getElem? hj)
  rw [hv, Option.bind_some, Nat.zero_add, front, arrange, arrangeParts, arrangeParts, taken,
    getElem?_flatMap pair within]
  dsimp only
  rw [EntityMapping.arrange_eq_map, List.getElem?_map, hj, Option.map_some,
    List.getElem?_eq_getElem bound, Option.getD_some]

/-- Only one row holds the values of every type. -/
lemma Holds.eq (grown : PlanDraft.Grown r root ⟨p.entities, p.joins⟩) {row row' : List Value}
    (h : p.Holds parts row) (h' : p.Holds parts row') : row = row' := by
  apply List.ext_getElem?
  intro column
  rcases Nat.lt_or_ge column p.columns.length with lt | ge
  · obtain ⟨target, named, -⟩ := existsUnique_names grown lt
    rw [h.value _ _ _ named, h'.value _ _ _ named]
  · rw [List.getElem?_eq_none (h.length ▸ ge), List.getElem?_eq_none (h'.length ▸ ge)]

/--
The layout of a plan's own columns has a part for every type. Whatever the values of the types,
there is one row that holds each in the column named for it, and this row is split into the values
of the types in slot order. Every column is put into exactly one slot of one part, the one it is
named for, and every slot has exactly one column.
-/
theorem splitRow_columns {dialect : Dialect} {tree : IncludeTree}
    (h : Plan.build dialect r root tree = .ok p) :
    ∃ l, p.layout p.columns = .ok l ∧ l.fragments.length = p.typeCount ∧
      (∀ parts : List (List Value), parts.length = p.typeCount →
        (∀ part ∈ p.entities.zip parts, part.2.length = part.1.mapping.slotCount) →
        ∃ row, (∀ row', p.Holds parts row' ↔ row' = row) ∧
          p.splitRow p.columns row = .ok (parts.map (⟨·⟩))) ∧
      (∀ column place slot, l.Puts column place slot ↔ p.Names column place slot) ∧
      (∀ column < p.columns.length, ∃! target : Nat × Nat, l.Puts column target.1 target.2) ∧
      ∀ place e, p.entities[place]? = some e → ∀ slot < e.mapping.slotCount,
        ∃! column, l.Puts column place slot := by
  obtain ⟨_, _, grown⟩ := Plan.of_build h
  obtain ⟨l, hl, splits⟩ := split_arrange grown
  refine ⟨l, hl, ?_, ?_, fun _ _ _ => puts_iff grown hl, ?_, ?_⟩
  · cases (layout_columns grown).symm.trans hl
    rw [length_layouts, p.counted]
  · intro parts length widths
    rw [p.counted] at length
    have holds := holds_arrange grown length widths
    refine ⟨p.arrange parts, fun row' => ⟨fun h' => h'.eq grown holds, fun e => e ▸ holds⟩, ?_⟩
    rw [splitRow, hl, ok_bind]
    exact splits parts length widths
  · intro column lt
    simp only [puts_iff grown hl]
    exact existsUnique_names grown lt
  · intro place e he slot lt
    simp only [puts_iff grown hl]
    exact existsUnique_column grown he lt

end Plan

/-- A type that refers to itself; its key comes second, and its names have edges of underscores. -/
def sampleFolder : EntityMapping where
  entityType := "Folder"
  table := "Folders"
  keys := ["Id"]
  properties := [{ name := "_Name_" }, { name := "Id" }, { name := "Parent_" }]
  foreignKeys := [⟨"Parent", "Parent_", "Folder", "Id"⟩]
  collections := [{ navigation := "Children", related := "Folder" }]
  slots := [("Parent_", 2), ("Id", 1), ("_Name_", 0)]
  keySlots := [1]
  columns := ["_Name_", "Id", "Parent_"]
  built := rfl

/-- The children of a folder and the parent of each. -/
def sampleFolders : IncludeTree where
  root := "Folder"
  nodes := [.node "Children" "Folder" (.collection .list) [.node "Parent" "Folder" .reference []]]

/-- The columns of three folders, and a row of them taken apart. -/
theorem splitRow_folders :
    ∃ p, Plan.build .postgres (.ofList [sampleFolder]) sampleFolder sampleFolders = .ok p ∧
      p.columns = ["a__Id", "a___Name_", "a__Parent_", "b1__Id", "b1___Name_", "b1__Parent_",
        "b2__Id", "b2___Name_", "b2__Parent_"] ∧
      ∃ row, p.Holds [[.string "x", .int32 1, .null], [.string "y", .int32 2, .int32 1],
          [.string "x", .int32 1, .null]] row ∧
        p.splitRow p.columns row = .ok [⟨[.string "x", .int32 1, .null]⟩,
          ⟨[.string "y", .int32 2, .int32 1]⟩, ⟨[.string "x", .int32 1, .null]⟩] := by
  have planned : ∃ p, Plan.build .postgres (.ofList [sampleFolder]) sampleFolder sampleFolders =
      .ok p ∧ p.columns = ["a__Id", "a___Name_", "a__Parent_", "b1__Id", "b1___Name_",
        "b1__Parent_", "b2__Id", "b2___Name_", "b2__Parent_"] ∧
      p.entities.map (·.mapping) = [sampleFolder, sampleFolder, sampleFolder] := ⟨_, rfl, rfl, rfl⟩
  obtain ⟨p, hp, columns, mappings⟩ := planned
  have count : p.typeCount = 3 := by
    rw [p.counted, ← List.length_map (f := (·.mapping)), mappings]
    rfl
  obtain ⟨_, _, _, splits, _⟩ := Plan.splitRow_columns hp
  obtain ⟨row, holds, split⟩ := splits
    [[.string "x", .int32 1, .null], [.string "y", .int32 2, .int32 1],
      [.string "x", .int32 1, .null]] count.symm fun part hpart => by
    have mapping : part.1.mapping = sampleFolder := by
      have member := List.mem_map_of_mem (f := (·.mapping)) (List.of_mem_zip hpart).1
      rw [mappings] at member
      simpa using member
    have values := (List.of_mem_zip hpart).2
    rw [mapping]
    simp only [List.mem_cons, List.not_mem_nil, or_false] at values
    rcases values with h | h | h <;> rw [h] <;> rfl
  exact ⟨p, hp, columns, row, (holds row).2 rfl, split⟩

end RelMap
