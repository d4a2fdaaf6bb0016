import RelMap.Proofs.Include.Places

/-!
# Columns in another order

A result set may have some of a plan's columns only, and in another order. Where the parts of the
types begin is searched for, each behind the last, so that a column in the wrong place moves all
that follows it. Still, no value is ever put into the slot of another column: every column of a part
has to have the alias of its type, or there is no layout.
-/

namespace RelMap

namespace Plan

variable {root : String} {e : PlannedEntity} {es : List PlannedEntity} {columns : List String}
variable {fragments : List FragmentLayout} {start : Nat}

/-- The slots of a type that some columns are put into. -/
abbrev Slots (root : String) (e : PlannedEntity) (group : List String) (slots : List Nat) : Prop :=
  List.Forall₂ (fun c slot => columnSlot root e c = .ok slot) group slots

/-- The slots of columns are found one by one. -/
lemma columnSlots_eq_ok {slots : List Nat} (h : columnSlots root e columns = .ok slots) :
    Slots root e columns slots := by
  induction columns generalizing slots with
  | nil =>
    cases h
    exact .nil
  | cons c cs ih =>
    simp only [columnSlots, bind_eq_ok, pure_eq_ok] at h
    obtain ⟨slot, hs, rest, hr, h⟩ := h
    cases h
    exact .cons hs (ih hr)

/-- Columns are accepted for some types if each type has the slots of a group of them. -/
inductive Accepts (root : String) :
    Nat → List PlannedEntity → List String → List FragmentLayout → Prop where
  | nil {start : Nat} :
    Accepts root start [] [] []
  | cons {start e es group rest slots fragments} :
    Slots root e group slots →
    Accepts root (start + group.length) es rest fragments →
    Accepts root start (e :: es) (group ++ rest)
      (⟨start, slots, e.mapping.slotCount⟩ :: fragments)

/-- The place that a name is found at lies behind all that was passed over. -/
lemma indexFrom_eq_some {front rest : List String} {name : String} {place : Nat}
    (h : indexFrom (front ++ rest) (front.length + 1) name = some place) :
    ∃ group rest', rest = group ++ rest' ∧ place = (front ++ group).length := by
  obtain ⟨i, found, rfl⟩ := Option.map_eq_some_iff.1 h
  rw [List.drop_append, Nat.add_sub_cancel_left, List.drop_of_length_le (Nat.le_succ _),
    List.nil_append] at found
  have lt : i < (rest.drop 1).length := (List.findIdx?_eq_some_iff_getElem.1 found).1
  rw [List.length_drop] at lt
  refine ⟨rest.take (i + 1), rest.drop (i + 1), (List.take_append_drop ..).symm, ?_⟩
  rw [List.length_append, List.length_take]
  omega

/-- Where layouts are found for the parts of a row, the columns are accepted. -/
lemma accepts_of_layouts {front rest : List String} {starts : List Nat}
    (found : boundaries (front ++ rest) front.length (es.map (·.splitColumn)) = .ok starts)
    (laid : fragmentLayouts root (front ++ rest) (e :: es)
      (front.length :: starts ++ [(front ++ rest).length]) = .ok fragments) :
    Accepts root front.length (e :: es) rest fragments := by
  induction es generalizing e front rest starts fragments with
  | nil =>
    cases found
    simp only [List.cons_append, List.nil_append, fragmentLayouts, bind_eq_ok, pure_eq_ok] at laid
    obtain ⟨slots, hs, _, last, laid⟩ := laid
    cases last
    cases laid
    rw [List.length_append, Nat.add_sub_cancel_left, List.drop_left, List.take_length] at hs
    have only := @Accepts.cons root front.length _ _ _ _ _ _ (columnSlots_eq_ok hs) .nil
    rwa [List.append_nil] at only
  | cons e' es ih =>
    rw [List.map_cons, boundaries] at found
    split at found
    next => cases found
    next place hplace =>
      obtain ⟨others, ho, found⟩ := bind_eq_ok.1 found
      cases found
      obtain ⟨group, rest', rfl, rfl⟩ := indexFrom_eq_some hplace
      simp only [List.cons_append, fragmentLayouts, bind_eq_ok, pure_eq_ok] at laid
      obtain ⟨slots, hs, more, laid', laid⟩ := laid
      cases laid
      rw [List.length_append, Nat.add_sub_cancel_left, List.drop_left, List.take_left] at hs
      rw [← List.append_assoc] at ho laid'
      have later := ih ho laid'
      rw [List.length_append] at later
      exact .cons (columnSlots_eq_ok hs) later

/-- A column lies at a place behind the start of the part of a type, which puts it into a slot. -/
structure Lies (root : String) (e : PlannedEntity) (f : FragmentLayout) (c : String)
    (k offset slot : Nat) : Prop where
  /-- The place of the column. -/
  place : k = f.start + offset
  /-- The part has the slot at this offset. -/
  slotted : f.slots[offset]? = some slot
  /-- The slot is that of the column. -/
  named : columnSlot root e c = .ok slot

lemma Slots.lies {group : List String} {slots : List Nat} (h : Slots root e group slots)
    (start : Nat) {k : Nat} (lt : k < group.length) :
    ∃ c slot, group[k]? = some c ∧ slots[k]? = some slot ∧
      Lies root e ⟨start, slots, e.mapping.slotCount⟩ c (start + k) k slot := by
  have lt' : k < slots.length := h.length_eq ▸ lt
  have hs := List.getElem?_eq_getElem lt'
  exact ⟨group[k], slots[k], List.getElem?_eq_getElem lt, hs, rfl, hs, h.get lt lt'⟩

/-- Every column lies in the part of some type. -/
lemma Accepts.lies (h : Accepts root start es columns fragments) {k : Nat} {c : String}
    (hc : columns[k]? = some c) :
    ∃ (place : Nat) (e : PlannedEntity) (f : FragmentLayout) (offset slot : Nat),
      es[place]? = some e ∧ fragments[place]? = some f ∧
        Lies root e f c (start + k) offset slot := by
  induction h generalizing k with
  | nil => cases hc
  | @cons start e es group rest _ _ slots _ ih =>
    rcases Nat.lt_or_ge k group.length with lt | ge
    · obtain ⟨c', slot, hc', _, lies⟩ := slots.lies start lt
      rw [List.getElem?_append_left lt] at hc
      cases hc.symm.trans hc'
      exact ⟨0, _, _, k, slot, rfl, rfl, lies⟩
    · rw [List.getElem?_append_right ge] at hc
      obtain ⟨place, e, f, offset, slot, he, hf, lies⟩ := ih hc
      rw [Nat.add_assoc, Nat.add_sub_cancel' ge] at lies
      exact ⟨place + 1, e, f, offset, slot, he, hf, lies⟩

/-- Every slot of the part of a type is that of some column. -/
lemma Accepts.exists_lies (h : Accepts root start es columns fragments) {place : Nat}
    {f : FragmentLayout} (he : es[place]? = some e) (hf : fragments[place]? = some f) :
    f.slotCount = e.mapping.slotCount ∧
      ∀ offset slot, f.slots[offset]? = some slot →
        ∃ k c, columns[k]? = some c ∧ Lies root e f c (start + k) offset slot := by
  induction h generalizing place with
  | nil => cases he
  | @cons start _ es group rest _ _ slots _ ih =>
    cases place with
    | zero =>
      cases he
      cases hf
      refine ⟨rfl, fun offset slot hs => ?_⟩
      have lt : offset < group.length := slots.length_eq ▸ (List.getElem?_eq_some_iff.1 hs).1
      obtain ⟨c, slot', hc, hs', lies⟩ := slots.lies start lt
      cases hs.symm.trans hs'
      refine ⟨offset, c, ?_, lies⟩
      rw [List.getElem?_append_left lt, hc]
    | succ place =>
      obtain ⟨count, later⟩ := ih he hf
      refine ⟨count, fun offset slot hs => ?_⟩
      obtain ⟨k, c, hc, lies⟩ := later offset slot hs
      refine ⟨group.length + k, c, ?_, ?_⟩
      · rw [List.getElem?_append_right (Nat.le_add_right ..), Nat.add_sub_cancel_left, hc]
      · rw [← Nat.add_assoc]
        exact lies

lemma Accepts.length (h : Accepts root start es columns fragments) :
    fragments.length = es.length := by
  induction h with
  | nil => rfl
  | cons _ _ ih => exact congrArg (· + 1) ih

/-- A column that names an alias is put into slots of the type with that alias only. -/
lemma columnSlot_columnAlias {e' : PlannedEntity} (named : e'.IsNamed) {name : String}
    {slot : Nat} : columnSlot root e (columnAlias e'.tableAlias name) = .ok slot ↔
      e'.tableAlias = e.tableAlias ∧ e.mapping.slot? name = some slot := by
  simp only [columnSlot, PlannedEntity.cut?_columnAlias named]
  by_cases same : e'.tableAlias = e.tableAlias
  · rw [if_pos same, ok_bind]
    cases e.mapping.slot? name with
    | none => simp
    | some slot' => simp [same]
  · rw [if_neg same, error_bind]
    constructor
    · intro h
      cases h
    · intro both
      exact absurd both.1 same

variable {p : Plan} {r : Registry} {root : EntityMapping}

/-- A layout is found for accepted columns only. -/
lemma layout_eq_ok (grown : PlanDraft.Grown r root ⟨p.entities, p.joins⟩) {l : RowLayout}
    (hl : p.layout columns = .ok l) :
    l.width = columns.length ∧
      Accepts p.root.entityType 0 p.entities columns l.fragments := by
  obtain ⟨e, es, entities, _⟩ := grown.head
  dsimp only at entities
  rw [layout, splitPoints_eq grown, entities, List.tail_cons] at hl
  cases found : boundaries columns 0 (es.map (·.splitColumn)) with
  | error f =>
    rw [found] at hl
    cases hl
  | ok starts =>
    rw [found] at hl
    obtain ⟨_, same, hl⟩ := bind_eq_ok.1 hl
    cases same
    obtain ⟨fragments, laid, hl⟩ := bind_eq_ok.1 hl
    cases hl
    rw [entities]
    exact ⟨rfl, @accepts_of_layouts _ e es fragments [] columns starts found laid⟩

end Plan

/--
A part of a row holds the value of every column that is named for the type, in the slot that it is
named for, and null in the slots for which there is no column.
-/
structure PlannedEntity.Receives (e : PlannedEntity) (columns : List String) (row : List Value)
    (part : Fragment) : Prop where
  /-- There is a value for every slot. -/
  width : part.values.length = e.mapping.slotCount
  /-- The value of a column is that of the slot that it is named for. -/
  listed : ∀ (slot : Nat) (name : String), e.mapping.propertyNames[slot]? = some name →
    ∀ k : Nat, columns[k]? = some (columnAlias e.tableAlias name) → part.values[slot]? = row[k]?
  /-- A slot without a column is null. -/
  missing : ∀ (slot : Nat) (name : String), e.mapping.propertyNames[slot]? = some name →
    columnAlias e.tableAlias name ∉ columns → part.values[slot]? = some .null

/-- The parts of a row hold what the types receive of it. -/
structure Plan.Distributes (p : Plan) (columns : List String) (row : List Value)
    (parts : List Fragment) : Prop where
  /-- There is a part for every type. -/
  count : parts.length = p.typeCount
  /-- Every type has received its values. -/
  receives : ∀ (place : Nat) (e : PlannedEntity) (part : Fragment), p.entities[place]? = some e →
    parts[place]? = some part → e.Receives columns row part

namespace FragmentLayout

variable {f : FragmentLayout} {row : List Value} {slot : Nat}

lemma length_fragment : (f.fragment row).values.length = f.slotCount := by
  rw [fragment, length_fill, List.length_replicate]

/-- A slot of one column has the value of that column. -/
lemma getElem?_fragment (lt : slot < f.slotCount) {offset : Nat} {v : Value}
    (hs : f.slots[offset]? = some slot) (hv : row[f.start + offset]? = some v)
    (only : ∀ offset', f.slots[offset']? = some slot → offset' = offset) :
    (f.fragment row).values[slot]? = some v := by
  have pair : (f.slots.zip (row.drop f.start))[offset]? = some (slot, v) := by
    rw [List.getElem?_zip_eq_some, List.getElem?_drop]
    exact ⟨hs, hv⟩
  apply getElem?_fill_of_mem (by rwa [List.length_replicate]) (List.mem_of_getElem? pair)
  intro v' hv'
  obtain ⟨offset', hpair⟩ := List.getElem?_of_mem hv'
  rw [only offset' (List.getElem?_zip_eq_some.1 hpair).1] at hpair
  cases hpair.symm.trans pair
  rfl

/-- A slot without a column is null. -/
lemma getElem?_fragment_of_notMem (lt : slot < f.slotCount) (absent : slot ∉ f.slots) :
    (f.fragment row).values[slot]? = some .null := by
  have none : ∀ v, (slot, v) ∉ f.slots.zip (row.drop f.start) := fun v hv =>
    absent (List.of_mem_zip hv).1
  rw [fragment, getElem?_fill_of_notMem none]
  exact List.getElem?_replicate_of_lt lt

end FragmentLayout

namespace Plan

variable {columns : List String} {p : Plan} {r : Registry} {root : EntityMapping}

section
variable {fragments : List FragmentLayout} {place k slot : Nat} {e : PlannedEntity}
variable {f : FragmentLayout} {name : String}

/-- A slot of a part is that of the column named for it. -/
lemma Accepts.column_named (grown : PlanDraft.Grown r root ⟨p.entities, p.joins⟩)
    (h : Accepts p.root.entityType 0 p.entities columns fragments)
    (drawn : ∀ c ∈ columns, c ∈ p.columns) (he : p.entities[place]? = some e)
    (hf : fragments[place]? = some f) (hname : e.mapping.propertyNames[slot]? = some name)
    {offset : Nat} (hs : f.slots[offset]? = some slot) :
    columns[f.start + offset]? = some (columnAlias e.tableAlias name) := by
  obtain ⟨k, c, hc, lies⟩ := (h.exists_lies he hf).2 offset slot hs
  obtain ⟨e', he', hc'⟩ := mem_columns.1 (drawn c (List.mem_of_getElem? hc))
  obtain ⟨q, _, rfl⟩ := List.mem_map.1 hc'
  obtain ⟨same, hslot⟩ := (columnSlot_columnAlias (grown.named.1 e' he')).1 lies.named
  cases (EntityMapping.getElem?_of_slot? hslot).symm.trans hname
  rw [← lies.place, Nat.zero_add, hc, same]

/-- A column lies in the part of the type whose alias it names, which has its slot there. -/
lemma Accepts.exists_offset (grown : PlanDraft.Grown r root ⟨p.entities, p.joins⟩)
    (h : Accepts p.root.entityType 0 p.entities columns fragments)
    (he : p.entities[place]? = some e) (hf : fragments[place]? = some f)
    (hname : e.mapping.propertyNames[slot]? = some name)
    (hk : columns[k]? = some (columnAlias e.tableAlias name)) :
    ∃ offset, f.slots[offset]? = some slot ∧ k = f.start + offset := by
  obtain ⟨place', e', f', offset, slot', he', hf', lies⟩ := h.lies hk
  have named := grown.named.1 e (List.mem_of_getElem? he)
  obtain ⟨same, hslot⟩ := (columnSlot_columnAlias named).1 lies.named
  rw [(grown.alias_eq he).1, (grown.alias_eq he').1] at same
  cases aliasAt_injective same
  cases he.symm.trans he'
  cases hf.symm.trans hf'
  cases (EntityMapping.slot?_of_getElem? hname).symm.trans hslot
  exact ⟨offset, lies.slotted, (Nat.zero_add k).symm.trans lies.place⟩

/-- What a type receives of a row by an accepted layout. -/
lemma Accepts.receives (grown : PlanDraft.Grown r root ⟨p.entities, p.joins⟩)
    (h : Accepts p.root.entityType 0 p.entities columns fragments) (nodup : columns.Nodup)
    (drawn : ∀ c ∈ columns, c ∈ p.columns) {row : List Value}
    (length : row.length = columns.length) (he : p.entities[place]? = some e)
    (hf : fragments[place]? = some f) : e.Receives columns row (f.fragment row) := by
  obtain ⟨count, _⟩ := h.exists_lies he hf
  constructor
  · exact FragmentLayout.length_fragment.trans count
  · intro slot name hname k hk
    obtain ⟨offset, hs, rfl⟩ := h.exists_offset grown he hf hname hk
    have within : f.start + offset < row.length :=
      length ▸ (List.getElem?_eq_some_iff.1 hk).1
    have bound : slot < f.slotCount := count ▸ EntityMapping.lt_of_getElem?_propertyNames hname
    rw [List.getElem?_eq_getElem within]
    apply FragmentLayout.getElem?_fragment bound hs (List.getElem?_eq_getElem within)
    -- The column has no other place, as no name is listed twice.
    intro offset' hs'
    have again := h.column_named grown drawn he hf hname hs'
    have lt := (List.getElem?_eq_some_iff.1 again).1
    exact Nat.add_left_cancel ((List.getElem?_inj lt nodup).1 (again.trans hk.symm))
  · intro slot name hname absent
    have bound : slot < f.slotCount := count ▸ EntityMapping.lt_of_getElem?_propertyNames hname
    apply FragmentLayout.getElem?_fragment_of_notMem bound
    intro hs
    obtain ⟨offset, hs⟩ := List.getElem?_of_mem hs
    exact absent (List.mem_of_getElem? (h.column_named grown drawn he hf hname hs))

end

/-- A row is split by an accepted layout into what the types receive of it. -/
lemma distributes_of_layout (grown : PlanDraft.Grown r root ⟨p.entities, p.joins⟩)
    (nodup : columns.Nodup) (drawn : ∀ c ∈ columns, c ∈ p.columns) {l : RowLayout}
    (hl : p.layout columns = .ok l) {row : List Value} (length : row.length = columns.length) :
    ∃ parts, l.split row = .ok parts ∧ p.Distributes columns row parts := by
  obtain ⟨width, accepts⟩ := layout_eq_ok grown hl
  refine ⟨l.fragments.map (·.fragment row), ?_, ?_, ?_⟩
  · rw [RowLayout.split, width, if_neg (not_not.2 length)]
  · rw [List.length_map, accepts.length, p.counted]
  · intro place e part he hpart
    obtain ⟨f, hf, rfl⟩ := Option.map_eq_some_iff.1 (List.getElem?_map.symm.trans hpart)
    exact accepts.receives grown nodup drawn length he hf

end Plan

section
variable {columns columns' : List String} {row row' : List Value}

/-- Two rows with the same values in columns of the same names. -/
structure SameColumns (columns columns' : List String) (row row' : List Value) : Prop where
  /-- The first row has a value for every column. -/
  width : row.length = columns.length
  /-- So has the second one. -/
  width' : row'.length = columns'.length
  /-- Only the order of the columns is different. -/
  perm : (columns.zip row).Perm (columns'.zip row')

lemma SameColumns.perm_columns (h : SameColumns columns columns' row row') :
    columns.Perm columns' := by
  have names := h.perm.map Prod.fst
  rwa [List.map_fst_zip (Nat.le_of_eq h.width.symm), List.map_fst_zip (Nat.le_of_eq h.width'.symm)]
    at names

/-- What a type receives does not depend on the order of the columns. -/
lemma PlannedEntity.Receives.eq {e : PlannedEntity} {part part' : Fragment}
    (h : e.Receives columns row part) (h' : e.Receives columns' row' part')
    (same : SameColumns columns columns' row row') : part = part' := by
  have values : part.values = part'.values := by
    apply List.ext_getElem?
    intro slot
    rcases Nat.lt_or_ge slot e.mapping.propertyNames.length with lt | ge
    · have hname := List.getElem?_eq_getElem lt
      by_cases hc : columnAlias e.tableAlias e.mapping.propertyNames[slot] ∈ columns
      · obtain ⟨k, hk⟩ := List.getElem?_of_mem hc
        have within : k < row.length := same.width ▸ (List.getElem?_eq_some_iff.1 hk).1
        have pair : (columns.zip row)[k]? = some (_, row[k]) :=
          List.getElem?_zip_eq_some.2 ⟨hk, List.getElem?_eq_getElem within⟩
        obtain ⟨k', hpair⟩ := List.getElem?_of_mem (same.perm.subset (List.mem_of_getElem? pair))
        obtain ⟨hk', hv⟩ := List.getElem?_zip_eq_some.1 hpair
        rw [h.listed slot _ hname k hk, h'.listed slot _ hname k' hk', hv,
          List.getElem?_eq_getElem within]
      · have hc' := fun again => hc (same.perm_columns.symm.subset again)
        rw [h.missing slot _ hname hc, h'.missing slot _ hname hc']
    · rw [EntityMapping.length_propertyNames] at ge
      rw [List.getElem?_eq_none (h.width ▸ ge), List.getElem?_eq_none (h'.width ▸ ge)]
  cases part
  cases part'
  exact congrArg Fragment.mk values

/-- What all types receive does not depend on the order of the columns. -/
lemma Plan.Distributes.eq {p : Plan} {parts parts' : List Fragment}
    (h : p.Distributes columns row parts) (h' : p.Distributes columns' row' parts')
    (same : SameColumns columns columns' row row') : parts = parts' := by
  apply List.ext_getElem (h.count.trans h'.count.symm)
  intro place lt lt'
  have within : place < p.entities.length := Nat.lt_of_lt_of_eq lt (h.count.trans p.counted)
  have he := List.getElem?_eq_getElem within
  exact (h.receives place _ _ he (List.getElem?_eq_getElem lt)).eq
    (h'.receives place _ _ he (List.getElem?_eq_getElem lt')) same

end

namespace Plan

variable {p : Plan} {r : Registry} {root : EntityMapping} {dialect : Dialect} {tree : IncludeTree}

/--
For columns that are drawn from those of a plan there is no layout, or it puts each value into the
slot that its column is named for and null into all other slots. So the columns in another order
have no layout, or give the same parts.
-/
theorem layout_distributes (h : Plan.build dialect r root tree = .ok p) {columns : List String}
    (nodup : columns.Nodup) (drawn : ∀ c ∈ columns, c ∈ p.columns) :
    ((∃ e, p.layout columns = .error e) ∨
      ∃ l, p.layout columns = .ok l ∧ ∀ row : List Value, row.length = columns.length →
        ∃ parts, l.split row = .ok parts ∧ p.Distributes columns row parts) ∧
    ∀ columns' row row' parts, SameColumns columns columns' row row' →
      p.splitRow columns row = .ok parts →
      (∃ e, p.layout columns' = .error e) ∨ p.splitRow columns' row' = .ok parts := by
  obtain ⟨_, _, grown⟩ := of_build h
  constructor
  · cases hl : p.layout columns with
    | error e => exact .inl ⟨e, rfl⟩
    | ok l =>
      refine .inr ⟨l, rfl, fun row length => ?_⟩
      exact distributes_of_layout grown nodup drawn hl length
  · intro columns' row row' parts same split
    cases hl' : p.layout columns' with
    | error e => exact .inl ⟨e, rfl⟩
    | ok l' =>
      apply Or.inr
      have perm := same.perm_columns
      obtain ⟨parts', split', given'⟩ := distributes_of_layout grown (perm.nodup_iff.1 nodup)
        (fun c hc => drawn c (perm.symm.subset hc)) hl' same.width'
      obtain ⟨l, hl, split⟩ := bind_eq_ok.1 split
      obtain ⟨_, again, given⟩ := distributes_of_layout grown nodup drawn hl same.width
      cases split.symm.trans again
      rw [splitRow, hl', ok_bind, split', given.eq given' same]

/-- Some columns of three folders, those of the first one in another order. -/
def sampleReordering : List String := ["a___Name_", "a__Id", "b1__Id", "b1__Parent_", "b2__Id"]

/--
The values of these columns find their slots. With the key of the second folder behind another of
its columns there is no layout.
-/
theorem layout_distributes_folders :
    ∃ p, Plan.build .postgres (.ofList [sampleFolder]) sampleFolder sampleFolders = .ok p ∧
      (∀ c ∈ sampleReordering, c ∈ p.columns) ∧
      p.splitRow sampleReordering [.string "x", .int32 1, .int32 2, .int32 1, .int32 1] =
        .ok [⟨[.string "x", .int32 1, .null]⟩, ⟨[.null, .int32 2, .int32 1]⟩,
          ⟨[.null, .int32 1, .null]⟩] ∧
      p.layout ["a___Name_", "a__Id", "b1__Parent_", "b1__Id", "b2__Id"] =
        .error (.mapping "Folder" (.misplacedColumn "b1__Parent_" "b1" "a")) ∧
      ((∃ e, p.layout sampleReordering = .error e) ∨
        ∃ l, p.layout sampleReordering = .ok l ∧
          ∀ row : List Value, row.length = sampleReordering.length →
            ∃ parts, l.split row = .ok parts ∧ p.Distributes sampleReordering row parts) := by
  have planned : ∃ p, Plan.build .postgres (.ofList [sampleFolder]) sampleFolder sampleFolders =
      .ok p ∧ (∀ c ∈ sampleReordering, c ∈ p.columns) ∧
      p.splitRow sampleReordering [.string "x", .int32 1, .int32 2, .int32 1, .int32 1] =
        .ok [⟨[.string "x", .int32 1, .null]⟩, ⟨[.null, .int32 2, .int32 1]⟩,
          ⟨[.null, .int32 1, .null]⟩] ∧
      p.layout ["a___Name_", "a__Id", "b1__Parent_", "b1__Id", "b2__Id"] =
        .error (.mapping "Folder" (.misplacedColumn "b1__Parent_" "b1" "a")) :=
    ⟨_, rfl, by decide, rfl, rfl⟩
  obtain ⟨p, hp, drawn, split, moved⟩ := planned
  exact ⟨p, hp, drawn, split, moved, (layout_distributes hp (by decide) drawn).1⟩

end Plan

end RelMap
