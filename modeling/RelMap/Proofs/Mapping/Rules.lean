import RelMap.Mapping.Basic
import RelMap.Proofs.Except
import RelMap.Proofs.Text.Part
import Mathlib.Data.List.Nodup

/-!
# Rules for drafts

What a draft has to keep to state a mapping, without regard to the order in which it is looked
through: its members have different names, no property has a reserved one, and whatever names a
property names one of its own.
-/

namespace RelMap

namespace MappingDraft

/-- A draft that keeps every rule for mappings. -/
structure Regular (d : MappingDraft) : Prop where
  /-- No two properties have one name. -/
  nodup_properties : d.propertyNames.Nodup
  /-- The separator of aliases stands in no name of a property. -/
  unreserved : ∀ name ∈ d.propertyNames, ¬aliasSeparator.toList <:+: name.toList
  /-- The key consists of properties. -/
  keys : ∀ key ∈ d.keys, key ∈ d.propertyNames
  /-- Every reference is held by a property. -/
  references : ∀ fk ∈ d.foreignKeys, fk.property ∈ d.propertyNames
  /-- No two navigations have one name. -/
  nodup_navigations : d.navigationNames.Nodup
  /-- No navigation is named like a property. -/
  apart : ∀ navigation ∈ d.navigationNames, navigation ∉ d.propertyNames

variable {d : MappingDraft} {m : EntityMapping} {seen names : List String}
variable {slots table : List (String × Nat)}

/-- Names that are told apart from those before are told apart from the first one and the others. -/
lemma forall_notMem_cons {names : List String} {name : String} :
    (∀ n ∈ names, n ∉ name :: seen) ↔ name ∉ names ∧ ∀ n ∈ names, n ∉ seen := by
  simp only [List.mem_cons, not_or, forall_and]
  refine and_congr_left' ⟨fun apart again => apart name again rfl, fun new n hn same => ?_⟩
  exact new (same ▸ hn)

/-- A table has some names, each with its place among them. -/
structure Indexes (slots : List (String × Nat)) (names : List String) : Prop where
  length_eq : slots.length = names.length
  lookup_eq : ∀ name, slots.lookup name = names.findIdx? (· == name)

namespace Indexes

lemma nil : Indexes [] [] := ⟨rfl, fun _ => rfl⟩

/-- Exactly the names of a table have places. -/
lemma isSome_lookup (h : Indexes slots names) {name : String} :
    (slots.lookup name).isSome ↔ name ∈ names := by
  rw [h.lookup_eq, List.findIdx?_isSome, List.any_eq_true]
  constructor
  · rintro ⟨n, hn, same⟩
    exact eq_of_beq same ▸ hn
  · exact fun hn => ⟨name, hn, beq_self_eq_true _⟩

/-- A new name has the place behind the others. -/
lemma concat (h : Indexes slots names) {name : String} (new : name ∉ names) :
    Indexes ((name, slots.length) :: slots) (names ++ [name]) where
  length_eq := by rw [List.length_cons, h.length_eq, List.length_append, List.length_singleton]
  lookup_eq := fun other => by
    rw [List.lookup_cons, h.lookup_eq, h.length_eq, List.findIdx?_append]
    by_cases same : other = name
    · have absent : names.findIdx? (· == name) = none :=
        List.findIdx?_eq_none_iff.2 fun n hn =>
          beq_eq_false_iff_ne.2 (ne_of_mem_of_not_mem hn new)
      rw [same, beq_self_eq_true, absent]
      simp
    · rw [beq_eq_false_iff_ne.2 same]
      simp [Ne.symm same]

/-- The table of some properties has the names before them and theirs. -/
lemma of_indexProperties (h : Indexes slots names) {properties : List Property}
    (ht : indexProperties slots properties = .ok table) :
    Indexes table (names ++ properties.map (·.name)) := by
  induction properties generalizing slots names with
  | nil =>
    cases ht
    rw [List.map_nil, List.append_nil]
    exact h
  | cons p ps ih =>
    unfold indexProperties at ht
    split at ht
    next => cases ht
    next =>
      split at ht
      next => cases ht
      next new =>
        rw [List.map_cons, List.append_cons]
        exact ih (h.concat fun old => new (h.isSome_lookup.2 old)) ht

/-- Properties have a table when their names are new and none is reserved. -/
lemma exists_indexProperties (h : Indexes slots names) {properties : List Property} :
    (∃ table, indexProperties slots properties = .ok table) ↔
      (properties.map (·.name)).Nodup ∧
      (∀ name ∈ properties.map (·.name), ¬aliasSeparator.toList <:+: name.toList) ∧
      ∀ name ∈ properties.map (·.name), name ∉ names := by
  induction properties generalizing slots names with
  | nil => exact iff_of_true ⟨_, rfl⟩ ⟨.nil, List.forall_mem_nil _, List.forall_mem_nil _⟩
  | cons p ps ih =>
    rw [indexProperties, List.map_cons, List.nodup_cons, List.forall_mem_cons, List.forall_mem_cons,
      ← Text.contains_iff]
    split
    next reserved => exact iff_of_false nofun fun regular => regular.2.1.1 reserved
    next unreserved =>
      split
      next old => exact iff_of_false nofun fun regular => regular.2.2.1 (h.isSome_lookup.1 old)
      next new =>
        have new : p.name ∉ names := fun old => new (h.isSome_lookup.2 old)
        have apart : (∀ name ∈ ps.map (·.name), name ∉ names ++ [p.name]) ↔
            p.name ∉ ps.map (·.name) ∧ ∀ name ∈ ps.map (·.name), name ∉ names := by
          rw [← forall_notMem_cons]
          simp [or_comm]
        rw [ih (h.concat new), apart]
        constructor
        · rintro ⟨nodup, plain, other, apart⟩
          exact ⟨⟨other, nodup⟩, ⟨unreserved, plain⟩, new, apart⟩
        · rintro ⟨⟨other, nodup⟩, ⟨-, plain⟩, -, apart⟩
          exact ⟨nodup, plain, other, apart⟩

/-- Navigations pass when their names differ from each other, those before, and the properties. -/
lemma checkNavigations_eq_ok (h : Indexes slots names) {navigations : List String} :
    checkNavigations slots seen navigations = .ok () ↔
      navigations.Nodup ∧ (∀ navigation ∈ navigations, navigation ∉ names) ∧
        ∀ navigation ∈ navigations, navigation ∉ seen := by
  induction navigations generalizing seen with
  | nil => exact iff_of_true rfl ⟨.nil, List.forall_mem_nil _, List.forall_mem_nil _⟩
  | cons n ns ih =>
    rw [checkNavigations, List.nodup_cons, List.forall_mem_cons, List.forall_mem_cons]
    split
    next old =>
      rw [h.isSome_lookup] at old
      exact iff_of_false nofun fun regular => old.elim regular.2.1.1 regular.2.2.1
    next new =>
      rw [h.isSome_lookup, not_or] at new
      rw [ih, forall_notMem_cons]
      constructor
      · rintro ⟨nodup, apart, other, apart'⟩
        exact ⟨⟨other, nodup⟩, ⟨new.1, apart⟩, new.2, apart'⟩
      · rintro ⟨⟨other, nodup⟩, ⟨-, apart⟩, -, apart'⟩
        exact ⟨nodup, apart, other, apart'⟩

end Indexes

/-- The key slots are those of the key properties, which have to be in the table. -/
lemma mapM_indexKey_eq_ok {keys : List String} {keySlots : List Nat} :
    keys.mapM (indexKey slots) = .ok keySlots ↔
      List.Forall₂ (fun key slot => slots.lookup key = some slot) keys keySlots := by
  have found {key : String} {slot : Nat} :
      indexKey slots key = .ok slot ↔ slots.lookup key = some slot := by
    unfold indexKey
    cases slots.lookup key <;> simp
  induction keys generalizing keySlots with
  | nil => simp [eq_comm]
  | cons key keys ih =>
    simp only [List.mapM_cons, bind_eq_ok, pure_eq_ok, Except.ok.injEq, found, ih,
      List.forall₂_cons_left_iff]
    simp only [eq_comm, exists_and_left]

/-- Keys have slots when all of them are in the table. -/
lemma exists_mapM_indexKey {keys : List String} :
    (∃ keySlots, keys.mapM (indexKey slots) = .ok keySlots) ↔
      ∀ key ∈ keys, (slots.lookup key).isSome := by
  simp only [mapM_indexKey_eq_ok]
  induction keys with
  | nil => exact iff_of_true ⟨[], .nil⟩ (List.forall_mem_nil _)
  | cons key keys ih =>
    rw [List.forall_mem_cons, ← ih, Option.isSome_iff_exists]
    simp only [List.forall₂_cons_left_iff]
    constructor
    · rintro ⟨_, slot, rest, hslot, hrest, rfl⟩
      exact ⟨⟨slot, hslot⟩, rest, hrest⟩
    · rintro ⟨⟨slot, hslot⟩, rest, hrest⟩
      exact ⟨_, slot, rest, hslot, hrest, rfl⟩

/-- References pass when the properties that hold them are in the table. -/
lemma forM_checkForeignKey_eq_ok {foreignKeys : List ForeignKey} :
    foreignKeys.forM (checkForeignKey slots) = .ok () ↔
      ∀ fk ∈ foreignKeys, (slots.lookup fk.property).isSome := by
  induction foreignKeys with
  | nil => exact iff_of_true rfl (List.forall_mem_nil _)
  | cons fk fks ih =>
    rw [List.forM, List.forall_mem_cons, checkForeignKey]
    split
    next found => rw [ok_bind, ih, and_iff_right found]
    next absent => exact iff_of_false nofun fun found => absent found.1

/-- Tables that agree with what a draft declares. -/
structure Describes (d : MappingDraft) (tables : MappingTables) : Prop where
  /-- A property has the slot at which it is declared. -/
  indexes : Indexes tables.slots d.propertyNames
  /-- The slots of the key are those of the key properties, in key order. -/
  keySlots : List.Forall₂ (fun key slot => tables.slots.lookup key = some slot) d.keys
    tables.keySlots
  /-- A column is the one that the property of its slot is declared with. -/
  columns : tables.columns = d.properties.map (·.column)

/-- A draft that has tables keeps the rules, and these are the tables that describe it. -/
lemma of_index {tables : MappingTables} (h : d.index = .ok tables) :
    d.Regular ∧ d.Describes tables := by
  unfold index at h
  simp only [bind_eq_ok, pure_eq_ok, Except.ok.injEq] at h
  obtain ⟨slots, hslots, keySlots, hkeys, _, references, _, navigations, rfl⟩ := h
  have indexes : Indexes slots d.propertyNames := Indexes.nil.of_indexProperties hslots
  obtain ⟨nodup, unreserved, -⟩ := Indexes.nil.exists_indexProperties.1 ⟨slots, hslots⟩
  obtain ⟨nodup', apart, -⟩ := indexes.checkNavigations_eq_ok.1 navigations
  refine ⟨⟨nodup, unreserved, fun key hk => ?_, fun fk hfk => ?_, nodup', apart⟩,
    indexes, mapM_indexKey_eq_ok.1 hkeys, rfl⟩
  · exact indexes.isSome_lookup.1 (exists_mapM_indexKey.1 ⟨_, hkeys⟩ key hk)
  · exact indexes.isSome_lookup.1 (forM_checkForeignKey_eq_ok.1 references fk hfk)

/-- A draft that keeps the rules has tables. -/
lemma Regular.exists_index (h : d.Regular) : ∃ tables, d.index = .ok tables := by
  obtain ⟨slots, hslots⟩ := Indexes.nil.exists_indexProperties.2
    ⟨h.nodup_properties, h.unreserved, fun _ _ => List.not_mem_nil⟩
  have indexes : Indexes slots d.propertyNames := Indexes.nil.of_indexProperties hslots
  obtain ⟨keySlots, hkeys⟩ := exists_mapM_indexKey.2 fun key hk =>
    indexes.isSome_lookup.2 (h.keys key hk)
  have references := forM_checkForeignKey_eq_ok.2 fun fk hfk =>
    indexes.isSome_lookup.2 (h.references fk hfk)
  have navigations := indexes.checkNavigations_eq_ok.2
    ⟨h.nodup_navigations, h.apart, fun _ _ => List.not_mem_nil⟩
  refine ⟨⟨slots, keySlots, d.properties.map (·.column)⟩, ?_⟩
  rw [index, hslots, ok_bind, hkeys, ok_bind, references, ok_bind, navigations, ok_bind, pure_eq_ok]

/-- A draft is built to a mapping that states the same. -/
lemma build_eq_ok : d.build = .ok m ↔ m.toMappingDraft = d := by
  unfold build
  split
  next tables built =>
    constructor
    · intro h
      cases h
      rfl
    · intro h
      exact congrArg Except.ok (EntityMapping.eq_of_toMappingDraft_eq h.symm)
  next f faulty =>
    refine iff_of_false nofun ?_
    rintro rfl
    exact nomatch m.built.symm.trans faulty

/-- Exactly the drafts that keep the rules are built. -/
lemma exists_build : (∃ m, d.build = .ok m) ↔ d.Regular := by
  constructor
  · rintro ⟨m, h⟩
    exact build_eq_ok.1 h ▸ (of_index m.built).1
  · intro regular
    obtain ⟨tables, built⟩ := regular.exists_index
    exact ⟨⟨d, tables, built⟩, build_eq_ok.2 rfl⟩

end MappingDraft

namespace EntityMapping

/-- Every mapping keeps the rules for drafts. -/
lemma regular (m : EntityMapping) : m.toMappingDraft.Regular :=
  (MappingDraft.of_index m.built).1

/-- The tables of a mapping are those of what it states. -/
lemma describes (m : EntityMapping) : m.toMappingDraft.Describes m.toMappingTables :=
  (MappingDraft.of_index m.built).2

end EntityMapping

end RelMap
