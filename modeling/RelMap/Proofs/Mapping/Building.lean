import RelMap.Proofs.Lists
import RelMap.Proofs.Mapping.Navigations

/-!
# Building mappings

A draft is built exactly when it keeps the rules, and to a mapping that states the same. What a
mapping is asked about one of its members by name, it answers as that member was declared, and it
knows no other names.
-/

namespace RelMap

namespace EntityMapping

/-- A mapping answers what is declared of its members, by their names. -/
structure Answers (m : EntityMapping) : Prop where
  /-- A property has the slot at which it is declared. -/
  slot : ∀ name i, m.slot? name = some i ↔ ∃ p, m.properties[i]? = some p ∧ p.name = name
  /-- The slots of the key are those of the key properties, in key order. -/
  keySlots : List.Forall₂ (fun key slot => m.slot? key = some slot) m.keys m.keySlots
  /-- A property has the declared column, or one of its own name where that is empty. -/
  column : ∀ p ∈ m.properties, m.column? p.name =
    some (if p.declaredColumn = "" then p.name else p.declaredColumn)
  /-- What is no property has no column. -/
  noColumn : ∀ name, name ∉ m.propertyNames → m.column? name = none
  /-- A reference is found by its name. -/
  reference : ∀ fk ∈ m.foreignKeys, m.navigation? fk.navigation = some (.reference fk)
  /-- A collection is found by its name. -/
  collection : ∀ c ∈ m.collections, m.navigation? c.navigation = some (.collection c)
  /-- Nothing else is found. -/
  noNavigation : ∀ name, name ∉ m.navigationNames → m.navigation? name = none

variable {m : EntityMapping} {name : String} {i : Nat}

/-- The slot of a name is the place where a property is declared with it. -/
lemma slot?_eq_some_iff :
    m.slot? name = some i ↔ ∃ p, m.properties[i]? = some p ∧ p.name = name := by
  have places : m.slot? name = some i ↔ m.propertyNames[i]? = some name :=
    ⟨getElem?_of_slot?, slot?_of_getElem?⟩
  rw [places, MappingDraft.propertyNames, List.getElem?_map, Option.map_eq_some_iff]

/-- A declared property is found by its name. -/
lemma property?_of_mem {p : Property} (h : p ∈ m.properties) : m.property? p.name = some p := by
  rw [property?_eq]
  exact (find?_eq_some_iff_of_nodup m.nodup_propertyNames).2 ⟨h, rfl⟩

/-- A declared property has its declared column, or else one of its own name. -/
lemma column?_of_mem {p : Property} (h : p ∈ m.properties) :
    m.column? p.name = some (if p.declaredColumn = "" then p.name else p.declaredColumn) := by
  rw [column?_eq, property?_of_mem h, Option.map_some, Property.column]
  exact congrArg some (if_congr String.isEmpty_iff rfl rfl)

/-- What is not declared has no column. -/
lemma column?_of_notMem (h : name ∉ m.propertyNames) : m.column? name = none := by
  have absent : m.property? name = none := by
    rw [property?_eq]
    exact List.find?_eq_none.2 fun p hp same => h (List.mem_map.2 ⟨p, hp, eq_of_beq same⟩)
  rw [column?_eq, absent, Option.map_none]

/-- The names of references and of collections differ among each other and from one another. -/
lemma nodup_navigations (m : EntityMapping) :
    (m.foreignKeys.map (·.navigation)).Nodup ∧ (m.collections.map (·.navigation)).Nodup ∧
      ∀ fk ∈ m.foreignKeys, ∀ c ∈ m.collections, fk.navigation ≠ c.navigation := by
  obtain ⟨references, collections, apart⟩ := List.nodup_append.1 m.regular.nodup_navigations
  exact ⟨references, collections, fun fk hfk c hc =>
    apart _ (List.mem_map_of_mem hfk) _ (List.mem_map_of_mem hc)⟩

/-- A declared reference is found by the name of its navigation. -/
lemma navigation?_of_mem_foreignKeys {fk : ForeignKey} (h : fk ∈ m.foreignKeys) :
    m.navigation? fk.navigation = some (.reference fk) := by
  have found : m.foreignKeys.find? (·.navigation == fk.navigation) = some fk :=
    (find?_eq_some_iff_of_nodup m.nodup_navigations.1).2 ⟨h, rfl⟩
  rw [navigation?, found]

/-- A declared collection is found by the name of its navigation. -/
lemma navigation?_of_mem_collections {c : Collection} (h : c ∈ m.collections) :
    m.navigation? c.navigation = some (.collection c) := by
  obtain ⟨-, nodup, apart⟩ := m.nodup_navigations
  -- References are looked through first, and none of them has the name of a collection.
  have absent : m.foreignKeys.find? (·.navigation == c.navigation) = none :=
    List.find?_eq_none.2 fun fk hfk same => apart fk hfk c h (eq_of_beq same)
  have found : m.collections.find? (·.navigation == c.navigation) = some c :=
    (find?_eq_some_iff_of_nodup nodup).2 ⟨h, rfl⟩
  rw [navigation?, absent, found, Option.map_some]

/-- What is not declared is no navigation. -/
lemma navigation?_of_notMem (h : name ∉ m.navigationNames) : m.navigation? name = none := by
  rw [MappingDraft.navigationNames, List.mem_append, not_or] at h
  have noReference : m.foreignKeys.find? (·.navigation == name) = none :=
    List.find?_eq_none.2 fun fk hfk same => h.1 (List.mem_map.2 ⟨fk, hfk, eq_of_beq same⟩)
  have noCollection : m.collections.find? (·.navigation == name) = none :=
    List.find?_eq_none.2 fun c hc same => h.2 (List.mem_map.2 ⟨c, hc, eq_of_beq same⟩)
  rw [navigation?, noReference, noCollection, Option.map_none]

/-- A mapping answers as it was declared. -/
lemma answers (m : EntityMapping) : m.Answers where
  slot _ _ := slot?_eq_some_iff
  keySlots := m.describes.keySlots
  column _ := column?_of_mem
  noColumn _ := column?_of_notMem
  reference _ := navigation?_of_mem_foreignKeys
  collection _ := navigation?_of_mem_collections
  noNavigation _ := navigation?_of_notMem

end EntityMapping

/--
A draft is built exactly when it keeps the rules. The mapping that it is built to states the same,
and answers for each name what is declared of the member of that name.
-/
theorem MappingDraft.build_answers (d : MappingDraft) :
    ((∃ m, d.build = .ok m) ↔ d.Regular) ∧
      ∀ m, d.build = .ok m → m.toMappingDraft = d ∧ m.Answers :=
  ⟨exists_build, fun m built => ⟨build_eq_ok.1 built, m.answers⟩⟩

/-- Lines of an order, whose key has its properties in another order than they are declared in. -/
def sampleLine : EntityMapping where
  entityType := "Line"
  table := "Lines"
  keys := ["Position", "OrderId"]
  properties := [{ name := "OrderId", declaredColumn := "order_id" }, { name := "Position" }]
  foreignKeys := [⟨"Order", "OrderId", "Order", "Id"⟩]
  collections := [{ navigation := "Notes", related := "Note" }]
  slots := [("Position", 1), ("OrderId", 0)]
  keySlots := [1, 0]
  columns := ["order_id", "Position"]
  built := rfl

/-- The slots of a key, and what is known of a property. -/
theorem build_answers_line :
    sampleLine.toMappingDraft.build = .ok sampleLine ∧ sampleLine.toMappingDraft.Regular ∧
      sampleLine.Answers ∧ sampleLine.keySlots = [1, 0] ∧
      sampleLine.column? "OrderId" = some "order_id" ∧
      sampleLine.column? "Position" = some "Position" ∧
      sampleLine.navigation? "Position" = none := by
  obtain ⟨buildable, built⟩ := MappingDraft.build_answers sampleLine.toMappingDraft
  have here : sampleLine.toMappingDraft.build = .ok sampleLine := rfl
  exact ⟨here, buildable.1 ⟨sampleLine, here⟩, (built sampleLine here).2, by decide, by decide,
    by decide, by decide⟩

end RelMap
