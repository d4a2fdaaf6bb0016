import RelMap.Proofs.Mapping.Rules

/-!
# Slots of a mapping

The properties of a mapping have different names, so that every property has a slot of its own and
every slot has a property; the key properties are among them.
-/

namespace RelMap

namespace EntityMapping

variable {m : EntityMapping} {values : List Value} {name : String}

/-- The slot that a mapping looks up is the place where the property is declared. -/
lemma slot?_eq (m : EntityMapping) (name : String) :
    m.slot? name = m.propertyNames.findIdx? (· == name) :=
  m.describes.indexes.lookup_eq name

/-- The property that a mapping looks up is the declared one. -/
lemma property?_eq (m : EntityMapping) (name : String) :
    m.property? name = m.properties.find? (·.name == name) := by
  rw [property?, slot?_eq, MappingDraft.propertyNames, List.findIdx?_map]
  exact (List.find?_eq_bind_findIdx?_getElem? ..).symm

/-- The column that a mapping looks up is the one that the property is declared with. -/
lemma column?_eq (m : EntityMapping) (name : String) :
    m.column? name = (m.property? name).map (·.column) := by
  rw [column?, property?, m.describes.columns, Option.map_bind]
  exact Option.bind_congr fun slot _ => List.getElem?_map ..

lemma nodup_propertyNames (m : EntityMapping) : m.propertyNames.Nodup := m.regular.nodup_properties

/-- Key properties are mapped. -/
lemma mem_propertyNames_of_mem_keys {k : String} (h : k ∈ m.keys) : k ∈ m.propertyNames :=
  m.regular.keys k h

/-- The slot of the property at a place is that place. -/
lemma slot?_getElem {i : Nat} (h : i < m.propertyNames.length) :
    m.slot? m.propertyNames[i] = some i := by
  rw [slot?_eq, List.findIdx?_eq_some_iff_getElem]
  refine ⟨h, beq_self_eq_true _, fun j lt same => ?_⟩
  have at_j : j < m.propertyNames.length := Nat.lt_trans lt h
  exact absurd (m.nodup_propertyNames.getElem_inj_iff.1 (eq_of_beq same)) (Nat.ne_of_lt lt)

lemma getElem?_of_slot? {name : String} {i : Nat} (h : m.slot? name = some i) :
    m.propertyNames[i]? = some name := by
  rw [slot?_eq] at h
  obtain ⟨lt, same, _⟩ := List.findIdx?_eq_some_iff_getElem.1 h
  rw [List.getElem?_eq_getElem lt, eq_of_beq same]

lemma slot?_of_getElem? {name : String} {i : Nat} (h : m.propertyNames[i]? = some name) :
    m.slot? name = some i := by
  obtain ⟨lt, rfl⟩ := List.getElem?_eq_some_iff.1 h
  exact slot?_getElem lt

lemma length_propertyNames (m : EntityMapping) : m.propertyNames.length = m.slotCount :=
  List.length_map ..

lemma lt_of_getElem?_propertyNames {name : String} {i : Nat}
    (h : m.propertyNames[i]? = some name) : i < m.slotCount :=
  m.length_propertyNames ▸ (List.getElem?_eq_some_iff.1 h).1

/-- Exactly the mapped properties have slots. -/
lemma isSome_slot? : (m.slot? name).isSome ↔ name ∈ m.propertyNames :=
  m.describes.indexes.isSome_lookup

lemma exists_slot? {p : Property} (h : p ∈ m.properties) : ∃ i, m.slot? p.name = some i :=
  Option.isSome_iff_exists.1 (isSome_slot?.2 (List.mem_map_of_mem h))

/-- The slots that are read are there and not null, when there is a key. -/
lemma presentValues_eq_some {slots : List Nat} {key : List Value}
    (h : presentValues values slots = some key) :
    ∀ slot ∈ slots, ∃ v, values[slot]? = some v ∧ v.isNull = false := by
  induction slots generalizing key with
  | nil => nofun
  | cons slot slots ih =>
    unfold presentValues at h
    split at h
    next v hv =>
      split at h
      next => cases h
      next present =>
        obtain ⟨_, rest, _⟩ := Option.map_eq_some_iff.1 h
        intro s hs
        rcases List.mem_cons.1 hs with rfl | hs
        · exact ⟨v, hv, by simpa using present⟩
        · exact ih rest s hs
    next => cases h

/-- Values with a key are not all null. -/
lemma not_all_isNull (h : (m.key? values).isSome) : values.all Value.isNull = false := by
  obtain ⟨key, hkey⟩ := Option.isSome_iff_exists.1 h
  unfold key? at hkey
  split at hkey
  next => cases hkey
  next keyed =>
    have some : m.keys ≠ [] := fun none => keyed (by rw [isKeyless, none]; rfl)
    obtain ⟨k, ks, hk⟩ := List.exists_cons_of_ne_nil some
    have mapped : k ∈ m.propertyNames := mem_propertyNames_of_mem_keys (by rw [hk]; simp)
    obtain ⟨slot, hs⟩ := Option.isSome_iff_exists.1 (isSome_slot?.2 mapped)
    -- The first key property has a slot, and its value is part of the key.
    have first : slot ∈ m.keySlots := by
      have slots := m.describes.keySlots
      rw [hk, List.forall₂_cons_left_iff] at slots
      obtain ⟨slot', rest, hs', -, eq⟩ := slots
      cases hs.symm.trans hs'
      rw [eq]
      exact List.mem_cons_self
    obtain ⟨v, hv, present⟩ := presentValues_eq_some hkey slot first
    rw [List.all_eq_false]
    exact ⟨v, List.mem_of_getElem? hv, by rw [present]; exact Bool.false_ne_true⟩

end EntityMapping

end RelMap
