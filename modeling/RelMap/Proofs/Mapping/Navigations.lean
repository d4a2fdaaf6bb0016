import RelMap.Mapping.Registry
import RelMap.Proofs.Mapping.Slots

/-!
# Navigations of valid registries

A registry is valid when every reference and every collection of its mappings leads to a mapped
type, and every reference to a property of that type. So whoever follows navigations from a mapped
type stays among mapped types, and whoever compares a reference finds both of its properties.
-/

namespace RelMap

namespace EntityMapping

variable {m : EntityMapping} {name : String}

/-- A navigation that is a reference is that of a foreign key. -/
lemma find?_of_navigation? {fk : ForeignKey} (h : m.navigation? name = some (.reference fk)) :
    m.foreignKeys.find? (·.navigation == name) = some fk := by
  unfold navigation? at h
  split at h
  next found =>
    cases h
    exact found
  next =>
    obtain ⟨_, _, same⟩ := Option.map_eq_some_iff.1 h
    cases same

lemma mem_collections_of_navigation? {c : Collection}
    (h : m.navigation? name = some (.collection c)) : c ∈ m.collections := by
  unfold navigation? at h
  split at h
  next => cases h
  next =>
    obtain ⟨_, found, same⟩ := Option.map_eq_some_iff.1 h
    cases same
    exact List.mem_of_find?_eq_some found

/-- The property that holds a reference is mapped. -/
lemma mem_propertyNames_of_mem_foreignKeys {fk : ForeignKey} (h : fk ∈ m.foreignKeys) :
    fk.property ∈ m.propertyNames :=
  m.regular.references fk h

/-- A mapped property has a column. -/
lemma exists_column? (h : name ∈ m.propertyNames) : ∃ c, m.column? name = some c := by
  obtain ⟨p, hp, named⟩ := List.mem_map.1 h
  have found : (m.property? name).isSome := by
    rw [property?_eq, List.find?_isSome]
    exact ⟨p, hp, beq_iff_eq.2 named⟩
  obtain ⟨q, hq⟩ := Option.isSome_iff_exists.1 found
  exact ⟨q.column, by rw [column?_eq, hq]; rfl⟩

end EntityMapping

namespace Registry

variable {r : Registry} {type : String} {m : EntityMapping}

lemma find?_of_require (h : r.require type = .ok m) : r.find? type = some m := by
  unfold require at h
  split at h
  next found =>
    cases h
    exact found
  next => cases h

lemma require_of_find? (h : r.find? type = some m) : r.require type = .ok m := by
  rw [require, h]

lemma mem_of_require (h : r.require type = .ok m) : m ∈ r.mappings :=
  List.mem_of_find?_eq_some (find?_of_require h)

/-- No mapping of a valid registry has a fault among the others. -/
lemma mappingFault?_eq_none (valid : r.validate = .ok ()) (hm : m ∈ r.mappings) :
    m.foreignKeys.findSome? r.referenceFault? = none ∧
      m.collections.findSome? r.collectionFault? = none := by
  unfold validate at valid
  split at valid
  next => cases valid
  next sound =>
    have none := List.findSome?_eq_none_iff.1 sound m hm
    rw [Option.map_eq_none_iff, mappingFault?, Option.orElse_eq_orElse, Option.orElse_eq_or,
      Option.or_eq_none_iff] at none
    exact none

/-- A reference of a valid registry leads to a property of a mapped type. -/
lemma exists_principal (valid : r.validate = .ok ()) (hm : m ∈ r.mappings) {fk : ForeignKey}
    (hfk : fk ∈ m.foreignKeys) :
    ∃ principal, r.require fk.principal = .ok principal ∧
      fk.principalProperty ∈ principal.propertyNames := by
  have sound := List.findSome?_eq_none_iff.1 (mappingFault?_eq_none valid hm).1 fk hfk
  unfold referenceFault? at sound
  split at sound
  next => cases sound
  next principal found =>
    split at sound
    next => cases sound
    next slot hslot =>
      exact ⟨principal, require_of_find? found, EntityMapping.isSome_slot?.1 (by rw [hslot]; rfl)⟩

/-- A navigation of a valid registry leads to a mapped type. -/
lemma exists_related (valid : r.validate = .ok ()) (hm : r.require type = .ok m) {name : String}
    {n : Navigation} (hn : m.navigation? name = some n) :
    ∃ related, r.require n.related = .ok related := by
  cases n with
  | reference fk =>
    have hfk := List.mem_of_find?_eq_some (EntityMapping.find?_of_navigation? hn)
    obtain ⟨principal, found, -⟩ := exists_principal valid (mem_of_require hm) hfk
    exact ⟨principal, found⟩
  | collection c =>
    have hc := EntityMapping.mem_collections_of_navigation? hn
    have sound := List.findSome?_eq_none_iff.1
      (mappingFault?_eq_none valid (mem_of_require hm)).2 c hc
    unfold collectionFault? at sound
    split at sound
    next => cases sound
    next related found => exact ⟨related, require_of_find? found⟩

end Registry

end RelMap
