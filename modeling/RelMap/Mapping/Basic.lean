import RelMap.Fault

/-!
# Mappings of entity types

How an entity type lies in a table: its properties and their columns, its key, and the navigations
to other types. A draft is what a caller or a document states; a mapping is a draft without faults.
The properties are numbered in the order of their declaration, and these slots are the layout of
every instance and of every fragment of a row.
-/

namespace RelMap

/-- A scalar property and its column. -/
structure Property where
  /-- The name of the property. -/
  name : String
  /-- The declared name of the column; when it is empty the column is named like the property. -/
  declaredColumn : String := ""
  /-- Whether the database produces the value. -/
  isGenerated : Bool := false
  /-- Whether the value is never written back. -/
  isReadOnly : Bool := false
  /-- Whether the value is never null. -/
  isRequired : Bool := false
  /-- The greatest length of a string or of bytes. -/
  maxLength : Option Nat := none
  /-- The sequence that feeds a generated key. -/
  sequence : Option String := none
  deriving DecidableEq, Repr

/-- A reference to one entity, held by a property of the referring one. -/
structure ForeignKey where
  /-- The name of the navigation. -/
  navigation : String
  /-- The property that holds the key of the other entity. -/
  property : String
  /-- The type referred to. -/
  principal : String
  /-- The property of that type that the key is compared with. -/
  principalProperty : String
  deriving DecidableEq, Repr

/-- What collects the entities of a navigation. -/
inductive CollectionKind where
  | list | set
  deriving DecidableEq, Repr

/-- The name of a kind of collection. -/
def CollectionKind.name : CollectionKind → String
  | .list => "list"
  | .set => "set"

/-- The kind of collection of a name. -/
def CollectionKind.ofName? : String → Option CollectionKind
  | "list" => some .list
  | "set" => some .set
  | _ => none

/-- A navigation to the many entities that refer back to one. -/
structure Collection where
  /-- The name of the navigation. -/
  navigation : String
  /-- The type of the items. -/
  related : String
  /-- What collects the items. -/
  kind : CollectionKind := .list
  deriving DecidableEq, Repr

/-- A mapping as it is stated, with or without faults. -/
structure MappingDraft where
  /-- The name of the entity type. -/
  entityType : String
  /-- The table. -/
  table : String
  /-- The schema of the table. -/
  schema : Option String := none
  /-- The key properties, in key order; none for a keyless type. -/
  keys : List String := []
  /-- The scalar properties, in slot order. -/
  properties : List Property := []
  /-- The references. -/
  foreignKeys : List ForeignKey := []
  /-- The collections. -/
  collections : List Collection := []
  /-- Whether the type is never written back. -/
  isReadOnly : Bool := false
  deriving DecidableEq, Repr

/-- What separates an alias and a property in the name of a selected column. -/
def aliasSeparator : String := "__"

/-- The column that a property is declared with. -/
def Property.column (p : Property) : String :=
  if p.declaredColumn.isEmpty then p.name else p.declaredColumn

/-- A property whose values come from a sequence and so from the database. -/
def Property.withSequence (p : Property) (sequence : String) : Property :=
  { p with sequence := some sequence, isGenerated := true }

/-- What a mapping looks its properties up in. It is made once, when the mapping is built. -/
structure MappingTables where
  /-- The slots of the properties, by their names. -/
  slots : List (String × Nat)
  /-- The slots of the key properties, in key order. -/
  keySlots : List Nat
  /-- The columns of the properties, in slot order. -/
  columns : List String
  deriving DecidableEq, Repr

namespace MappingDraft

/-- The names of the properties, in slot order. -/
def propertyNames (d : MappingDraft) : List String := d.properties.map (·.name)

/-- The names of the navigations, references first. -/
def navigationNames (d : MappingDraft) : List String :=
  d.foreignKeys.map (·.navigation) ++ d.collections.map (·.navigation)

/-- The slots of several properties and of those before, unless one repeats a name or may not be. -/
def indexProperties (slots : List (String × Nat)) :
    List Property → Except MappingFault (List (String × Nat))
  | [] => .ok slots
  | p :: ps =>
    if Text.contains p.name aliasSeparator then .error (.reservedSeparator p.name)
    else if (slots.lookup p.name).isSome then .error (.repeatedProperty p.name)
    else indexProperties ((p.name, slots.length) :: slots) ps

/-- The slot of a key property. -/
def indexKey (slots : List (String × Nat)) (key : String) : Except MappingFault Nat :=
  match slots.lookup key with
  | some slot => .ok slot
  | none => .error (.unmappedKey key)

/-- Whether the property of a reference is mapped. -/
def checkForeignKey (slots : List (String × Nat)) (fk : ForeignKey) : Except MappingFault Unit :=
  if (slots.lookup fk.property).isSome then .ok ()
  else .error (.unmappedForeignKey fk.property fk.navigation)

/-- Whether several navigations are named like no property and like none before them. -/
def checkNavigations (slots : List (String × Nat)) (seen : List String) :
    List String → Except MappingFault Unit
  | [] => .ok ()
  | n :: ns =>
    if (slots.lookup n).isSome ∨ n ∈ seen then .error (.clashingNavigation n)
    else checkNavigations slots (n :: seen) ns

/-- The tables of a draft, or its first fault: of its properties, key, references, navigations. -/
def index (d : MappingDraft) : Except MappingFault MappingTables := do
  let slots ← indexProperties [] d.properties
  let keySlots ← d.keys.mapM (indexKey slots)
  d.foreignKeys.forM (checkForeignKey slots)
  checkNavigations slots [] d.navigationNames
  return { slots, keySlots, columns := d.properties.map (·.column) }

end MappingDraft

/-- A mapping without faults, and its tables. -/
structure EntityMapping extends MappingDraft, MappingTables where
  /-- The tables are those of the draft. -/
  built : toMappingDraft.index = .ok toMappingTables

/-- A navigation of a mapping. -/
inductive Navigation where
  | reference (foreignKey : ForeignKey)
  | collection (collection : Collection)
  deriving DecidableEq, Repr

/-- The type at the other end of a navigation. -/
def Navigation.related : Navigation → String
  | .reference fk => fk.principal
  | .collection c => c.related

/-- Whether a navigation leads to many entities. -/
def Navigation.isCollection : Navigation → Bool
  | .reference _ => false
  | .collection _ => true

/-- The mapping that a draft states, or its first fault. -/
def MappingDraft.build (d : MappingDraft) : Except Error EntityMapping :=
  match h : d.index with
  | .ok tables => .ok { toMappingDraft := d, toMappingTables := tables, built := h }
  | .error f => .error (.mapping d.entityType f)

namespace EntityMapping

/-- Mappings of one draft are the same. -/
theorem eq_of_toMappingDraft_eq {m n : EntityMapping} (h : m.toMappingDraft = n.toMappingDraft) :
    m = n := by
  obtain ⟨d, tables, built⟩ := m
  obtain ⟨d', tables', built'⟩ := n
  obtain rfl : d = d' := h
  obtain rfl : tables = tables' := Except.ok.inj (built.symm.trans built')
  rfl

instance : DecidableEq EntityMapping := fun _ _ =>
  decidable_of_iff _ ⟨eq_of_toMappingDraft_eq, congrArg _⟩

/-- Whether a type has no key. -/
def isKeyless (m : EntityMapping) : Bool := m.keys.isEmpty

/-- How many slots an instance has. -/
def slotCount (m : EntityMapping) : Nat := m.properties.length

/-- The slot of a property. -/
def slot? (m : EntityMapping) (property : String) : Option Nat := m.slots.lookup property

/-- A property by its name. -/
def property? (m : EntityMapping) (name : String) : Option Property :=
  (m.slot? name).bind (m.properties[·]?)

/-- The column of a property. -/
def column? (m : EntityMapping) (property : String) : Option String :=
  (m.slot? property).bind (m.columns[·]?)

/-- The column of a property, or the fault that it has none. -/
def requireColumn (m : EntityMapping) (property : String) : Except MappingFault String :=
  match m.column? property with
  | some c => .ok c
  | none => .error (.unmappedProperty property)

/-- The first key property. -/
def firstKey? (m : EntityMapping) : Option String := m.keys.head?

/-- A navigation by its name; references come before collections. -/
def navigation? (m : EntityMapping) (name : String) : Option Navigation :=
  match m.foreignKeys.find? (·.navigation == name) with
  | some fk => some (.reference fk)
  | none => (m.collections.find? (·.navigation == name)).map .collection

/-- The references to a type. -/
def foreignKeysTo (m : EntityMapping) (principal : String) : List ForeignKey :=
  m.foreignKeys.filter (·.principal == principal)

/-- The values of several slots, unless one of them is missing or null. -/
def presentValues (values : List Value) : List Nat → Option (List Value)
  | [] => some []
  | slot :: slots =>
    match values[slot]? with
    | some v => if v.isNull then none else (presentValues values slots).map (v :: ·)
    | none => none

/-- The key in slot-ordered values; a keyless type has none, and neither has one with null parts. -/
def key? (m : EntityMapping) (values : List Value) : Option (List Value) :=
  if m.isKeyless then none else presentValues values m.keySlots

end EntityMapping

end RelMap
