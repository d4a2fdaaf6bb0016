import RelMap.Mapping.Basic

/-!
# The registry of mappings

All mappings by entity type. Mappings refer to each other by name, and a registry is valid when
every such name leads somewhere.
-/

namespace RelMap

/-- A source of mappings: the mapping of a type, or the error that there is none. -/
abbrev Resolver := String → Except Error EntityMapping

/-- Mappings of different entity types. -/
structure Registry where
  /-- The mappings, in the order in which their types were first registered. -/
  mappings : List EntityMapping := []

namespace Registry

/-- The registry without mappings. -/
def empty : Registry := {}

/-- The mapping of a type. -/
def find? (r : Registry) (entityType : String) : Option EntityMapping :=
  r.mappings.find? (·.entityType == entityType)

/-- A mapping put in the place of the one of the same type, or behind all others. -/
def replaced (m : EntityMapping) : List EntityMapping → List EntityMapping
  | [] => [m]
  | n :: ns => if n.entityType = m.entityType then m :: ns else n :: replaced m ns

/-- The registry with a mapping, which replaces an earlier one of the same type. -/
def register (r : Registry) (m : EntityMapping) : Registry := ⟨replaced m r.mappings⟩

/-- The registry of several mappings, registered in order. -/
def ofList (ms : List EntityMapping) : Registry := ms.foldl register empty

/-- How many types are mapped. -/
def size (r : Registry) : Nat := r.mappings.length

/-- The mapped types. -/
def types (r : Registry) : List String := r.mappings.map (·.entityType)

/-- The mapping of a type, or the error that there is none. -/
def require (r : Registry) (entityType : String) : Except Error EntityMapping :=
  match r.find? entityType with
  | some m => .ok m
  | none => .error (.mapping entityType .unmappedType)

/-- What is wrong with a reference: its type or the property of that type is not mapped. -/
def referenceFault? (r : Registry) (fk : ForeignKey) : Option MappingFault :=
  match r.find? fk.principal with
  | none => some (.danglingNavigation fk.navigation fk.principal)
  | some p =>
    match p.slot? fk.principalProperty with
    | none => some (.danglingKey fk.navigation fk.principal fk.principalProperty)
    | some _ => none

/-- What is wrong with a collection: the type of its items is not mapped. -/
def collectionFault? (r : Registry) (c : Collection) : Option MappingFault :=
  match r.find? c.related with
  | none => some (.danglingNavigation c.navigation c.related)
  | some _ => none

/-- The first fault of a mapping among the others, of its references and then its collections. -/
def mappingFault? (r : Registry) (m : EntityMapping) : Option MappingFault :=
  m.foreignKeys.findSome? r.referenceFault? <|> m.collections.findSome? r.collectionFault?

/-- Whether every name leads somewhere; otherwise the first fault. -/
def validate (r : Registry) : Except Error Unit :=
  match r.mappings.findSome? fun m => (r.mappingFault? m).map (Error.mapping m.entityType) with
  | some e => .error e
  | none => .ok ()

end Registry

end RelMap
