import RelMap.Json.Decode
import RelMap.Mapping.Registry

/-!
# Mappings as documents

A mapping is an object, and a registry an array of mappings. A mapping is checked as soon as its own
object has been read, and a registry when all of it has been read.
-/

namespace RelMap.Json

/-- A property; all but its name has a default. -/
def property (t : Tree) : Decoded Property := do
  let given ← fields
    ["name", "column", "is_generated", "is_read_only", "is_required", "max_length",
      "sequence_name"] t
  let name ← required given "name" text
  let declaredColumn ← withDefault given "column" text ""
  let isGenerated ← withDefault given "is_generated" bool false
  let isReadOnly ← withDefault given "is_read_only" bool false
  let isRequired ← withDefault given "is_required" bool false
  let maxLength ← withDefault given "max_length" (optional natural) none
  let sequence ← withDefault given "sequence_name" (optional text) none
  return { name, declaredColumn, isGenerated, isReadOnly, isRequired, maxLength, sequence }

/-- A reference, of which nothing has a default. -/
def foreignKey (t : Tree) : Decoded ForeignKey := do
  let given ← fields
    ["navigation", "foreign_key_property", "principal_entity", "principal_key_property"] t
  let navigation ← required given "navigation" text
  let property ← required given "foreign_key_property" text
  let principal ← required given "principal_entity" text
  let principalProperty ← required given "principal_key_property" text
  return { navigation, property, principal, principalProperty }

/-- A collection, which is a list by default. -/
def collection (t : Tree) : Decoded Collection := do
  let given ← fields ["navigation", "related_entity", "kind"] t
  let navigation ← required given "navigation" text
  let related ← required given "related_entity" text
  let kind ← withDefault given "kind" (oneOf CollectionKind.ofName?) .list
  return { navigation, related, kind }

/-- A draft of a mapping; only the type and the table have no default. -/
def mappingDraft (t : Tree) : Decoded MappingDraft := do
  let given ← fields
    ["entity_type", "table_name", "schema", "key_properties", "properties", "foreign_keys",
      "collections", "is_read_only"] t
  let entityType ← required given "entity_type" text
  let table ← required given "table_name" text
  let schema ← withDefault given "schema" (optional text) none
  let keys ← withDefault given "key_properties" (list text) []
  let properties ← withDefault given "properties" (list property) []
  let foreignKeys ← withDefault given "foreign_keys" (list foreignKey) []
  let collections ← withDefault given "collections" (list collection) []
  let isReadOnly ← withDefault given "is_read_only" bool false
  return { entityType, table, schema, keys, properties, foreignKeys, collections, isReadOnly }

/-- A mapping without faults. -/
def mapping (t : Tree) : Decoded EntityMapping := do
  let draft ← mappingDraft t
  match draft.build with
  | .ok m => .ok m
  | .error e => .error (.invalidMapping e)

/-- The mapping of a text. -/
def readMapping (s : String) : Decoded EntityMapping := whole mapping s

/-- The valid registry of a text. -/
def readRegistry (s : String) : Decoded Registry := do
  let mappings ← whole (list mapping) s
  let registry := Registry.ofList mappings
  match registry.validate with
  | .ok _ => .ok registry
  | .error e => .error (.invalidRegistry e)

end RelMap.Json
