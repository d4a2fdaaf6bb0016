import RelMap.Filter.Clause
import RelMap.Include.Tree

/-!
# Plans

A plan loads a root type and its includes with one statement: every included navigation becomes one
outer join. The root has the alias `a`, and the joined types have `b1`, `b2` and so on, parents
before children. Each selected column is named for its alias and its property, which is what a row
of the result is split by.

What is selected grows with every type that is planned. That it is made up of the columns of these
types, in their order, is part of what a plan is, and of each step on the way to it.
-/

namespace RelMap

/-- The alias of the joined type of an index, counted from one. -/
def joinAlias (index : Nat) : String := "b" ++ toString index

/-- The name of the column selected for a property of the type at an alias. -/
def columnAlias (tableAlias property : String) : String := tableAlias ++ aliasSeparator ++ property

/-- How a planned type is reached. -/
structure Link where
  /-- The place of the type that it is reached from. -/
  parent : Nat
  /-- The navigation that leads to it. -/
  navigation : String
  /-- How it hangs off that type. -/
  kind : IncludeKind
  deriving DecidableEq

/-- A type that takes part in a plan. -/
structure PlannedEntity where
  /-- The alias of its table. -/
  tableAlias : String
  /-- Its mapping. -/
  mapping : EntityMapping
  /-- How it is reached; the root is not. -/
  link : Option Link
  /-- The place of its first column among the selected ones. -/
  start : Nat
  deriving DecidableEq

/-- The join of a table. -/
structure Join where
  /-- The schema of the joined table. -/
  schema : Option String
  /-- The joined table. -/
  table : String
  /-- Its alias. -/
  tableAlias : String
  /-- The column of the joined table that is compared. -/
  column : String
  /-- The alias of the table that it is joined to. -/
  parentAlias : String
  /-- The column of that table that it is compared with. -/
  parentColumn : String
  deriving DecidableEq

/-- The property whose column comes first: the first key property, or the first of all. -/
def EntityMapping.splitProperty (m : EntityMapping) : String :=
  (m.firstKey? <|> m.propertyNames.head?).getD ""

/-- The properties in the order of their columns. -/
def EntityMapping.selectedProperties (m : EntityMapping) : List Property :=
  m.properties.filter (·.name == m.splitProperty) ++
    m.properties.filter (·.name != m.splitProperty)

/-- The properties and what their columns are called in the table, in the order of the columns. -/
def EntityMapping.selectedColumns (m : EntityMapping) : List (Property × String) :=
  let declared := m.properties.zip m.columns
  declared.filter (·.1.name == m.splitProperty) ++ declared.filter (·.1.name != m.splitProperty)

namespace PlannedEntity

/-- Whether a type is the root of its plan. -/
def isRoot (e : PlannedEntity) : Bool := e.link.isNone

/-- The place behind the last column of a type. -/
def stop (e : PlannedEntity) : Nat := e.start + e.mapping.slotCount

/-- The names of the columns selected for a type. -/
def columns (e : PlannedEntity) : List String :=
  e.mapping.selectedProperties.map fun p => columnAlias e.tableAlias p.name

/-- The name of the column that a type's part of a row begins with. -/
def splitColumn (e : PlannedEntity) : String := columnAlias e.tableAlias e.mapping.splitProperty

/-- The texts of the columns selected for a type. -/
def selectItems (d : Dialect) (e : PlannedEntity) : List String :=
  e.mapping.selectedColumns.map fun (p, column) =>
    e.tableAlias ++ "." ++ d.quote column ++ " AS " ++ d.quote (columnAlias e.tableAlias p.name)

end PlannedEntity

/-- The text of a join. -/
def Join.sql (d : Dialect) (j : Join) : String :=
  "LEFT JOIN " ++ d.qualify j.schema j.table ++ " " ++ j.tableAlias ++ " ON " ++ j.tableAlias ++ "."
    ++ d.quote j.column ++ " = " ++ j.parentAlias ++ "." ++ d.quote j.parentColumn

/-- What a statement selects. -/
structure Selection where
  /-- The texts of the selected columns. -/
  items : List String := []
  /-- The names of the selected columns. -/
  columns : List String := []
  /-- The names of the columns that the parts of the joined types begin with. -/
  splitPoints : List String := []
  deriving DecidableEq

namespace Selection

/-- What is selected when one more type is planned; only the root is not split off. -/
def add (d : Dialect) (s : Selection) (e : PlannedEntity) : Selection where
  items := s.items ++ e.selectItems d
  columns := s.columns ++ e.columns
  splitPoints := if e.isRoot then s.splitPoints else s.splitPoints ++ [e.splitColumn]

/-- What is selected when types are planned one after the other. -/
def ofEntities (d : Dialect) (es : List PlannedEntity) : Selection := es.foldl (add d) {}

theorem ofEntities_concat (d : Dialect) (es : List PlannedEntity) (e : PlannedEntity) :
    ofEntities d (es ++ [e]) = (ofEntities d es).add d e := by
  rw [ofEntities, List.foldl_append]
  rfl

end Selection

/-- A statement that loads a root type and its includes. -/
structure Plan extends Selection where
  /-- The dialect of the statement. -/
  dialect : Dialect
  /-- The mapping of the root. -/
  root : EntityMapping
  /-- The root and the joined types, in the order of their joins. -/
  entities : List PlannedEntity
  /-- The joins. -/
  joins : List Join
  /-- How many types take part. -/
  typeCount : Nat
  /-- The columns are those of the types. -/
  selected : toSelection = .ofEntities dialect entities
  /-- The types are counted. -/
  counted : typeCount = entities.length
  deriving DecidableEq

namespace Plan

/-- The aliases of all types. -/
def aliases (p : Plan) : List String := p.entities.map (·.tableAlias)

/-- The text of the statement, without a filter. -/
def sql (p : Plan) : String :=
  let source := p.dialect.qualify p.root.schema p.root.table ++ " " ++ rootAlias
  Text.joined " " (("SELECT " ++ Text.joined ", " p.items ++ " FROM " ++ source) ::
    p.joins.map (Join.sql p.dialect))

end Plan

/-- The types and joins planned so far. -/
structure PlanDraft where
  /-- The types. -/
  entities : List PlannedEntity := []
  /-- The joins. -/
  joins : List Join := []

namespace PlanDraft

/-- A type whose columns begin at a place; it needs at least one column. -/
def planEntity (start : Nat) (tableAlias : String) (mapping : EntityMapping)
    (link : Option Link) : Except Error PlannedEntity :=
  if mapping.properties.isEmpty then .error (.mapping mapping.entityType .noColumns)
  else .ok { tableAlias, mapping, link, start }

/-- The column of a property as part of a join. -/
def joinColumn (m : EntityMapping) (property : String) : Except Error String :=
  match m.requireColumn property with
  | .ok c => .ok c
  | .error f => .error (.mapping m.entityType f)

/-- The columns of the joined type and of the type before it that a reference compares. -/
def referenceColumns (parent related : EntityMapping) (navigation : String) :
    Except Error (String × String) :=
  match parent.foreignKeys.find? (·.navigation == navigation) with
  | none => .error (.mapping parent.entityType (.noForeignKey navigation))
  | some fk => do
    let principal ← joinColumn related fk.principalProperty
    let foreign ← joinColumn parent fk.property
    return (principal, foreign)

/--
The columns that a collection compares: those of the only reference from the joined type back to
the type before it.
-/
def collectionColumns (parent related : EntityMapping) (navigation : String) :
    Except Error (String × String) :=
  match related.foreignKeysTo parent.entityType with
  | [] => .error (.mapping related.entityType (.noInverse parent.entityType navigation))
  | [fk] => do
    let foreign ← joinColumn related fk.property
    let principal ← joinColumn parent fk.principalProperty
    return (foreign, principal)
  | fks =>
    .error (.mapping related.entityType
      (.ambiguousInverse fks.length parent.entityType navigation))

/-- The columns of the joined type and of the type before it that a join compares. -/
def joinColumns (parent related : EntityMapping) (kind : IncludeKind) (navigation : String) :
    Except Error (String × String) :=
  match kind with
  | .reference => referenceColumns parent related navigation
  | .collection _ => collectionColumns parent related navigation

end PlanDraft

/-- What is planned so far, and what is selected with it. -/
structure Planning (dialect : Dialect) extends PlanDraft, Selection where
  /-- The columns are those of the types. -/
  selected : toSelection = .ofEntities dialect entities

namespace Planning

variable {dialect : Dialect}

/-- Nothing is planned. -/
def empty : Planning dialect where
  selected := rfl

/-- One more type and its columns, behind the join that it comes with. -/
def add (b : Planning dialect) (e : PlannedEntity) (join : Option Join) : Planning dialect where
  entities := b.entities ++ [e]
  joins := b.joins ++ join.toList
  toSelection := b.toSelection.add dialect e
  selected := by rw [Selection.ofEntities_concat, b.selected]

mutual

/-- A navigation of a planned type, and all below it, behind what is planned so far. -/
def addNode (r : Registry) (parent : PlannedEntity) (place : Nat) (b : Planning dialect) :
    IncludeNode → Except Error (Planning dialect)
  | .node navigation relatedType kind children => do
    let tableAlias := joinAlias b.entities.length
    let related ← r.require relatedType
    let (column, parentColumn) ← PlanDraft.joinColumns parent.mapping related kind navigation
    let entity ← PlanDraft.planEntity b.columns.length tableAlias related
      (some ⟨place, navigation, kind⟩)
    let join : Join :=
      { schema := related.schema, table := related.table, tableAlias, column
        parentAlias := parent.tableAlias, parentColumn }
    addNodes r entity b.entities.length (b.add entity (some join)) children

/-- Several navigations of a planned type, one after the other. -/
def addNodes (r : Registry) (parent : PlannedEntity) (place : Nat) (b : Planning dialect) :
    List IncludeNode → Except Error (Planning dialect)
  | [] => .ok b
  | a :: as => do
    let next ← addNode r parent place b a
    addNodes r parent place next as

end

end Planning

/-- The plan of a tree below its root type. -/
def Plan.build (dialect : Dialect) (r : Registry) (root : EntityMapping) (tree : IncludeTree) :
    Except Error Plan :=
  if tree.root ≠ root.entityType then
    .error (.mapping root.entityType (.otherRoot tree.root root.entityType))
  else do
    let entity ← PlanDraft.planEntity 0 rootAlias root none
    let b ← Planning.addNodes r entity 0 (Planning.empty.add entity none) tree.nodes
    return {
      toSelection := b.toSelection, dialect, root, entities := b.entities, joins := b.joins
      typeCount := b.entities.length, selected := b.selected, counted := rfl }

end RelMap
