import RelMap.Include.Tree
import RelMap.Mapping.Basic

/-!
# The store of instances

Entities and how they refer to each other. An instance is known by its number in the store, so two
instances with the same values stay apart, and navigations may lead back to where they started.

An instance is locked while it is written, and to read it then is to wait without end. What takes an
instance that it has locked for another one has no result.
-/

namespace RelMap

/-- The items of a collection, in the order in which they were first added. -/
structure Members where
  /-- What the collection is. -/
  kind : CollectionKind
  /-- The numbers of the items. -/
  items : List Nat := []
  deriving DecidableEq

/-- An entity: its values in slot order, and the navigations that were loaded. -/
structure Instance where
  /-- The mapping of its type. -/
  mapping : EntityMapping
  /-- Its values. -/
  values : List Value
  /-- The targets of its references, by navigation. -/
  references : List (String × Nat) := []
  /-- Its collections, by navigation. -/
  collections : List (String × Members) := []

namespace Instance

/-- The key of an instance, if it has one. -/
def key? (i : Instance) : Option (List Value) := i.mapping.key? i.values

/-- The value of a property. -/
def get? (i : Instance) (property : String) : Option Value :=
  (i.mapping.slot? property).bind fun slot => i.values[slot]?

/-- The target of a reference, if it was loaded. -/
def reference? (i : Instance) (navigation : String) : Option Nat := i.references.lookup navigation

/-- A collection, if anything was added to it. -/
def collection? (i : Instance) (navigation : String) : Option Members :=
  i.collections.lookup navigation

end Instance

/-- An entry put in the place of the one with its name, or behind all others. -/
def putEntry {α : Type} (name : String) (a : α) : List (String × α) → List (String × α)
  | [] => [(name, a)]
  | (n, b) :: rest => if n = name then (name, a) :: rest else (n, b) :: putEntry name a rest

/-- Instances by their numbers. -/
structure Store where
  /-- The instances. -/
  instances : Array Instance := #[]

namespace Store

/-- A store without instances. -/
def empty : Store := {}

/-- The instance of a number. -/
def get? (s : Store) (id : Nat) : Option Instance := s.instances[id]?

/-- The store with a new instance, whose number is how many there were before. -/
def add (s : Store) (i : Instance) : Store := ⟨s.instances.push i⟩

/-- The number of the instance that is added next. -/
def nextId (s : Store) : Nat := s.instances.size

/-- The store with one instance changed. -/
def change (s : Store) (id : Nat) (f : Instance → Instance) : Store := ⟨s.instances.modify id f⟩

/-- The store after a reference of an instance was set, also if it was set before. -/
def setReference (s : Store) (owner : Nat) (navigation : String) (target : Nat) : Store :=
  s.change owner fun i => { i with references := putEntry navigation target i.references }

/-- The values of an instance. -/
def valuesOf (s : Store) (id : Nat) : Option (List Value) := (s.get? id).map (·.values)

/--
Whether one of some instances has the given values. They are read one by one until it is found, and
there is no answer if the locked one comes before it.
-/
def holdsValues (s : Store) (locked : Nat) (values : List Value) : List Nat → Option Bool
  | [] => some false
  | other :: rest =>
    if other = locked then none
    else if s.valuesOf other == some values then some true
    else s.holdsValues locked values rest

/--
Whether a collection of a locked instance takes an item. Of an item with a key it takes each
instance once; an item without one is taken by every list, and by a set that has no item with the
same values. Only a set reads the item and what it holds.
-/
def accepts (s : Store) (owner : Nat) (m : Members) (item : Nat) : Option Bool :=
  match s.get? item with
  | none => some false
  | some i =>
    if !i.mapping.isKeyless then some (!m.items.contains item)
    else
      match m.kind with
      | .list => some true
      | .set =>
        if item = owner then none else (s.holdsValues owner i.values m.items).map (! ·)

/-- The collection that an item is added to; the first item decides of which kind it is. -/
def membersFor (s : Store) (owner : Nat) (navigation : String) (kind : CollectionKind) : Members :=
  ((s.get? owner).bind (·.collection? navigation)).getD { kind }

/-- The store after an item was added to a collection, and whether the collection took it. -/
def addToCollection (s : Store) (owner : Nat) (navigation : String) (kind : CollectionKind)
    (item : Nat) : Option (Bool × Store) :=
  let m := s.membersFor owner navigation kind
  (s.accepts owner m item).map fun taken =>
    let next : Members := if taken then { m with items := m.items ++ [item] } else m
    (taken,
      s.change owner fun i => { i with collections := putEntry navigation next i.collections })

/-- The store after an item was linked to its owner as an include asks for. -/
def link (s : Store) (owner : Nat) (navigation : String) (kind : IncludeKind) (item : Nat) :
    Option Store :=
  match kind with
  | .reference => some (s.setReference owner navigation item)
  | .collection k => (s.addToCollection owner navigation k item).map (·.2)

end Store

end RelMap
