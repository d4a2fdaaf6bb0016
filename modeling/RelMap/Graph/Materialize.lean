import RelMap.Graph.IdentityCache
import RelMap.Graph.Store
import RelMap.Include.Row

/-!
# From rows to instances

Every part of a row that is not all null becomes an instance, unless the type it belongs to hangs
off a type without one in this row. Parts with one type and key are one instance as long as the
identity cache knows it. Each instance is linked to the one before it, and the instances of the
root type are returned once each, in the order in which they were first seen.

A run may fail, and it may block: an instance is locked while another one is linked to it, and a set
that holds its own owner reads it to tell whether a new item repeats it.
-/

namespace RelMap

/-- What a run has made so far. -/
structure RunState where
  /-- The instances. -/
  store : Store := {}
  /-- The instances by their keys. -/
  identities : IdentityCache Nat

/-- Why a run comes to no result. -/
inductive Halt where
  /-- A row is not fit for the plan. -/
  | fault (e : Error)
  /-- It waits for an instance that it has locked itself. -/
  | blocked (owner : Nat)
  deriving DecidableEq

/-- A run, which keeps what it has made also when it comes to no result. -/
abbrev Run := ExceptT Halt (StateM RunState)

namespace Run

/-- A new instance. -/
def create (mapping : EntityMapping) (f : Fragment) : Run Nat := do
  let state ← get
  set { state with store := state.store.add { mapping, values := f.values } }
  return state.store.nextId

/-- The instance of a key, which is made if the identity cache does not know it. -/
def identify (mapping : EntityMapping) (f : Fragment) (key : List Value) : Run Nat := do
  let state ← get
  let identity : IdentityKey := ⟨mapping.entityType, key⟩
  let (id, created, identities) := state.identities.getOrInsert identity state.store.nextId
  let store :=
    if created then state.store.add { mapping, values := f.values } else state.store
  set (RunState.mk store identities)
  return id

/-- The instance of a part that is not all null; a type with a key needs one in it. -/
def resolve (mapping : EntityMapping) (f : Fragment) : Run Nat :=
  if mapping.isKeyless then create mapping f
  else
    match mapping.key? f.values with
    | some key => identify mapping f key
    | none => throw (.fault (.mapping mapping.entityType (.nullKey mapping.keys)))

/-- An instance linked to the one that it hangs off. -/
def link (owner : Nat) (l : Link) (item : Nat) : Run Unit := do
  let state ← get
  match state.store.link owner l.navigation l.kind item with
  | some store => set { state with store }
  | none => throw (.blocked owner)

/-- The instance of one part, given those of the parts before it. -/
def resolvePart (e : PlannedEntity) (f : Fragment) (resolved : List (Option Nat)) :
    Run (Option Nat) :=
  match e.link with
  | none => if f.isAllNull then return none else return some (← resolve e.mapping f)
  | some l =>
    match (resolved[l.parent]?).join with
    | none => return none
    | some owner =>
      if f.isAllNull then return none
      else do
        let id ← resolve e.mapping f
        link owner l id
        return some id

/-- The instances of the parts of a row, behind those before them. -/
def resolveParts (resolved : List (Option Nat)) :
    List (PlannedEntity × Fragment) → Run (List (Option Nat))
  | [] => return resolved
  | (e, f) :: rest => do
    let id ← resolvePart e f resolved
    resolveParts (resolved ++ [id]) rest

/-- The root instance of a row, if the row has one. -/
def row (p : Plan) (fragments : List Fragment) : Run (Option Nat) :=
  if fragments.length ≠ p.entities.length then
    throw (.fault
      (.mapping p.root.entityType (.fragmentCount fragments.length p.entities.length)))
  else do
    let resolved ← resolveParts [] (p.entities.zip fragments)
    return resolved.head?.join

/-- The root instances seen so far, and their keys. -/
structure Roots where
  /-- The instances, in the order in which they were first seen. -/
  ids : List Nat := []
  /-- The keys of those that have one. -/
  keys : List (List Value) := []

/-- The roots with one more instance, unless its key or, without one, itself was seen before. -/
def Roots.see (r : Roots) (id : Nat) (key : Option (List Value)) : Roots :=
  match key with
  | some k => if k ∈ r.keys then r else { ids := r.ids ++ [id], keys := r.keys ++ [k] }
  | none => if id ∈ r.ids then r else { r with ids := r.ids ++ [id] }

/-- The key of an instance. -/
def keyOf (id : Nat) : Run (Option (List Value)) := do
  let state ← get
  return (state.store.get? id).bind Instance.key?

/-- The roots of several rows, behind those seen before. -/
def rows (p : Plan) (roots : Roots) : List (Except Error (List Fragment)) → Run Roots
  | [] => return roots
  | .error e :: _ => throw (.fault e)
  | .ok fragments :: rest => do
    match ← row p fragments with
    | none => rows p roots rest
    | some id => rows p (roots.see id (← keyOf id)) rest

/-- The root instances of several rows, each once. -/
def all (p : Plan) (given : List (Except Error (List Fragment))) : Run (List Nat) := do
  let roots ← rows p {} given
  return roots.ids

end Run

/-- A plan, and the layout of the result sets that its rows come from. -/
structure Materializer where
  /-- The plan. -/
  plan : Plan
  /-- The layout. -/
  layout : RowLayout

namespace Materializer

/-- The materializer of a plan, for result sets with the given columns. -/
def ofColumns (plan : Plan) (columns : List String) : Except Error Materializer := do
  return ⟨plan, ← plan.layout columns⟩

/-- The root instances of flat rows. -/
def ofRows (m : Materializer) (given : List (List Value)) : Run (List Nat) :=
  Run.all m.plan (given.map m.layout.split)

/-- The root instances of rows that were split before. -/
def ofFragments (m : Materializer) (given : List (List Fragment)) : Run (List Nat) :=
  Run.all m.plan (given.map .ok)

end Materializer

end RelMap
