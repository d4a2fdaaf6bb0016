import RelMap.Include.Tree
import RelMap.Statistics

/-!
# The cache of plans

Plans by the dialect and the tree they were built for. Entries are found by a fingerprint and told
apart by what they were built for. A full cache makes room by dropping an entry that was found least
often. Nothing is promised about which of several such entries goes: it is the first that the table
of the entries comes upon, and a table has no order of its own. A choice for every eviction stands
for that order.
-/

namespace RelMap

/-- A cached plan. -/
structure CachedPlan (π : Type) where
  /-- The fingerprint under which it is found. -/
  fingerprint : UInt64
  /-- The dialect it was built for. -/
  dialect : String
  /-- The tree it was built for. -/
  tree : IncludeTree
  /-- The plan. -/
  plan : π
  /-- How often it was found. -/
  hits : Nat := 0

/-- A cache of plans. -/
structure PlanCache (π : Type) where
  /-- How many plans it holds at most. -/
  capacity : Nat
  /-- The plans; no two have one fingerprint. -/
  entries : List (CachedPlan π) := []
  /-- Its counters. -/
  stats : Statistics := {}

/-- Whether an entry was built for a dialect and a tree. -/
def CachedPlan.isFor {π : Type} (c : CachedPlan π) (dialect : String) (tree : IncludeTree) :
    Bool :=
  c.dialect == dialect && decide (c.tree = tree)

namespace PlanCache

variable {π : Type}

/-- The capacity of a cache unless another one is asked for. -/
def defaultCapacity : Nat := 256

/-- A cache without plans; it holds at least one. -/
def empty (capacity : Nat) : PlanCache π := { capacity := max capacity 1 }

/-- How many plans a cache holds. -/
def size (c : PlanCache π) : Nat := c.entries.length

/-- The entry of a fingerprint. -/
def entry? (c : PlanCache π) (fingerprint : UInt64) : Option (CachedPlan π) :=
  c.entries.find? (·.fingerprint == fingerprint)

/-- The entries with one more hit for a fingerprint. -/
def countHit (fingerprint : UInt64) (entries : List (CachedPlan π)) : List (CachedPlan π) :=
  entries.map fun e => if e.fingerprint = fingerprint then { e with hits := e.hits + 1 } else e

/-- The plan for a dialect and a tree, if it is cached. -/
def get (fingerprint : String → IncludeTree → UInt64) (c : PlanCache π) (dialect : String)
    (tree : IncludeTree) : Option π × PlanCache π :=
  let f := fingerprint dialect tree
  match c.entry? f with
  | some e =>
    if e.isFor dialect tree then
      (some e.plan, { c with entries := countHit f c.entries, stats := c.stats.hit })
    else (none, { c with stats := c.stats.miss })
  | none => (none, { c with stats := c.stats.miss })

/-- The least number of hits among entries. -/
def leastHits : List (CachedPlan π) → Option Nat
  | [] => none
  | e :: es =>
    match leastHits es with
    | some n => some (min e.hits n)
    | none => some e.hits

/-- Entries without one that was found so often, of which it passes over the first few. -/
def dropTied (hits : Nat) : Nat → List (CachedPlan π) → List (CachedPlan π)
  | _, [] => []
  | passed, e :: es =>
    if e.hits = hits then
      match passed with
      | 0 => es
      | more + 1 => e :: dropTied hits more es
    else e :: dropTied hits passed es

/--
The cache without one of the entries that were found least often. The choice gives the place of that
one among them, by the number of evictions before.
-/
def evict (choice : Nat → Nat) (c : PlanCache π) : PlanCache π :=
  match leastHits c.entries with
  | some n =>
    let tied := c.entries.countP (·.hits == n)
    { c with
      entries := dropTied n (choice c.stats.evictions % tied) c.entries
      stats := c.stats.evicted 1 }
  | none => c

/-- An entry put in the place of the one with its fingerprint, or behind all others. -/
def put (e : CachedPlan π) : List (CachedPlan π) → List (CachedPlan π)
  | [] => [e]
  | f :: fs => if f.fingerprint = e.fingerprint then e :: fs else f :: put e fs

/-- The cache with a plan, which has not been found yet. -/
def insert (fingerprint : String → IncludeTree → UInt64) (choice : Nat → Nat) (c : PlanCache π)
    (dialect : String) (tree : IncludeTree) (plan : π) : PlanCache π :=
  let f := fingerprint dialect tree
  let roomy := if c.capacity ≤ c.size ∧ (c.entry? f).isNone then c.evict choice else c
  { roomy with entries := put ⟨f, dialect, tree, plan, 0⟩ roomy.entries }

/-- The cached plan, or one that is built and then cached. -/
def getOrBuild {ε : Type} (fingerprint : String → IncludeTree → UInt64) (choice : Nat → Nat)
    (c : PlanCache π) (dialect : String) (tree : IncludeTree) (build : Unit → Except ε π) :
    Except ε π × PlanCache π :=
  match c.get fingerprint dialect tree with
  | (some plan, next) => (.ok plan, next)
  | (none, next) =>
    match build () with
    | .ok plan => (.ok plan, next.insert fingerprint choice dialect tree plan)
    | .error e => (.error e, next)

/-- The cache without the plans of a root type, and how many they were. -/
def invalidate (c : PlanCache π) (root : String) : Nat × PlanCache π :=
  let kept := c.entries.filter (·.tree.root != root)
  (c.size - kept.length, { c with entries := kept })

/-- The cache without plans. -/
def clear (c : PlanCache π) : PlanCache π := { c with entries := [] }

end PlanCache

end RelMap
