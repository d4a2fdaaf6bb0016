import RelMap.Configuration
import RelMap.Graph.Lru

/-!
# The identity cache

Instances by their type and key, as far as they were used recently. A full cache drops the instance
that was not used for the longest time. When enough accesses have been seen and too many of them
dropped something, the capacity doubles, up to a bound.
-/

namespace RelMap

/-- A type and a key of it. -/
structure IdentityKey where
  /-- The entity type. -/
  entity : String
  /-- The values of the key. -/
  key : List Value
  deriving DecidableEq

/-- The counters of an identity cache. -/
structure IdentityStatistics where
  /-- Lookups that found an instance. -/
  hits : Nat := 0
  /-- Lookups that found none. -/
  misses : Nat := 0
  /-- Instances dropped to make room. -/
  evictions : Nat := 0
  /-- How often the capacity grew. -/
  growths : Nat := 0
  /-- The capacity after the last growth. -/
  capacity : Nat
  deriving DecidableEq, Repr

/--
A cache of what stands for the instances, which is left open here: a map of those that were used
recently, and what tells when it has to grow.
-/
structure IdentityCache (α : Type) extends Lru IdentityKey α where
  /-- When the cache grows. -/
  sizing : IdentitySizing
  /-- Accesses since growing was last considered. -/
  windowAccesses : Nat := 0
  /-- Evictions since growing was last considered. -/
  windowEvictions : Nat := 0
  /-- Its counters. -/
  stats : IdentityStatistics

namespace IdentityCache

variable {α : Type}

/-- A cache without instances; it holds at least one. -/
def empty (sizing : IdentitySizing) : IdentityCache α :=
  let capacity := max sizing.initialCapacity 1
  { sizing, capacity, stats := { capacity } }

/-- Whether so large a share of the accesses evicted something that the cache has to grow. -/
def isCrowded (c : IdentityCache α) : Bool :=
  ((Binary64.ofInt c.windowEvictions).div (Binary64.ofInt c.windowAccesses)).isGreater
    c.sizing.growthRatio

/-- The capacity doubled, up to the bound. -/
def grow (c : IdentityCache α) : IdentityCache α :=
  let grown := min (2 * c.capacity) c.sizing.maxCapacity
  { c with
    toLru := c.resize (max grown 1)
    stats := { c.stats with growths := c.stats.growths + 1, capacity := grown } }

/-- After an access: when enough of them have been seen, the cache grows if it has to. -/
def settle (c : IdentityCache α) : IdentityCache α :=
  if c.windowAccesses < c.sizing.minAccesses then c
  else
    let next := if c.isCrowded ∧ c.capacity < c.sizing.maxCapacity then c.grow else c
    { next with windowAccesses := 0, windowEvictions := 0 }

/-- The instance of a key, which becomes the most recently used one. -/
def get (c : IdentityCache α) (key : IdentityKey) : Option α × IdentityCache α :=
  let (found, lru) := c.toLru.get key
  let seen := { c with toLru := lru, windowAccesses := c.windowAccesses + 1 }
  let stats :=
    if found.isSome then { c.stats with hits := c.stats.hits + 1 }
    else { c.stats with misses := c.stats.misses + 1 }
  (found, settle { seen with stats })

/-- The cache with an instance as the most recently used one. -/
def insert (c : IdentityCache α) (key : IdentityKey) (a : α) : IdentityCache α :=
  let (gone, lru) := c.push key a
  let seen := { c with toLru := lru, windowAccesses := c.windowAccesses + 1 }
  if gone.any (·.1 != key) then
    settle
      { seen with
        windowEvictions := c.windowEvictions + 1
        stats := { c.stats with evictions := c.stats.evictions + 1 } }
  else settle seen

/-- The instance of a key, or the given one after it was inserted; whether it was inserted. -/
def getOrInsert (c : IdentityCache α) (key : IdentityKey) (created : α) :
    α × Bool × IdentityCache α :=
  match c.get key with
  | (some a, next) => (a, false, next)
  | (none, next) => (created, true, next.insert key created)

end IdentityCache

end RelMap
