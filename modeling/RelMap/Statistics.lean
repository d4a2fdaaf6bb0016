import RelMap.Number.Binary

/-!
# Statistics of caches

How often a cache had what was asked for, how often not, and how much it dropped.
-/

namespace RelMap

/-- The counters of a cache. -/
structure Statistics where
  /-- Lookups that found something. -/
  hits : Nat := 0
  /-- Lookups that found nothing. -/
  misses : Nat := 0
  /-- Entries dropped to make room. -/
  evictions : Nat := 0
  deriving DecidableEq, Repr

namespace Statistics

/-- One more hit. -/
def hit (s : Statistics) : Statistics := { s with hits := s.hits + 1 }

/-- One more miss. -/
def miss (s : Statistics) : Statistics := { s with misses := s.misses + 1 }

/-- So many more evictions. -/
def evicted (s : Statistics) (n : Nat) : Statistics := { s with evictions := s.evictions + n }

/-- The share of hits among the lookups, zero before the first one. -/
def hitRate (s : Statistics) : Binary64 :=
  let hits := Binary64.ofInt s.hits
  let total := hits.add (Binary64.ofInt s.misses)
  if total.isGreater (Binary64.ofInt 0) then hits.div total else Binary64.ofInt 0

end Statistics

end RelMap
