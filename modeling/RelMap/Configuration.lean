import RelMap.Dialect
import RelMap.Json.Decode

/-!
# Configuration

What an engine is told beforehand: the dialect, whether strings are compared without regard to
case, and how large its caches are.
-/

namespace RelMap

/-- How large the identity cache of one run is, and when it grows. -/
structure IdentitySizing where
  /-- The capacity at the start. -/
  initialCapacity : Nat := 10000
  /-- The capacity beyond which the cache does not grow. -/
  maxCapacity : Nat := 1000000
  /-- How many accesses are seen before growing is considered. -/
  minAccesses : Nat := 1000
  /-- The share of evictions among the accesses above which the capacity doubles. -/
  growthRatio : Binary64 := ⟨0x3fd3333333333333⟩
  deriving DecidableEq, Repr

/-- A cache that never grows. -/
def IdentitySizing.fixed (capacity : Nat) : IdentitySizing :=
  { initialCapacity := capacity, maxCapacity := capacity }

/-- The configuration of an engine. -/
structure Configuration where
  /-- The dialect of its statements. -/
  dialect : Dialect := .sqlServer
  /-- Whether comparisons of strings ignore case, if that is not left to the dialect. -/
  ignoreCase : Option Bool := none
  /-- How many evaluators are cached before all are dropped. -/
  evaluatorCapacity : Nat := 1024
  /-- How many plans are cached. -/
  planCapacity : Nat := 256
  /-- How large the identity cache of one run is. -/
  identity : IdentitySizing := {}
  deriving DecidableEq, Repr

namespace Json

/-- The sizing of an identity cache; every field has a default. -/
def identitySizing (t : Tree) : Decoded IdentitySizing := do
  let given ← fields
    ["initial_capacity", "max_capacity", "min_accesses_before_growth", "growth_eviction_ratio"] t
  let standard : IdentitySizing := {}
  let initialCapacity ← withDefault given "initial_capacity" natural standard.initialCapacity
  let maxCapacity ← withDefault given "max_capacity" natural standard.maxCapacity
  let minAccesses ← withDefault given "min_accesses_before_growth" natural standard.minAccesses
  let growthRatio ← withDefault given "growth_eviction_ratio" double standard.growthRatio
  return { initialCapacity, maxCapacity, minAccesses, growthRatio }

/-- A configuration; every field has a default. -/
def configuration (t : Tree) : Decoded Configuration := do
  let given ← fields
    ["dialect", "ignore_case", "evaluator_cache_capacity", "plan_cache_capacity",
      "identity_cache"] t
  let standard : Configuration := {}
  let dialect ← withDefault given "dialect" (oneOf Dialect.ofName?) standard.dialect
  let ignoreCase ← withDefault given "ignore_case" (optional bool) standard.ignoreCase
  let evaluatorCapacity ←
    withDefault given "evaluator_cache_capacity" natural standard.evaluatorCapacity
  let planCapacity ← withDefault given "plan_cache_capacity" natural standard.planCapacity
  let identity ← withDefault given "identity_cache" identitySizing standard.identity
  return { dialect, ignoreCase, evaluatorCapacity, planCapacity, identity }

/-- The configuration of a text. -/
def readConfiguration (s : String) : Decoded Configuration := whole configuration s

end Json

end RelMap
