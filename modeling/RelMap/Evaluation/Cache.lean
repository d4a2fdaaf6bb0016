import RelMap.Evaluation.Program
import RelMap.Statistics

/-!
# The cache of evaluators

Programs by the shape they were compiled from. The programs of shapes with one hash share a bucket,
in which they are told apart by the shape itself. A cache that is full when a new shape arrives
drops all it has.
-/

namespace RelMap.Evaluation

/-- A cached program. -/
structure CachedProgram where
  /-- An expression of its shape. -/
  shape : Expr
  /-- The program of the shape. -/
  program : Program

/-- The programs of shapes with one hash. -/
structure Bucket where
  /-- The hash of the shapes. -/
  hash : UInt64
  /-- The programs, oldest first. -/
  programs : List CachedProgram

/-- A cache of programs. -/
structure EvaluatorCache where
  /-- How many programs it holds before it drops all. -/
  capacity : Nat
  /-- The buckets; no two have one hash. -/
  buckets : List Bucket := []
  /-- How many programs there are in all buckets, which is counted along. -/
  size : Nat := 0
  /-- Its counters. -/
  stats : Statistics := {}

namespace EvaluatorCache

/-- The capacity of a cache unless another one is asked for. -/
def defaultCapacity : Nat := 1024

/-- A cache without programs. -/
def empty (capacity : Nat) : EvaluatorCache := { capacity }

/-- The same cache without its programs, which count as evicted. -/
def clear (c : EvaluatorCache) : EvaluatorCache :=
  { c with buckets := [], size := 0, stats := c.stats.evicted c.size }

/-- A cache with room for one more program. -/
def withRoom (c : EvaluatorCache) : EvaluatorCache := if c.capacity ≤ c.size then c.clear else c

/-- The programs of shapes with a hash. -/
def bucket (hash : UInt64) : List Bucket → List CachedProgram
  | [] => []
  | b :: bs => if b.hash = hash then b.programs else bucket hash bs

/-- Buckets in which some programs are the ones of a hash. -/
def put (hash : UInt64) (programs : List CachedProgram) : List Bucket → List Bucket
  | [] => [⟨hash, programs⟩]
  | b :: bs => if b.hash = hash then ⟨hash, programs⟩ :: bs else b :: put hash programs bs

/-- The program of an expression's shape, if it is cached. -/
def find? (hash : Expr → UInt64) (c : EvaluatorCache) (e : Expr) : Option Program :=
  ((bucket (hash e) c.buckets).find? (·.shape.sameShape e)).map (·.program)

/-- The same cache, in which there is a bucket for an expression. -/
def withBucket (hash : Expr → UInt64) (c : EvaluatorCache) (e : Expr) : EvaluatorCache :=
  { c with buckets := put (hash e) (bucket (hash e) c.buckets) c.buckets }

/-- The cache with one more program. -/
def insert (hash : Expr → UInt64) (c : EvaluatorCache) (e : Expr) (p : Program) : EvaluatorCache :=
  { c with
    buckets := put (hash e) (bucket (hash e) c.buckets ++ [⟨e, p⟩]) c.buckets
    size := c.size + 1
    stats := c.stats.miss }

/--
The program of an expression, from the cache or compiled and then kept there. Its bucket is looked
through once more before the compilation, and is there afterwards also when the compilation fails.
-/
def programFor (hash : Expr → UInt64) (c : EvaluatorCache) (e : Expr) :
    Except Fault Program × EvaluatorCache :=
  match c.find? hash e with
  | some p => (.ok p, { c with stats := c.stats.hit })
  | none =>
    let roomy := c.withRoom
    match roomy.find? hash e with
    | some p => (.ok p, { roomy with stats := roomy.stats.hit })
    | none =>
      match Program.ofExpr e with
      | .ok p => (.ok p, roomy.insert hash e p)
      | .error f => (.error f, roomy.withBucket hash e)

/-- The value of an expression, by the program of its shape. -/
def evaluate (hash : Expr → UInt64) (c : EvaluatorCache) (e : Expr) :
    Except Fault Value × EvaluatorCache :=
  match c.programFor hash e with
  | (.ok p, next) =>
    match p.run e with
    | .ok v => (.ok v, next)
    | .error f => (.error (.evaluation f), next)
  | (.error f, next) => (.error f, next)

end EvaluatorCache

end RelMap.Evaluation
