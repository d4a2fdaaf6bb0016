import RelMap.Configuration
import RelMap.Filter.Clause
import RelMap.Graph.Materialize
import RelMap.Include.PlanCache

/-!
# The engine

Queries become statements, and the rows that a statement returns become instances. An engine keeps
the evaluators of captured expressions and the plans of its includes; what it answers does not
depend on them.
-/

namespace RelMap

/-- What is asked of an engine: the entities of a type that a filter holds for, and includes. -/
structure Query where
  /-- The type of the entities. -/
  root : String
  /-- The filter, if there is one. -/
  filter : Option Predicate := none
  /-- The dotted paths of the navigations to load along. -/
  includes : List String := []

/-- The hashes by which an engine finds what it has kept, and the order of its table of plans. -/
structure Hashing where
  /-- The hash of an expression's shape. -/
  shape : Expr → UInt64 := Expr.shapeHash
  /-- The fingerprint of an include tree for a dialect. -/
  tree : String → IncludeTree → UInt64 := IncludeTree.fingerprint
  /-- Which of the plans that were found least often an eviction drops. -/
  choice : Nat → Nat := fun _ => 0

/-- A plan, and how many lookups of its engine had found nothing before it was built. -/
structure BuiltPlan where
  /-- The number of such lookups, by which plans are told apart. -/
  serial : Nat
  /-- The plan. -/
  plan : Plan

/-- A statement ready to be executed. -/
structure Statement where
  /-- The text of the statement. -/
  sql : String
  /-- The bound values. -/
  parameters : Parameters
  /-- The plan that its rows follow. -/
  built : BuiltPlan

/-- An engine over a registry. -/
structure Engine where
  /-- The configuration. -/
  configuration : Configuration
  /-- The mappings. -/
  registry : Registry
  /-- The evaluators of captured expressions. -/
  evaluators : Evaluation.EvaluatorCache
  /-- The plans. -/
  plans : PlanCache BuiltPlan

namespace Engine

/-- An engine that has not been asked anything. -/
def new (configuration : Configuration) (registry : Registry) : Engine where
  configuration := configuration
  registry := registry
  evaluators := .empty configuration.evaluatorCapacity
  plans := .empty configuration.planCapacity

/-- The same engine with other evaluators. -/
def withEvaluators (e : Engine) (evaluators : Evaluation.EvaluatorCache) : Engine :=
  { e with evaluators }

/-- The dialect of an engine's statements. -/
def dialect (e : Engine) : Dialect := e.configuration.dialect

/-- The plan of a query's includes. -/
def plan (h : Hashing) (e : Engine) (q : Query) : Except Error BuiltPlan × Engine :=
  match e.registry.require q.root with
  | .error err => (.error err, e)
  | .ok root =>
    match IncludeTree.resolve e.registry q.root q.includes with
    | .error err => (.error err, e)
    | .ok tree =>
      let build (_ : Unit) : Except Error BuiltPlan :=
        (Plan.build e.dialect e.registry root tree).map (⟨e.plans.stats.misses, ·⟩)
      let (built, plans) := e.plans.getOrBuild h.tree h.choice e.dialect.name tree build
      (built, { e with plans })

/-- The clause of a filter about a type. -/
def clause (h : Hashing) (e : Engine) (entity : String) (filter : Predicate) :
    Except Error Clause × Engine :=
  match e.registry.require entity with
  | .error err => (.error err, e)
  | .ok mapping =>
    let target : FilterTarget :=
      { mapping, dialect := e.dialect, ignoreCase := e.configuration.ignoreCase }
    let (clause, evaluators) := target.clause h.shape e.evaluators filter.body
    (clause, { e with evaluators })

/-- The statement of a plan with a filter; a filter that always holds is left out. -/
def filtered (built : BuiltPlan) (c : Clause) : Statement where
  sql :=
    if c.condition = .truth true then built.plan.sql
    else built.plan.sql ++ " WHERE " ++ c.sql
  parameters := c.parameters
  built := built

/-- The statement of a query. -/
def compile (h : Hashing) (e : Engine) (q : Query) : Except Error Statement × Engine :=
  match e.plan h q with
  | (.error err, next) => (.error err, next)
  | (.ok built, next) =>
    match q.filter with
    | none => (.ok ⟨built.plan.sql, .empty e.dialect, built⟩, next)
    | some filter =>
      match next.clause h q.root filter with
      | (.error err, last) => (.error err, last)
      | (.ok c, last) => (.ok (filtered built c), last)

/-- The root instances of the rows that a statement returned, and the store that they are in. -/
def materialize (e : Engine) (s : Statement) (columns : List String) (rows : List (List Value)) :
    Except Halt (List Nat × Store) :=
  match Materializer.ofColumns s.built.plan columns with
  | .error err => .error (.fault err)
  | .ok m =>
    match (m.ofRows rows).run.run { identities := .empty e.configuration.identity } with
    | (.ok roots, state) => .ok (roots, state.store)
    | (.error halt, _) => .error halt

/-- The engine without the plans of a root type, and how many they were. -/
def invalidate (e : Engine) (root : String) : Nat × Engine :=
  let (removed, plans) := e.plans.invalidate root
  (removed, { e with plans })

/-- The engine without plans. -/
def clearPlans (e : Engine) : Engine := { e with plans := e.plans.clear }

/-- The engine without evaluators. -/
def clearEvaluators (e : Engine) : Engine := { e with evaluators := e.evaluators.clear }

end Engine

end RelMap
