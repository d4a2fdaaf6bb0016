import RelMap.Filter.Compile

/-!
# Clauses

A filter compiled against a mapping: its condition, how that is written, and the bound values.
-/

namespace RelMap

/-- The alias of the filtered table. -/
def rootAlias : String := "a"

/-- A compiled filter. -/
structure Clause where
  /-- How the condition is written. -/
  spelling : Spelling
  /-- The condition. -/
  condition : Condition
  /-- The bound values. -/
  parameters : Parameters
  deriving DecidableEq

/-- The text of a clause. -/
def Clause.sql (c : Clause) : String := c.spelling.condition c.condition

/-- What a filter is compiled for. -/
structure FilterTarget where
  /-- The mapping of the filtered type. -/
  mapping : EntityMapping
  /-- The dialect of the statement. -/
  dialect : Dialect
  /-- Whether comparisons of strings ignore case; the dialect decides if it is not said. -/
  ignoreCase : Option Bool := none
  /-- The alias of the filtered table. -/
  tableAlias : String := rootAlias

namespace FilterTarget

/-- The setting of a compilation with some evaluator. -/
def setting {σ : Type} (t : FilterTarget) (evaluate : σ → Expr → Except Fault Value × σ) :
    Filter.Setting σ where
  mapping := t.mapping
  emptyStringIsNull := t.dialect.emptyStringIsNull
  ignoreCase := t.ignoreCase.getD t.dialect.ignoresCase
  evaluate := evaluate

/-- The clause of a filter, and the evaluator's state afterwards. -/
def clauseWith {σ : Type} (t : FilterTarget) (evaluate : σ → Expr → Except Fault Value × σ)
    (evaluators : σ) (body : Expr) : Except Fault Clause × σ :=
  match (Filter.condition (t.setting evaluate) body).run.run ⟨evaluators, []⟩ with
  | (.ok condition, progress) =>
    (.ok ⟨⟨t.dialect, t.tableAlias⟩, condition, ⟨t.dialect, progress.bound⟩⟩, progress.evaluators)
  | (.error f, progress) => (.error f, progress.evaluators)

/-- The clause of a filter, with evaluators from a cache. -/
def clause (hash : Expr → UInt64) (t : FilterTarget) (cache : Evaluation.EvaluatorCache)
    (body : Expr) : Except Error Clause × Evaluation.EvaluatorCache :=
  let (result, next) := t.clauseWith (Evaluation.EvaluatorCache.evaluate hash) cache body
  (Fault.about t.mapping.entityType result, next)

end FilterTarget

end RelMap
