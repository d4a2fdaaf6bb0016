import RelMap.Proofs.Engine
import RelMap.Proofs.Filter.CapturedValues

/-!
# Engines with a history

Whatever was asked of an engine before, and whatever was dropped from its caches in between, it
answers as an engine does that has not been asked anything. The hashes by which it finds what it has
kept do not matter: what is found is compared with what is looked for, so that expressions or trees
with one hash are told apart.
-/

namespace RelMap

open Evaluation (EvaluatorCache)

/-- What is asked of an engine, or done to its caches. -/
inductive Request where
  | plan (q : Query)
  | clause (entity : String) (filter : Predicate)
  | compile (q : Query)
  | invalidate (root : String)
  | clearPlans
  | clearEvaluators

/--
What comes of a request. Plans are compared by what they say, and not by whether they were built for
this request or for one before it.
-/
inductive Answer where
  | plan (result : Except Error Plan)
  | clause (result : Except Error Clause)
  | statement (result : Except Error (String × Parameters × Plan))
  | done

/-- What a statement says: its text, its bound values and the plan that its rows follow. -/
def Statement.content (s : Statement) : String × Parameters × Plan :=
  (s.sql, s.parameters, s.built.plan)

/-- Two sound caches lead to the same clause of a filter, or to the same error. -/
lemma FilterTarget.clause_eq (t : FilterTarget) {hash hash' : Expr → UInt64}
    {cache cache' : EvaluatorCache} (sound : cache.Sound) (sound' : cache'.Sound) (body : Expr) :
    (t.clause hash cache body).1 = (t.clause hash' cache' body).1 := by
  apply SameClause.eq
  apply t.sameClause sound sound'
  apply Expr.Resembles.refl
  exact Filter.Captured.refl rfl

namespace Engine

/-- Two sound engines of one configuration over one registry, whatever their caches hold. -/
structure Alike (e e' : Engine) : Prop where
  left : e.Sound
  right : e'.Sound
  configuration : e.configuration = e'.configuration
  registry : e.registry = e'.registry

variable {h h' : Hashing} {e e' e'' : Engine}

/-- Being alike goes both ways. -/
lemma Alike.symm (alike : Alike e e') : Alike e' e :=
  ⟨alike.right, alike.left, alike.configuration.symm, alike.registry.symm⟩

/-- Engines that are like one engine are like each other. -/
lemma Alike.trans (alike : Alike e e') (alike' : Alike e' e'') : Alike e e'' where
  left := alike.left
  right := alike'.right
  configuration := alike.configuration.trans alike'.configuration
  registry := alike.registry.trans alike'.registry

/-- The plan of a query's includes, without a cache. -/
def planned (e : Engine) (q : Query) : Except Error Plan := do
  let root ← e.registry.require q.root
  let tree ← IncludeTree.resolve e.registry q.root q.includes
  Plan.build e.dialect e.registry root tree

/-- A sound engine answers with the plan that planning gives. -/
lemma Sound.plan_eq (sound : e.Sound) (h : Hashing) (q : Query) :
    (e.plan h q).1.map (·.plan) = e.planned q := by
  unfold Engine.plan planned
  cases hroot : e.registry.require q.root with
  | error err => rfl
  | ok root =>
    cases htree : IncludeTree.resolve e.registry q.root q.includes with
    | error err => rfl
    | ok tree =>
      rw [ok_bind, ok_bind]
      dsimp only
      -- A plan in the cache was built for this tree, with the root mapping of this registry.
      rw [sound.plans.getOrBuild_eq]
      · cases Plan.build e.dialect e.registry root tree <;> rfl
      · rintro built ⟨root', hroot', hbuilt⟩
        rw [root_of_resolve htree, hroot] at hroot'
        cases hroot'
        rw [hbuilt]
        rfl

/-- Engines that are alike plan a query alike. -/
lemma Alike.plan_eq (alike : Alike e e') (h h' : Hashing) (q : Query) :
    (e.plan h q).1.map (·.plan) = (e'.plan h' q).1.map (·.plan) := by
  rw [alike.left.plan_eq, alike.right.plan_eq, planned, planned, dialect, dialect,
    alike.configuration, alike.registry]

/-- Planning a query does not change what an engine answers. -/
lemma Sound.plan_alike (sound : e.Sound) (h : Hashing) (q : Query) :
    Alike e (e.plan h q).2 := by
  obtain ⟨next, ⟨plans, same⟩, _⟩ := sound.plan h q
  exact ⟨sound, next, by rw [same], by rw [same]⟩

/-- Engines that are alike compile a filter alike. -/
lemma Alike.clause_eq (alike : Alike e e') (h h' : Hashing) (entity : String)
    (filter : Predicate) : (e.clause h entity filter).1 = (e'.clause h' entity filter).1 := by
  unfold Engine.clause
  rw [← alike.registry]
  cases e.registry.require entity with
  | error err => rfl
  | ok mapping =>
    dsimp only
    rw [dialect, dialect, ← alike.configuration]
    exact FilterTarget.clause_eq _ alike.left.evaluators alike.right.evaluators filter.body

/-- Compiling a filter does not change what an engine answers. -/
lemma Sound.clause_alike (sound : e.Sound) (h : Hashing) (entity : String) (filter : Predicate) :
    Alike e (e.clause h entity filter).2 := by
  obtain ⟨next, ⟨evaluators, same⟩, _⟩ := sound.clause h entity filter
  exact ⟨sound, next, by rw [same], by rw [same]⟩

/-- Engines that are alike compile a query to the same content. -/
lemma Alike.compile_eq (alike : Alike e e') (h h' : Hashing) (q : Query) :
    (e.compile h q).1.map Statement.content = (e'.compile h' q).1.map Statement.content := by
  have plans := alike.plan_eq h h' q
  have next := ((alike.left.plan_alike h q).symm.trans alike).trans (alike.right.plan_alike h' q)
  unfold Engine.compile
  rcases hplan : e.plan h q with ⟨err | built, f⟩
  all_goals rcases hplan' : e'.plan h' q with ⟨err' | built', f'⟩
  all_goals rw [hplan, hplan'] at plans next
  case error.error =>
    cases plans
    rfl
  case error.ok => cases plans
  case ok.error => cases plans
  case ok.ok =>
    have plan : built.plan = built'.plan := Except.ok.inj plans
    dsimp only at next ⊢
    cases q.filter with
    | none =>
      rw [dialect, dialect, alike.configuration]
      simp only [Except.map, Statement.content, plan]
    | some filter =>
      have clauses := next.clause_eq h h' q.root filter
      dsimp only
      rcases hclause : f.clause h q.root filter with ⟨err | c, g⟩
      all_goals rcases hclause' : f'.clause h' q.root filter with ⟨err' | c', g'⟩
      all_goals rw [hclause, hclause'] at clauses
      case error.error =>
        cases clauses
        rfl
      case error.ok => cases clauses
      case ok.error => cases clauses
      case ok.ok =>
        cases clauses
        simp only [Except.map, Statement.content, filtered, plan]

/-- Compiling a query does not change what an engine answers. -/
lemma Sound.compile_alike (sound : e.Sound) (h : Hashing) (q : Query) :
    Alike e (e.compile h q).2 := by
  have planned := sound.plan_alike h q
  unfold Engine.compile
  rcases hplan : e.plan h q with ⟨err | built, next⟩
  all_goals rw [hplan] at planned
  · exact planned
  · dsimp only at planned ⊢
    cases q.filter with
    | none => exact planned
    | some filter =>
      have compiled := planned.trans (planned.right.clause_alike h q.root filter)
      dsimp only
      rcases hclause : next.clause h q.root filter with ⟨err | c, last⟩
      all_goals
        rw [hclause] at compiled
        exact compiled

/-- The answer to a request, and the engine afterwards. -/
def answer (h : Hashing) (e : Engine) : Request → Answer × Engine
  | .plan q => (.plan ((e.plan h q).1.map (·.plan)), (e.plan h q).2)
  | .clause entity filter =>
    (.clause (e.clause h entity filter).1, (e.clause h entity filter).2)
  | .compile q => (.statement ((e.compile h q).1.map Statement.content), (e.compile h q).2)
  | .invalidate root => (.done, (e.invalidate root).2)
  | .clearPlans => (.done, e.clearPlans)
  | .clearEvaluators => (.done, e.clearEvaluators)

/-- The answers to several requests, one after the other. -/
def answers (h : Hashing) (e : Engine) : List Request → List Answer
  | [] => []
  | request :: requests => (e.answer h request).1 :: (e.answer h request).2.answers h requests

/-- Engines that are alike give the same answer. -/
lemma Alike.answer_eq (alike : Alike e e') (h h' : Hashing) (request : Request) :
    (e.answer h request).1 = (e'.answer h' request).1 := by
  cases request with
  | plan q => exact congrArg Answer.plan (alike.plan_eq h h' q)
  | clause entity filter => exact congrArg Answer.clause (alike.clause_eq h h' entity filter)
  | compile q => exact congrArg Answer.statement (alike.compile_eq h h' q)
  | invalidate root => rfl
  | clearPlans => rfl
  | clearEvaluators => rfl

/-- A request leaves an engine as it was, its caches apart. -/
lemma Sound.answer_alike (sound : e.Sound) (h : Hashing) (request : Request) :
    Alike e (e.answer h request).2 := by
  cases request with
  | plan q => exact sound.plan_alike h q
  | clause entity filter => exact sound.clause_alike h entity filter
  | compile q => exact sound.compile_alike h q
  | invalidate root =>
    exact ⟨sound, ⟨sound.evaluators, sound.plans.invalidate root⟩, rfl, rfl⟩
  | clearPlans => exact ⟨sound, ⟨sound.evaluators, PlanCache.Holds.clear _⟩, rfl, rfl⟩
  | clearEvaluators => exact ⟨sound, ⟨EvaluatorCache.Sound.clear _, sound.plans⟩, rfl, rfl⟩

/-- Engines that are alike give the same answers, however often they are asked. -/
lemma Alike.answers_eq (alike : Alike e e') (h h' : Hashing) (requests : List Request) :
    e.answers h requests = requests.map fun request => (e'.answer h' request).1 := by
  induction requests generalizing e with
  | nil => rfl
  | cons request requests ih =>
    -- What the engine has become is still like the one without a history.
    rw [answers, List.map_cons, alike.answer_eq h h' request]
    rw [ih ((alike.left.answer_alike h request).symm.trans alike)]

/--
The history of an engine does not matter: with caches of any capacity and any hashes, it gives to
each of several requests the answer that a new engine gives to it alone.
-/
theorem answers_new (h h' : Hashing) (configuration : Configuration) (registry : Registry)
    (requests : List Request) :
    (Engine.new configuration registry).answers h requests =
      requests.map fun request => ((Engine.new configuration registry).answer h' request).1 := by
  have sound := Sound.new configuration registry
  exact Alike.answers_eq ⟨sound, sound, rfl, rfl⟩ h h' requests

end Engine

end RelMap
