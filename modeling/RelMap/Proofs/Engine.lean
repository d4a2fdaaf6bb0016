import RelMap.Engine
import RelMap.Proofs.Evaluation.Cache
import RelMap.Proofs.Filter.Binding
import RelMap.Proofs.Include.Plan
import RelMap.Proofs.Include.PlanCache

/-!
# Reachable engines

The engines that requests lead to, failing requests included, and what their caches hold: evaluators
for the shapes they are kept for, and plans for the trees they were built for.
-/

namespace RelMap

open Evaluation (EvaluatorCache)

lemma FilterTarget.faithful (t : FilterTarget) (hash : Expr → UInt64) :
    (t.setting (EvaluatorCache.evaluate hash)).Faithful EvaluatorCache.Sound where
  value := fun sound e => (sound.evaluate e).1
  next := fun sound e => (sound.evaluate e).2

/-- What a compilation yields, a clause yields, and the evaluators stay sound in any case. -/
lemma FilterTarget.clause_yields {t : FilterTarget} {hash : Expr → UInt64} {cache : EvaluatorCache}
    {body : Expr} {P : Condition → List Value → Prop} (sound : cache.Sound)
    (h : Filter.Yields EvaluatorCache.Sound 0
      (Filter.condition (t.setting (EvaluatorCache.evaluate hash)) body) P) :
    (t.clause hash cache body).2.Sound ∧
      ∀ c, (t.clause hash cache body).1 = .ok c →
        c.spelling = ⟨t.dialect, t.tableAlias⟩ ∧ c.parameters.dialect = t.dialect ∧
          P c.condition c.parameters.values := by
  obtain ⟨next, result⟩ := h ⟨cache, []⟩ sound rfl
  unfold FilterTarget.clause FilterTarget.clauseWith
  rcases run : (Filter.condition (t.setting (EvaluatorCache.evaluate hash)) body).run.run
    ⟨cache, []⟩ with ⟨fault | condition, progress⟩
  · rw [run] at next
    exact ⟨next, nofun⟩
  · rw [run] at next result
    refine ⟨next, fun c hc => ?_⟩
    cases hc
    obtain ⟨vs, bound, ok⟩ := result condition rfl
    cases bound
    exact ⟨rfl, rfl, ok⟩

namespace Engine

/-- The engines that requests lead to, from any new one. -/
inductive Reachable (h : Hashing) : Engine → Prop where
  | new (configuration : Configuration) (registry : Registry) :
    Reachable h (.new configuration registry)
  | plan {e} (q : Query) :
    Reachable h e →
    Reachable h (e.plan h q).2
  | clause {e} (entity : String) (filter : Predicate) :
    Reachable h e →
    Reachable h (e.clause h entity filter).2
  | compile {e} (q : Query) :
    Reachable h e →
    Reachable h (e.compile h q).2
  | invalidate {e} (root : String) :
    Reachable h e →
    Reachable h (e.invalidate root).2
  | clearPlans {e} :
    Reachable h e →
    Reachable h e.clearPlans
  | clearEvaluators {e} :
    Reachable h e →
    Reachable h e.clearEvaluators
  /-- Engines may share one cache of evaluators. -/
  | withEvaluators {e cache} :
    Reachable h e →
    EvaluatorCache.Reachable h.shape cache →
    Reachable h (e.withEvaluators cache)

/-- A plan is what planning a tree gives in an engine. -/
def Builds (e : Engine) (tree : IncludeTree) (p : Plan) : Prop :=
  ∃ root, e.registry.require tree.root = .ok root ∧
    Plan.build e.dialect e.registry root tree = .ok p

/-- An engine whose caches hold only what they should. -/
structure Sound (e : Engine) : Prop where
  /-- The evaluators are those of their shapes. -/
  evaluators : e.evaluators.Sound
  /-- The plans are those of their trees. -/
  plans : e.plans.Holds fun _ tree built => e.Builds tree built.plan

variable {h : Hashing} {e : Engine}

/-- A resolved tree has the root that it was resolved for. -/
lemma root_of_resolve {r : Registry} {root : String} {paths : List String} {tree : IncludeTree}
    (ht : IncludeTree.resolve r root paths = .ok tree) : tree.root = root := by
  simp only [IncludeTree.resolve, IncludeTree.resolveFrom, bind_eq_ok, pure_eq_ok] at ht
  obtain ⟨_, _, _, _, ht⟩ := ht
  cases ht
  rfl

lemma Sound.new (configuration : Configuration) (registry : Registry) :
    (Engine.new configuration registry).Sound :=
  ⟨EvaluatorCache.Sound.empty _, PlanCache.Holds.empty _⟩

/-- A sound engine plans as planning does, and stays sound; only its plans change. -/
lemma Sound.plan (sound : e.Sound) (h : Hashing) (q : Query) :
    (e.plan h q).2.Sound ∧ (∃ plans, (e.plan h q).2 = { e with plans }) ∧
      ∀ built, (e.plan h q).1 = .ok built → ∃ tree, e.Builds tree built.plan := by
  unfold Engine.plan
  split
  next => exact ⟨sound, ⟨e.plans, rfl⟩, nofun⟩
  next root hroot =>
    split
    next => exact ⟨sound, ⟨e.plans, rfl⟩, nofun⟩
    next tree htree =>
      let build (_ : Unit) : Except Error BuiltPlan :=
        (Plan.build e.dialect e.registry root tree).map (⟨e.plans.stats.misses, ·⟩)
      have builds (built : BuiltPlan) (hb : build () = .ok built) : e.Builds tree built.plan := by
        dsimp only [build] at hb
        cases hp : Plan.build e.dialect e.registry root tree with
        | error err =>
          rw [hp] at hb
          cases hb
        | ok p =>
          rw [hp] at hb
          cases hb
          exact ⟨root, by rw [root_of_resolve htree, hroot], hp⟩
      obtain ⟨found, plans⟩ := @PlanCache.Holds.getOrBuild _ _ _ _ h.tree h.choice sound.plans
        e.dialect.name tree build builds
      exact ⟨⟨sound.evaluators, plans⟩, ⟨_, rfl⟩, fun built hb => ⟨tree, found built hb⟩⟩

/-- The compiled filter of a sound engine's query: what it yields; nothing else changes. -/
lemma Sound.clause (sound : e.Sound) (h : Hashing) (entity : String) (filter : Predicate) :
    (e.clause h entity filter).2.Sound ∧
      (∃ evaluators, (e.clause h entity filter).2 = { e with evaluators }) ∧
      ∀ c, (e.clause h entity filter).1 = .ok c →
        c.spelling = ⟨e.dialect, rootAlias⟩ ∧ c.parameters.dialect = e.dialect ∧
          Filter.Increasing (Filter.discarded e.dialect.emptyStringIsNull filter.body) 0
            c.condition c.parameters.values := by
  unfold Engine.clause
  split
  next => exact ⟨sound, ⟨e.evaluators, rfl⟩, nofun⟩
  next mapping _ =>
    let target : FilterTarget :=
      { mapping, dialect := e.dialect, ignoreCase := e.configuration.ignoreCase }
    obtain ⟨next, result⟩ := @FilterTarget.clause_yields target h.shape _ filter.body _
      sound.evaluators (Filter.yields_condition (target.faithful h.shape) filter.body)
    exact ⟨⟨next, sound.plans⟩, ⟨_, rfl⟩, result⟩

/-- A sound engine stays sound when a query is compiled. -/
lemma Sound.compile (sound : e.Sound) (h : Hashing) (q : Query) : (e.compile h q).2.Sound := by
  obtain ⟨planned, _, _⟩ := sound.plan h q
  unfold Engine.compile
  rcases hplan : e.plan h q with ⟨err | built, next⟩
  · rw [hplan] at planned
    exact planned
  · rw [hplan] at planned
    dsimp only
    cases q.filter with
    | none => exact planned
    | some filter =>
      obtain ⟨compiled, _⟩ := planned.clause h q.root filter
      dsimp only
      rcases hclause : next.clause h q.root filter with ⟨err | c, last⟩
      · rw [hclause] at compiled
        exact compiled
      · rw [hclause] at compiled
        exact compiled

/-- Every engine that requests lead to is sound. -/
lemma Reachable.sound (reachable : e.Reachable h) : e.Sound := by
  induction reachable with
  | new configuration registry => exact Sound.new configuration registry
  | plan q _ ih => exact (ih.plan h q).1
  | clause entity filter _ ih => exact (ih.clause h entity filter).1
  | compile q _ ih => exact ih.compile h q
  | invalidate root _ ih => exact ⟨ih.evaluators, ih.plans.invalidate root⟩
  | clearPlans _ ih => exact ⟨ih.evaluators, PlanCache.Holds.clear _⟩
  | clearEvaluators _ ih => exact ⟨EvaluatorCache.Sound.clear _, ih.plans⟩
  | withEvaluators _ hc ih => exact ⟨hc.sound, ih.plans⟩

end Engine

end RelMap
