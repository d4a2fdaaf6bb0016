import RelMap.Proofs.Engine
import RelMap.Proofs.Include.Marks

/-!
# Marks of statements

The marks in the text of a statement against its bound values: they are the marks of some of the
values, in order, and of all values exactly when no comparison throws its operand away.
-/

namespace RelMap

open Evaluation (EvaluatorCache)

/-- The marks of a text are those of all but some of the bound values, in order. -/
def MarksAllBut (lost : Nat) (sql : String) (p : Parameters) : Prop :=
  ∃ kept : List Nat, kept.Sublist (List.range p.size) ∧ kept.length + lost = p.size ∧
    marks p.dialect sql = kept.map p.dialect.placeholder

/-- Each bound value has its mark in the text, in order, and there is no other mark. -/
def MarksAll (sql : String) (p : Parameters) : Prop :=
  marks p.dialect sql = (List.range p.size).map p.dialect.placeholder

instance (sql : String) (p : Parameters) : Decidable (MarksAll sql p) :=
  inferInstanceAs (Decidable (_ = _))

/-- How many values are bound in vain for the filter of a query. -/
def Query.discarded (d : Dialect) (q : Query) : Nat :=
  match q.filter with
  | none => 0
  | some filter => Filter.discarded d.emptyStringIsNull filter.body

/-- No value lacks its mark exactly when all have it. -/
lemma MarksAllBut.marksAll_iff {lost : Nat} {sql : String} {p : Parameters}
    (h : MarksAllBut lost sql p) : MarksAll sql p ↔ lost = 0 := by
  obtain ⟨kept, sub, count, found⟩ := h
  constructor
  · intro all
    have lengths := congrArg List.length (found.symm.trans all)
    simp only [List.length_map, List.length_range] at lengths
    omega
  · rintro rfl
    have whole : kept = List.range p.size := sub.eq_of_length (by simpa using count)
    rw [MarksAll, found, whole]

/-- A text with the marks of a condition lacks those of the discarded values. -/
lemma marksAllBut_of_reads {sql : String} {c : Clause} {d : Dialect} {lost : Nat}
    (dialect : c.parameters.dialect = d)
    (h : Filter.Increasing lost 0 c.condition c.parameters.values)
    (found : Reads d sql (c.condition.parameters.map d.placeholder)) :
    MarksAllBut lost sql c.parameters := by
  obtain ⟨sub, count⟩ := h
  refine ⟨c.condition.parameters, ?_, count, ?_⟩
  · rwa [List.range_eq_range']
  · rw [dialect]
    exact found.marks

lemma reads_clause {c : Clause} {d : Dialect} (spelled : c.spelling = ⟨d, rootAlias⟩) :
    Reads d c.sql (c.condition.parameters.map d.placeholder) := by
  rw [Clause.sql, spelled]
  exact @Spelling.reads_condition ⟨d, rootAlias⟩ isPlainText_rootAlias c.condition

/-- The marks of a plan's statement with a filter are those of the filter. -/
lemma reads_filtered {built : BuiltPlan} {c : Clause} {d : Dialect}
    (plain : Reads d built.plan.sql []) (spelled : c.spelling = ⟨d, rootAlias⟩) :
    Reads d (Engine.filtered built c).sql (c.condition.parameters.map d.placeholder) := by
  unfold Engine.filtered
  dsimp only
  split
  next trivial =>
    rw [trivial]
    exact plain
  next =>
    have opened := plain.append_plain (by decide : isPlainText " WHERE " = true)
      (by decide : " WHERE ".toList = ' ' :: "WHERE ".toList) rfl
    exact opened.append_reads (reads_clause spelled)

/-- A statement of a sound engine lacks the marks of the values that its filter binds in vain. -/
lemma Engine.Sound.marksAllBut {e : Engine} (sound : e.Sound) {h : Hashing} {q : Query}
    {s : Statement} (hs : (e.compile h q).1 = .ok s) :
    s.parameters.dialect = e.dialect ∧ MarksAllBut (q.discarded e.dialect) s.sql s.parameters := by
  obtain ⟨planned, ⟨plans, hnext⟩, builds⟩ := sound.plan h q
  unfold Engine.compile at hs
  rcases hplan : e.plan h q with ⟨err | built, next⟩
  · rw [hplan] at hs
    cases hs
  · rw [hplan] at hs planned hnext builds
    obtain ⟨tree, root, _, hbuild⟩ := builds built rfl
    have plain := Plan.reads_sql hbuild
    dsimp only at hs hnext planned
    unfold Query.discarded
    cases hq : q.filter with
    | none =>
      rw [hq] at hs
      cases hs
      exact ⟨rfl, [], List.nil_sublist _, rfl, plain.marks⟩
    | some filter =>
      obtain ⟨_, _, compiled⟩ := planned.clause h q.root filter
      rw [hq] at hs
      dsimp only at hs
      rcases hclause : next.clause h q.root filter with ⟨err | c, last⟩
      · rw [hclause] at hs
        cases hs
      · rw [hclause] at hs compiled
        cases hs
        obtain ⟨spelled, dialect, increasing⟩ := compiled c rfl
        subst hnext
        exact ⟨dialect, marksAllBut_of_reads dialect increasing (reads_filtered plain spelled)⟩

/--
The marks that a database finds in the text of a clause or of a statement are those of the bound
values in order, except for the values that ordering comparisons with null bind in vain. So every
value has its mark exactly when there is no such value.
-/
theorem marksAll_iff_discarded_eq_zero (h : Hashing) :
    (∀ (t : FilterTarget) (cache : EvaluatorCache) (body : Expr) (c : Clause),
      cache.Reachable h.shape → t.tableAlias = rootAlias →
      (t.clause h.shape cache body).1 = .ok c →
      c.parameters.dialect = t.dialect ∧
        MarksAllBut (Filter.discarded t.dialect.emptyStringIsNull body) c.sql c.parameters ∧
        (MarksAll c.sql c.parameters ↔
          Filter.discarded t.dialect.emptyStringIsNull body = 0)) ∧
    ∀ (e : Engine) (q : Query) (s : Statement),
      e.Reachable h → (e.compile h q).1 = .ok s →
      s.parameters.dialect = e.dialect ∧
        MarksAllBut (q.discarded e.dialect) s.sql s.parameters ∧
        (MarksAll s.sql s.parameters ↔ q.discarded e.dialect = 0) := by
  constructor
  · intro t cache body c reachable standard hc
    obtain ⟨_, result⟩ := @FilterTarget.clause_yields t h.shape cache body _ reachable.sound
      (Filter.yields_condition (t.faithful h.shape) body)
    obtain ⟨spelled, dialect, increasing⟩ := result c hc
    rw [standard] at spelled
    have lack := marksAllBut_of_reads dialect increasing (reads_clause spelled)
    exact ⟨dialect, lack, lack.marksAll_iff⟩
  · intro e q s reachable hs
    obtain ⟨dialect, lack⟩ := reachable.sound.marksAllBut hs
    exact ⟨dialect, lack, lack.marksAll_iff⟩

/-- A type with a key and two more properties. -/
def sampleMapping : EntityMapping where
  entityType := "T"
  table := "Ts"
  keys := ["Id"]
  properties := [{ name := "Id" }, { name := "A" }, { name := "B" }]
  slots := [("B", 2), ("A", 1), ("Id", 0)]
  keySlots := [0]
  columns := ["Id", "A", "B"]
  built := rfl

/-- What a filter of that type is compiled for in MySQL. -/
def sampleTarget : FilterTarget where
  mapping := sampleMapping
  dialect := .mySql

/-- The only value of an equality has its mark, in a clause and in a statement. -/
theorem marksAll_equality :
    (∃ c, (sampleTarget.clause Expr.shapeHash (.empty 1)
        (.binary (.comparison .eq) (.member (.parameter "x") "A") (.constant (.int32 7)))).1 =
          .ok c ∧ MarksAll c.sql c.parameters) ∧
    ∃ s, ((Engine.new {} (Registry.ofList [sampleMapping])).compile {}
        ⟨"T", some ⟨"x", .binary (.comparison .eq) (.member (.parameter "x") "A")
          (.constant (.int32 7))⟩, []⟩).1 = .ok s ∧ MarksAll s.sql s.parameters := by
  constructor
  · have compiles : ∃ c, (sampleTarget.clause Expr.shapeHash (.empty 1)
        (.binary (.comparison .eq) (.member (.parameter "x") "A") (.constant (.int32 7)))).1 =
          .ok c := ⟨_, rfl⟩
    obtain ⟨c, hc⟩ := compiles
    exact ⟨c, hc, ((marksAll_iff_discarded_eq_zero {}).1 _ _ _ c (.empty 1) rfl hc).2.2.2 rfl⟩
  · have compiles : ∃ s, ((Engine.new {} (Registry.ofList [sampleMapping])).compile {}
        ⟨"T", some ⟨"x", .binary (.comparison .eq) (.member (.parameter "x") "A")
          (.constant (.int32 7))⟩, []⟩).1 = .ok s := ⟨_, rfl⟩
    obtain ⟨s, hs⟩ := compiles
    exact ⟨s, hs, ((marksAll_iff_discarded_eq_zero {}).2 _ _ s (.new {} _) hs).2.2.2 rfl⟩

/--
Of the two values bound here only the second has a mark, which stands for the first by its place.
-/
theorem not_marksAll_ordering_null :
    ∃ c, (sampleTarget.clause Expr.shapeHash (.empty 1024)
        (.binary (.connective .or)
          (.binary (.comparison .lt)
            (.binary (.arithmetic .add) (.member (.parameter "x") "A") (.constant (.int32 5)))
            (.constant .null))
          (.binary (.comparison .eq) (.member (.parameter "x") "B") (.constant (.int32 7))))).1 =
        .ok c ∧
      marks .mySql c.sql = ["?"] ∧ c.parameters.values = [.int32 5, .int32 7] ∧
      ¬ MarksAll c.sql c.parameters :=
  ⟨_, rfl, by decide, rfl, by decide⟩

end RelMap
