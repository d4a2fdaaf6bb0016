import RelMap.Proofs.Filter.CapturedValues
import RelMap.Proofs.Filter.Noting
import RelMap.Proofs.Filter.Pieces

/-!
# Dialects differ only in spelling

Two dialects compile a filter to the same condition with the same values, unless a value that is
evaluated for the filter is null to one of them only. The texts of the condition are then put
together of the same pieces, each spelled by its dialect.
-/

namespace RelMap

open Evaluation (EvaluatorCache value)
open RelMap.Filter (Captured Disguise noting)

/-- A constant as a field of a closure, from where it has to be read; all else as it is. -/
def Expr.enclosed : Expr → Expr
  | .constant v => .member (.closure ⟨"", [("", v)]⟩) ""
  | e => e

namespace FilterTarget

/-- The same filter for another dialect. -/
def on (t : FilterTarget) (d : Dialect) : FilterTarget := { t with dialect := d }

/--
The values that are evaluated when a filter is compiled, in order. No evaluator is asked for the
value of a constant, so constants are enclosed to be noted along with all other values.
-/
def evaluated (t : FilterTarget) (body : Expr) : List Value :=
  (t.clauseWith noting [] (body.mapCaptures Expr.enclosed)).2

end FilterTarget

/--
Two clauses of one condition, whose texts are the same pieces in two dialects, and whose parameters
have the same names and values; or one error.
-/
inductive Respelled (d d' : Dialect) (tableAlias : String) :
    Except Error Clause → Except Error Clause → Prop where
  | ok {c c' : Clause} (tree : Condition) :
    c.condition = tree →
    c'.condition = tree →
    c.sql = d.spellAll (tree.pieces tableAlias) →
    c'.sql = d'.spellAll (tree.pieces tableAlias) →
    c.parameters.toList.map (fun p => (p.name, p.value)) =
      c'.parameters.toList.map (fun p => (p.name, p.value)) →
    Respelled d d' tableAlias (.ok c) (.ok c')
  | error (e : Error) : Respelled d d' tableAlias (.error e) (.error e)

variable {hash hash' : Expr → UInt64} {cache cache' : EvaluatorCache}

lemma Expr.value_enclosed (e : Expr) : value e.enclosed = value e := by
  cases e <;> rfl

lemma Expr.enclosed_ne_constant (e : Expr) (v : Value) : e.enclosed ≠ .constant v := by
  cases e <;> exact nofun

lemma Expr.dependsOnParameter_enclosed {e : Expr} (captured : e.dependsOnParameter = false) :
    e.enclosed.dependsOnParameter = false := by
  cases e with
  | constant v => rfl
  | _ => exact captured

/-- No captured part of a filter is a constant once they are enclosed. -/
lemma Filter.Disguise.enclosed (body : Expr) : Disguise body (body.mapCaptures Expr.enclosed) := by
  apply Expr.Resembles.mapCaptures
  intro c hc
  have captured := Expr.dependsOnParameter_of_mem_captures body hc
  exact ⟨Expr.dependsOnParameter_enclosed captured, c.enclosed_ne_constant⟩

namespace FilterTarget

variable {t : FilterTarget}

lemma faithful_noting (t : FilterTarget) : (t.setting noting).Faithful fun _ => True where
  value := fun _ _ => rfl
  next := fun _ _ => True.intro

/-- Enclosing the constants of a filter and noting values does not change its clause. -/
lemma clause_eq_noting (t : FilterTarget) (sound : cache.Sound) (body : Expr) :
    (t.clause hash cache body).1 = Fault.about t.mapping.entityType
      (t.clauseWith noting [] (body.mapCaptures Expr.enclosed)).1 := by
  have settings : (t.setting (EvaluatorCache.evaluate hash)).Matches (t.setting noting)
      EvaluatorCache.Sound fun _ => True := ⟨t.faithful hash, t.faithful_noting, rfl, rfl⟩
  have resembles : Expr.Resembles True (Captured True (t.setting (EvaluatorCache.evaluate hash))
      (t.setting noting)) body (body.mapCaptures Expr.enclosed) := by
    apply Expr.Resembles.mapCaptures
    intro c hc
    have captured := Expr.dependsOnParameter_of_mem_captures body hc
    refine ⟨Expr.dependsOnParameter_enclosed captured, ?_⟩
    rw [Captured, c.value_enclosed]
    cases value c with
    | ok v => exact .ok rfl fun _ => rfl
    | error f => exact .error fun _ => rfl
  obtain ⟨_, _, bound, result⟩ := Filter.agree_condition settings resembles ⟨cache, []⟩ ⟨[], []⟩
    sound True.intro ⟨rfl, fun _ => rfl⟩
  unfold clause clauseWith
  rcases run : (Filter.condition (t.setting (EvaluatorCache.evaluate hash)) body).run.run
    ⟨cache, []⟩ with ⟨r, p⟩
  rcases run' : (Filter.condition (t.setting noting) (body.mapCaptures Expr.enclosed)).run.run
    ⟨[], []⟩ with ⟨r', p'⟩
  rw [run, run'] at bound result
  cases result with
  | ok condition =>
    dsimp only at bound ⊢
    rw [bound.2 True.intro]
  | error same =>
    dsimp only
    rw [same True.intro]

/-- A clause in the spelling of another dialect. -/
def respell (d : Dialect) (c : Clause) : Clause :=
  ⟨⟨d, c.spelling.tableAlias⟩, c.condition, ⟨d, c.parameters.values⟩⟩

lemma clauseWith_eq {σ : Type} (t : FilterTarget) (evaluate : σ → Expr → Except Fault Value × σ)
    (evaluators : σ) (body : Expr) {result : Except Fault Condition} {p : Filter.Progress σ}
    (run : (Filter.condition (t.setting evaluate) body).run.run ⟨evaluators, []⟩ = (result, p)) :
    t.clauseWith evaluate evaluators body =
      (result.map fun c => ⟨⟨t.dialect, t.tableAlias⟩, c, ⟨t.dialect, p.bound⟩⟩, p.evaluators) := by
  unfold clauseWith
  rw [run]
  cases result <;> rfl

/-- While values are null to both dialects or to none, only the spelling of a clause differs. -/
lemma clauseWith_noting_on {d : Dialect} {body : Expr} (alike : ∀ v ∈ t.evaluated body,
      v.NullAlike t.dialect.emptyStringIsNull d.emptyStringIsNull) :
    (t.on d).clauseWith noting [] (body.mapCaptures Expr.enclosed) =
      ((t.clauseWith noting [] (body.mapCaptures Expr.enclosed)).1.map (respell d),
        t.evaluated body) := by
  have notes : (t.setting noting).evaluate = noting := rfl
  have same : Filter.SameOver True (t.setting noting) d.emptyStringIsNull _ _ :=
    Filter.same_condition notes (Disguise.enclosed body)
  obtain ⟨noted, log, same⟩ := same ⟨[], []⟩
  rcases run : (Filter.condition (t.setting noting) (body.mapCaptures Expr.enclosed)).run.run
    ⟨[], []⟩ with ⟨result, p⟩
  rw [run] at log same
  have clause := t.clauseWith_eq noting [] _ run
  have evaluated : t.evaluated body = noted := (congrArg Prod.snd clause).trans log
  rw [evaluated] at alike ⊢
  rw [(t.on d).clauseWith_eq noting [] _ (same True.intro alike), clause]
  apply Prod.ext
  · cases result <;> rfl
  · exact log

/--
Compiled for two dialects, a filter gives clauses that differ in their spelling alone, or the same
error, while the values evaluated for it are null to both dialects or to none.
-/
theorem clause_respelled (t : FilterTarget) (d : Dialect) (reachable : cache.Reachable hash)
    (reachable' : cache'.Reachable hash') {body : Expr} (alike : ∀ v ∈ t.evaluated body,
      v.NullAlike t.dialect.emptyStringIsNull d.emptyStringIsNull) :
    (t.on d).evaluated body = t.evaluated body ∧
      Respelled t.dialect d t.tableAlias (t.clause hash cache body).1
        ((t.on d).clause hash' cache' body).1 := by
  have on := clauseWith_noting_on alike
  refine ⟨(congrArg Prod.snd on :), ?_⟩
  rw [t.clause_eq_noting reachable.sound, (t.on d).clause_eq_noting reachable'.sound, on]
  rcases run : (Filter.condition (t.setting noting) (body.mapCaptures Expr.enclosed)).run.run
    ⟨[], []⟩ with ⟨f | condition, p⟩
  · rw [t.clauseWith_eq noting [] _ run]
    exact .error _
  · rw [t.clauseWith_eq noting [] _ run]
    apply Respelled.ok condition
    · rfl
    · rfl
    · exact Spelling.condition_eq_spellAll condition
    · exact Spelling.condition_eq_spellAll condition
    · simp [Parameters.toList, respell]

end FilterTarget

/-- A filter with a list that holds null, a boolean property and a pattern. -/
def sampleAlternatives : Expr :=
  .binary (.connective .or)
    (.call .contains [.constant (.list [.string "b", .null]), .member (.parameter "x") "A"])
    (.binary (.connective .and) (.member (.parameter "x") "A")
      (.invoke (.member (.parameter "x") "B") .startsWith [.constant (.string "5%")]))

/-- In Oracle, names, marks and the escape clause of MySQL are spelled otherwise. -/
theorem clause_respelled_oracle :
    (∀ v ∈ sampleTarget.evaluated sampleAlternatives, v.NullAlike false true) ∧
      ∃ c c', (sampleTarget.clause Expr.shapeHash (.empty 1) sampleAlternatives).1 = .ok c ∧
        ((sampleTarget.on .oracle).clause Expr.shapeHash (.empty 1) sampleAlternatives).1 =
          .ok c' ∧
        c.sql = "((a.\x60A\x60 IN (?) OR a.\x60A\x60 IS NULL)) OR " ++
          "((a.\x60A\x60 = 1) AND (a.\x60B\x60 LIKE ? ESCAPE '\\\\'))" ∧
        c'.sql = "((a.\"A\" IN (:p0) OR a.\"A\" IS NULL)) OR " ++
          "((a.\"A\" = 1) AND (a.\"B\" LIKE :p1 ESCAPE '\\'))" ∧
        Respelled .mySql .oracle rootAlias (.ok c) (.ok c') := by
  have alike : ∀ v ∈ sampleTarget.evaluated sampleAlternatives, v.NullAlike false true := by
    decide
  exact ⟨alike, _, _, rfl, rfl, by decide, by decide,
    (sampleTarget.clause_respelled .oracle (.empty 1) (.empty 1) alike).2⟩

end RelMap
