import RelMap.Proofs.Filter.BoundValues
import RelMap.Proofs.Filter.Grouping
import RelMap.Proofs.Filter.Resemblance
import RelMap.Proofs.Include.Columns
import RelMap.Proofs.Lists

/-!
# Tests for null

Null is tested with `IS` only. Nothing that a condition compares, matches with a pattern or looks
for in a list is null, be it written out or bound to a parameter, and a comparison for equality with
a value that is null to the database is a test of its other side.
-/

namespace RelMap

/-- The lowercase form of a character is not empty. -/
lemma Text.lowerChar_ne_nil (c : Char) : Text.lowerChar c ≠ [] := by
  have some : ∀ x ∈ lowercaseExpansions, x.2 ≠ [] := by decide
  unfold lowerChar mapCase
  split
  · exact nofun
  · split
    next found =>
      rw [ne_eq, List.map_eq_nil_iff]
      exact some _ (List.mem_of_find?_eq_some found)
    next => exact nofun

/-- The lowercase form of a text is empty for the empty text only. -/
lemma Text.lowercase_ne_empty {text : String} (h : text ≠ "") : Text.lowercase text ≠ "" := by
  intro empty
  have chars : lowerChars text.toList = [] := by
    have same := congrArg String.toList empty
    rwa [lowercase, String.toList_ofList] at same
  rcases cs : text.toList with _ | ⟨c, rest⟩
  · exact h (String.toList_inj.1 cs)
  · rw [cs, lowerChars, lowerAfter] at chars
    have mapped := (List.append_eq_nil_iff.1 chars).1
    split at mapped
    · cases mapped
    · exact lowerChar_ne_nil c mapped

/-- There is a wildcard in every pattern. -/
lemma Pattern.ofMethod_ne_empty (method : Method) (text : String) :
    Pattern.ofMethod method text ≠ "" := by
  intro empty
  have chars := congrArg String.toList empty
  rw [ofMethod, String.toList_append, String.toList_append] at chars
  obtain ⟨front, back⟩ := List.append_eq_nil_iff.1 chars
  unfold wildcards at front back
  split at back
  · cases back
  · exact absurd (List.append_eq_nil_iff.1 front).1 (by decide)
  · cases back

/-- Parameters of one mark are one parameter, where parameters are told apart. -/
lemma Dialect.placeholder_injective {d : Dialect} (apart : d ≠ .mySql) {i j : Nat}
    (h : d.placeholder i = d.placeholder j) : i = j := by
  cases d
  case mySql => exact absurd rfl apart
  all_goals
    have chars := congrArg String.toList h
    simp only [placeholder, parameterName, String.toList_append, List.append_cancel_left_eq,
      String.toList_inj] at chars
    have same := toString_injective chars
    omega

namespace Sql.Tree

/-- The parts of a tree. -/
def parts : Tree → List Tree
  | .column .. | .mark _ | .word _ | .literal _ | .null => []
  | .negate t | .isNull t _ | .not t => [t]
  | .arithmetic _ l r | .compare _ l r | .connect _ l r | .like l r _ => [l, r]
  | .call _ args => args
  | .among t items => t :: items

/-- What is compared, matched with a pattern or looked for in a list. -/
def operands : Tree → List Tree
  | .compare _ l r | .like l r _ => [l, r]
  | .among t items => t :: items
  | _ => []

/-- What a function of one argument is applied to; any other tree is left as it is. -/
def argument : Tree → Tree
  | .call _ [t] => t
  | t => t

/-- A tree, or a part of it, or a part of a part. -/
inductive Within : Tree → Tree → Prop where
  | whole {t} :
    Within t t
  | part {t u v} :
    u ∈ v.parts →
    Within t u →
    Within t v

/-- A tree that is not null: neither `NULL` nor the mark of a value that is null to the database. -/
def NotNull (d : Dialect) (bound : List Value) : Tree → Prop
  | .null => False
  | .mark text => (∃ i < bound.length, d.placeholder i = text) ∧
      ∀ i v, d.placeholder i = text → bound[i]? = some v → v.isNullLike d.emptyStringIsNull = false
  | _ => True

/-- An operand that is not null, also before its case is folded. -/
def Comparable (d : Dialect) (bound : List Value) (t : Tree) : Prop :=
  t.NotNull d bound ∧ t.argument.NotNull d bound

/-- A tree with no operand that is null, wherever in it the operand is. -/
def TestsValues (d : Dialect) (bound : List Value) (t : Tree) : Prop :=
  ∀ u, Within u t → ∀ x ∈ u.operands, x.Comparable d bound

/-- A tree that may be an operand: it is not null, and tests values only. -/
def Operand (d : Dialect) (bound : List Value) (t : Tree) : Prop :=
  t.Comparable d bound ∧ t.TestsValues d bound

variable {d : Dialect} {bound : List Value} {t u v : Tree}

/-- A tree tests values if it has such operands itself, and its parts do. -/
lemma TestsValues.of_parts (operands : ∀ x ∈ t.operands, x.Comparable d bound)
    (parts : ∀ u ∈ t.parts, u.TestsValues d bound) : t.TestsValues d bound := by
  intro u hu
  cases hu with
  | whole => exact operands
  | part hp hu => exact parts _ hp u hu

/-- A test of two operands, wherever its tree has them. -/
lemma TestsValues.of_pair (operands : v.operands = [t, u]) (parts : v.parts = [t, u])
    (ht : t.Operand d bound) (hu : u.Operand d bound) : v.TestsValues d bound := by
  apply of_parts
  · rw [operands]
    exact forall_mem_pair ht.1 hu.1
  · rw [parts]
    exact forall_mem_pair ht.2 hu.2

/-- A tree without parts is an operand if it is not null. -/
lemma Operand.of_leaf (argument : t.argument = t) (parts : t.parts = [])
    (operands : t.operands = []) (h : t.NotNull d bound) : t.Operand d bound := by
  refine ⟨⟨h, argument.symm ▸ h⟩, .of_parts ?_ ?_⟩
  · rw [operands]
    exact nofun
  · rw [parts]
    exact nofun

/-- The mark of a value that is not null, where no null is bound. -/
lemma NotNull.mark (present : ∀ v ∈ bound, v ≠ .null) {i : Nat} {v : Value}
    (hi : bound[i]? = some v) (hv : v.isNullLike d.emptyStringIsNull = false) :
    NotNull d bound (.mark (d.placeholder i)) := by
  refine ⟨⟨i, (List.getElem?_eq_some_iff.1 hi).1, rfl⟩, fun j w same hj => ?_⟩
  by_cases one : d = .mySql
  -- All parameters have one mark here, so that the value may be any that is bound.
  · subst one
    have other := present w (List.mem_of_getElem? hj)
    cases w with
    | null => exact absurd rfl other
    | _ => rfl
  · rw [Dialect.placeholder_injective one same, hi] at hj
    cases hj
    exact hv

end Sql.Tree

namespace Filter

open Evaluation (EvaluatorCache value)
open Sql (Tree)
open Sql.Tree

variable {σ : Type} {s : Setting σ} {sp : Spelling} {bound : List Value} {e : Expr} {t : Tree}

lemma operand_foldedTree (h : t.Operand sp.dialect bound) (fold : Bool) :
    (foldedTree fold t).Operand sp.dialect bound := by
  cases fold with
  | false => exact h
  | true => exact ⟨⟨trivial, h.1.1⟩, .of_parts nofun (List.forall_mem_singleton.2 h.2)⟩

/-- Nothing is tested within a term. -/
lemma TermReads.testsValues (h : TermReads s sp bound e t) : t.TestsValues sp.dialect bound := by
  induction h with
  | null | value | property => exact .of_parts nofun nofun
  | convert _ _ _ ih => exact ih
  | negate _ _ ih => exact .of_parts nofun (List.forall_mem_singleton.2 ih)
  | function _ _ _ ih => exact .of_parts nofun (List.forall_mem_singleton.2 ih)
  | arithmetic _ _ _ _ ihl ihr | coalesce _ _ _ ihl ihr =>
    exact .of_parts nofun (forall_mem_pair ihl ihr)

/-- A term that reads the entity is not null in itself. -/
lemma TermReads.comparable (h : TermReads s sp bound e t) (reads : e.dependsOnParameter = true) :
    t.Comparable sp.dialect bound := by
  induction h with
  | null captured | value captured => exact absurd (captured.symm.trans reads) Bool.false_ne_true
  | property | negate | arithmetic | coalesce => exact ⟨trivial, trivial⟩
  | convert _ reads _ ih => exact ih reads
  | function reads _ _ ih =>
    refine ⟨trivial, (ih ?_).1⟩
    simpa [Expr.dependsOnParameter, Expr.anyDependsOnParameter] using reads

lemma TermReads.operand (h : TermReads s sp bound e t) (reads : e.dependsOnParameter = true) :
    t.Operand sp.dialect bound :=
  ⟨h.comparable reads, h.testsValues⟩

/-- A text that is not null, or that is not empty, is not null to the database. -/
lemma isNullLike_of_ne_empty {es : Bool} {text : String} (h : text ≠ "") :
    (Value.string text).isNullLike es = false := by
  rw [Value.isNullLike, Bool.and_eq_false_iff, String.isEmpty_eq_false_iff]
  exact .inr h

/-- Folding its case does not make a value null. -/
lemma isNullLike_folded {es : Bool} {v : Value} (h : v.isNullLike es = false) (fold : Bool) :
    (if fold then foldedValue v else v).isNullLike es = false := by
  cases fold with
  | false => exact h
  | true =>
    cases v with
    | string text =>
      rw [Value.isNullLike, Bool.and_eq_false_iff, String.isEmpty_eq_false_iff] at h
      rcases h with rfl | some
      · rfl
      · exact isNullLike_of_ne_empty (Text.lowercase_ne_empty some)
    | _ => exact h

lemma testsValues_truth (b : Bool) : (Tree.truth b).TestsValues sp.dialect bound :=
  .of_pair rfl rfl (.of_leaf rfl rfl rfl trivial) (.of_leaf rfl rfl rfl trivial)

lemma testsValues_flag (column : String) (expected : Bool) :
    (sp.flag column expected).TestsValues sp.dialect bound :=
  .of_pair rfl rfl (.of_leaf rfl rfl rfl trivial) (.of_leaf rfl rfl rfl trivial)

/-- The side that is not captured reads the entity. -/
lemma Sides.reads {l r captured : Expr} {left : Bool} (sides : Sides l r e captured left) :
    e.dependsOnParameter = true := by
  cases sides with
  | right reads _ => exact reads
  | left _ reads => exact reads

section
variable (same : s.emptyStringIsNull = sp.dialect.emptyStringIsNull)
variable (present : ∀ v ∈ bound, v ≠ .null)
include same present

lemma operand_mark {i : Nat} {v : Value} (hi : bound[i]? = some v)
    (hv : v.isNullLike s.emptyStringIsNull = false) :
    (Tree.mark (sp.dialect.placeholder i)).Operand sp.dialect bound := by
  rw [same] at hv
  exact .of_leaf rfl rfl rfl (.mark present hi hv)

/-- A test whether a term is among the values of parameters. -/
lemma testsValues_among {items : List Nat} {vs : List Value} (ht : TermReads s sp bound e t)
    (reads : e.dependsOnParameter = true) (hi : items.map (bound[·]?) = vs.map some)
    (hv : ∀ v ∈ vs, v.isNullLike s.emptyStringIsNull = false) :
    (Tree.among t (sp.marks items)).TestsValues sp.dialect bound := by
  have marks : ∀ x ∈ sp.marks items, x.Operand sp.dialect bound := by
    intro x hx
    obtain ⟨i, mem, rfl⟩ := List.mem_map.1 hx
    obtain ⟨v, hv', eq⟩ := List.mem_map.1 (hi ▸ List.mem_map_of_mem mem)
    exact operand_mark same present eq.symm (hv v hv')
  have all := List.forall_mem_cons.2 ⟨ht.operand reads, marks⟩
  exact .of_parts (fun x hx => (all x hx).1) fun x hx => (all x hx).2

lemma MembershipReads.testsValues {collection : Expr}
    (h : MembershipReads s sp bound collection e t) (reads : e.dependsOnParameter = true) :
    t.TestsValues sp.dialect bound := by
  cases h with
  | never => exact testsValues_truth false
  | isNull _ _ _ ht => exact .of_parts nofun (List.forall_mem_singleton.2 ht.testsValues)
  | among _ none ht hi =>
    exact testsValues_among same present ht reads hi (by simpa using none)
  | amongOrNull _ _ ht hi hu =>
    have among := testsValues_among same present ht reads hi (by simp)
    have isNull := TestsValues.of_parts (t := .isNull _ false) nofun
      (List.forall_mem_singleton.2 hu.testsValues)
    exact .of_parts nofun (forall_mem_pair among isNull)

/-- Whatever a condition tests is not null. -/
lemma ConditionReads.testsValues (h : ConditionReads s sp bound e t) :
    t.TestsValues sp.dialect bound := by
  induction h with
  | truth => exact testsValues_truth _
  | null => exact testsValues_truth false
  | never => exact testsValues_truth false
  | property | notProperty | flag => exact testsValues_flag _ _
  | not _ _ _ ih => exact .of_parts nofun (List.forall_mem_singleton.2 ih)
  | fails _ _ _ _ _ _ ih => exact .of_parts nofun (List.forall_mem_singleton.2 ih)
  | holds _ _ _ _ _ _ ih => exact ih
  | connect _ _ _ _ ihl ihr => exact .of_parts nofun (forall_mem_pair ihl ihr)
  | compare _ readsl readsr hl hr =>
    exact .of_pair rfl rfl (hl.operand readsl) (hr.operand readsr)
  | isNull _ _ _ ht | isNotNull _ _ _ ht =>
    exact .of_parts nofun (List.forall_mem_singleton.2 ht.testsValues)
  | @value l r e captured left v i t op sides _ null _ _ hi ht =>
    have mark := operand_mark same present hi (isNullLike_folded null (folds s op v))
    have folded := operand_foldedTree mark (folds s op v)
    have term := operand_foldedTree (ht.operand sides.reads) (folds s op v)
    split
    · exact .of_pair rfl rfl folded term
    · exact .of_pair rfl rfl term folded
  | contained _ reads hm => exact hm.testsValues same present reads
  | contains reads _ hm => exact hm.testsValues same present reads
  | containedIn _ reads hm => exact hm.testsValues same present reads
  | @like e method arg text i t _ reads _ _ hi ht =>
    have nonempty := Pattern.ofMethod_ne_empty method text
    have some : (if s.ignoreCase then Text.lowercase (Pattern.ofMethod method text)
        else Pattern.ofMethod method text) ≠ "" := by
      split
      · exact Text.lowercase_ne_empty nonempty
      · exact nonempty
    have mark := operand_mark same present hi (isNullLike_of_ne_empty some)
    exact .of_pair rfl rfl (operand_foldedTree (ht.operand reads) s.ignoreCase)
      (operand_foldedTree mark s.ignoreCase)

end

/-- A comparison with a captured side is compiled as such. -/
lemma condition_of_sides {op : Comparison} {l r captured : Expr} {left : Bool}
    (sides : Sides l r e captured left) :
    condition s (.binary (.comparison op) l r) =
      capturedComparison s op e (term s e) (condition s e) captured left := by
  cases sides with
  | right reads other | left other reads =>
    rw [condition]
    simp [Expr.dependsOnParameter, Expr.property?, reads, other]

/-- A term has one outcome, whatever the evaluators were asked before. -/
lemma run_term_eq {good : σ → Prop} (hs : s.Faithful good) (e : Expr) {p q : Progress σ}
    (hp : good p.evaluators) (hq : good q.evaluators) (bound : p.bound = q.bound) :
    ((term s e).run.run p).1 = ((term s e).run.run q).1 ∧
      ((term s e).run.run p).2.bound = ((term s e).run.run q).2.bound := by
  have agree : Agree True good good (term s e) (term s e) :=
    agree_term ⟨hs, hs, rfl, rfl⟩ (Expr.Resembles.refl (Captured.refl rfl) e)
  exact agree.run_eq hp hq bound

/--
A comparison for equality with a captured value that is null to the database is a test for null of
what the other side is as a term, and binds what that term binds.
-/
lemma run_condition_of_null {good : σ → Prop} (hs : s.Faithful good) {op : Comparison}
    (equality : op = .eq ∨ op = .ne) {l r captured : Expr} {left : Bool} {v : Value}
    (sides : Sides l r e captured left) (hv : value captured = .ok v)
    (null : v.isNullLike s.emptyStringIsNull = true) {p : Progress σ} (hp : good p.evaluators) :
    let whole := (condition s (.binary (.comparison op) l r)).run.run p
    let operand := (term s e).run.run p
    whole.1 = operand.1.map (Condition.isNull · (decide (op = .ne))) ∧
      whole.2.bound = operand.2.bound := by
  obtain ⟨q, hq, bound, run⟩ := hs.run_evaluate captured hp
  obtain ⟨result, after⟩ := run_term_eq hs e hq hp bound
  intro whole operand
  simp only [whole, operand, ← result, ← after, condition_of_sides sides]
  rw [capturedComparison, run_bind, run, hv]
  simp only [null, if_true]
  rw [run_bind]
  rcases (term s e).run.run q with ⟨f | t, q'⟩
  · exact ⟨rfl, rfl⟩
  · obtain rfl | rfl := equality <;> exact ⟨rfl, rfl⟩

end Filter

open Evaluation (EvaluatorCache value)
open RelMap.Filter (Sides)
open Sql (ReadsAs)

/--
Null is tested with `IS` only. In a clause, and in whatever its text reads as, no comparison, no
pattern and no list has an operand that is `NULL` or the mark of a value that is null to the
database. Where something that reads the entity is compared for equality with such a value, on
either side and wherever in the filter, the condition is a test of it with `IS`, for which nothing
else is bound.
-/
theorem FilterTarget.null_tested_with_is (t : FilterTarget) {hash : Expr → UInt64}
    {cache : EvaluatorCache} (reachable : cache.Reachable hash) :
    let s := t.setting (EvaluatorCache.evaluate hash)
    let sp : Spelling := ⟨t.dialect, t.tableAlias⟩
    (∀ body c, (t.clause hash cache body).1 = .ok c →
      c.sql = sp.condition c.condition ∧
        (c.condition.tree sp).TestsValues t.dialect c.parameters.values ∧
        (Sql.Leads t.dialect (t.tableAlias ++ ".") [.word t.tableAlias, .dot] .outside →
          (∃ tree, ReadsAs t.dialect c.sql tree) ∧ ∀ tree, ReadsAs t.dialect c.sql tree →
            tree.TestsValues t.dialect c.parameters.values)) ∧
    ∀ op ∈ [Comparison.eq, .ne], ∀ l r e captured left v, Sides l r e captured left →
      value captured = .ok v → v.isNullLike t.dialect.emptyStringIsNull = true →
      ∀ bound : List Value,
        let whole := (Filter.condition s (.binary (.comparison op) l r)).run.run ⟨cache, bound⟩
        let operand := (Filter.term s e).run.run ⟨cache, bound⟩
        whole.2.bound = operand.2.bound ∧
          whole.1.map sp.condition = operand.1.map fun u =>
            sp.term u ++ if op = .eq then " IS NULL" else " IS NOT NULL" := by
  intro s sp
  constructor
  · intro body c hc
    obtain ⟨_, fits⟩ := FilterTarget.clause_yields reachable.sound
      (@Filter.yields_condition_fit _ s _ 0 (t.faithful hash) body)
    obtain ⟨_, result⟩ := FilterTarget.clause_yields reachable.sound
      (@Filter.yields_condition_reads _ _ 0 s sp (t.faithful hash) body)
    obtain ⟨spelled, _, placed⟩ := result c hc
    obtain ⟨_, _, fit⟩ := fits c hc
    obtain ⟨proper, reads⟩ := placed c.parameters.values ⟨[], [], rfl, by simp⟩
    have tests := reads.testsValues rfl fun v hv => (fit v hv).ne_null
    have text : c.sql = sp.condition c.condition := by rw [Clause.sql, spelled]
    refine ⟨text, tests, fun ha => ?_⟩
    rw [text]
    have only {tree} := @Spelling.readsAs_condition_iff sp ha c.condition proper tree
    exact ⟨⟨_, only.2 rfl⟩, fun tree h => only.1 h ▸ tests⟩
  · intro op hop l r e captured left v sides hv null bound whole operand
    have equality : op = .eq ∨ op = .ne := by simpa using hop
    obtain ⟨result, same⟩ :
        whole.1 = operand.1.map (Condition.isNull · (decide (op = .ne))) ∧
          whole.2.bound = operand.2.bound :=
      Filter.run_condition_of_null (t.faithful hash) equality sides hv null reachable.sound
    refine ⟨same, ?_⟩
    have text (u : Term) : sp.condition (.isNull u (decide (op = .ne))) =
        sp.term u ++ if op = .eq then " IS NULL" else " IS NOT NULL" := by
      obtain rfl | rfl := equality <;> rfl
    rw [result]
    cases operand.1 with
    | ok u => exact congrArg Except.ok (text u)
    | error f => rfl

/-- In Oracle, a search for the empty text is a test for null. -/
theorem null_tested_with_is_empty :
    let t : FilterTarget :=
      { mapping := sampleMapping, dialect := .oracle, ignoreCase := some true }
    let s := t.setting (EvaluatorCache.evaluate Expr.shapeHash)
    let a : Expr := .member (.parameter "x") "A"
    let isEmpty : Expr := .binary (.comparison .eq) (.constant (.string "")) a
    let body : Expr := .binary (.connective .or) isEmpty
      (.binary (.comparison .eq) a (.constant (.string "B")))
    ∃ c, (t.clause Expr.shapeHash (.empty 1) body).1 = .ok c ∧
      c.sql = "(a.\"A\" IS NULL) OR (LOWER(a.\"A\") = LOWER(:p0))" ∧
      c.parameters.values = [.string "b"] ∧
      (∃ tree, ReadsAs .oracle c.sql tree) ∧
      (∀ tree, ReadsAs .oracle c.sql tree → tree.TestsValues .oracle [.string "b"]) ∧
      ((Filter.condition s isEmpty).run.run ⟨.empty 1, [.null]⟩).2.bound =
        ((Filter.term s a).run.run ⟨.empty 1, [.null]⟩).2.bound := by
  intro t s a isEmpty body
  obtain ⟨clauses, comparisons⟩ :=
    @FilterTarget.null_tested_with_is t Expr.shapeHash _ (.empty 1)
  obtain ⟨-, -, reads⟩ := clauses body _ rfl
  obtain ⟨some, all⟩ := reads (leads_rootAlias .oracle)
  have sides : Sides (.constant (.string "")) a a (.constant (.string "")) true := .left rfl rfl
  exact ⟨_, rfl, by decide +kernel, rfl, some, all,
    (comparisons .eq (by decide) _ _ _ _ _ _ sides rfl rfl [.null]).1⟩

end RelMap
