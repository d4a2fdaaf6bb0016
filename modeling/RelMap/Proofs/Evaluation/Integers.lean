import RelMap.Proofs.Evaluation.Values
import RelMap.Proofs.Evaluation.Widths

/-!
# Calculations with captured integers

What an expression of integers comes to over the unbounded integers, and at which of its nodes it
cannot be calculated within a width. The evaluation finds the number of the expression, or there is
such a node.
-/

namespace RelMap.Evaluation

/-- An expression that calculates with integers. -/
inductive IntegerTree where
  | constant (w : Width) (v : Value) (isInteger : v.kind = w.kind)
  /-- A field that a captured object has. -/
  | field (w : Width) (c : Closure) (name : String) (v : Value) (present : c.field? name = some v)
    (isInteger : v.kind = w.kind)
  | arithmetic (op : Arithmetic) (l r : IntegerTree)
  | negate (t : IntegerTree)
  | convert (w : Width) (t : IntegerTree)

namespace IntegerTree

/-- The expression. -/
def expr : IntegerTree → Expr
  | constant _ v _ => .constant v
  | field _ c name _ _ _ => .member (.closure c) name
  | arithmetic op l r => .binary (.arithmetic op) l.expr r.expr
  | negate t => .negate t.expr
  | convert w t => .convert w.kind t.expr

/-- The width of what the expression comes to. -/
def width : IntegerTree → Width
  | constant w _ _ => w
  | field w _ _ _ _ _ => w
  | arithmetic _ l r => l.width.join r.width
  | negate t => t.width
  | convert w _ => w

/-- The number of the expression over the unbounded integers, unless a divisor in it is zero. -/
def exact : IntegerTree → Option Int
  | constant _ v _ => integer? v
  | field _ _ _ v _ _ => integer? v
  | arithmetic op l r => do
    let i ← l.exact
    let j ← r.exact
    op.exact i j
  | negate t => t.exact.map fun i => -i
  | convert _ t => t.exact

/-- The nodes of the expression, itself first. -/
def nodes (t : IntegerTree) : List IntegerTree :=
  t ::
    match t with
    | constant .. | field .. => []
    | arithmetic _ l r => l.nodes ++ r.nodes
    | negate t | convert _ t => t.nodes

/-- A node that cannot be calculated within its width. -/
inductive Faulty : IntegerTree → Prop where
  | divisor {op l r} :
    op = .div ∨ op = .mod →
    r.exact = some 0 →
    Faulty (arithmetic op l r)
  | range {t i} :
    t.exact = some i →
    ¬t.width.Holds i →
    Faulty t
  | quotient {l r i j} :
    l.exact = some i →
    r.exact = some j →
    ¬(l.width.join r.width).Holds (i.tdiv j) →
    Faulty (arithmetic .mod l r)

/-- What an expression comes to: its number, or a fault of one of its nodes. -/
inductive Outcome (t : IntegerTree) : Prop where
  | number {i} :
    (∀ s ∈ t.nodes, ¬s.Faulty) →
    t.exact = some i →
    t.width.Holds i →
    strict t.expr = .ok (t.width.value i) →
    Outcome t
  | fault {s f} :
    s ∈ t.nodes →
    s.Faulty →
    strict t.expr = .error f →
    Outcome t

variable {s t l r : IntegerTree} {i j : Int}

lemma closed_expr (t : IntegerTree) : Closed t.expr := by
  induction t with
  | constant | field => exact ⟨rfl, rfl⟩
  | arithmetic op l r ihl ihr =>
    exact ⟨Bool.or_eq_false_iff.2 ⟨ihl.1, ihr.1⟩, Bool.or_eq_false_iff.2 ⟨ihl.2, ihr.2⟩⟩
  | negate t ih | convert w t ih => exact ih

/-- A node of two integers can be calculated exactly if its operation gives a number. -/
lemma faulty_arithmetic (op : Arithmetic) (hl : l.exact = some i) (hr : r.exact = some j)
    (h : l.width.Holds i) :
    (arithmetic op l r).Faulty ↔
      ∀ n, integerArithmetic (l.width.join r.width).fits op i j ≠ .ok n := by
  have whole : (arithmetic op l r).exact = op.exact i j := by rw [exact, hl, hr]; rfl
  simp only [ne_eq, Width.integerArithmetic_eq_ok h.join_left, not_and, Classical.not_imp]
  constructor
  · intro faulty n hn fits
    cases faulty with
    | divisor division zero =>
      cases hr.symm.trans zero
      rcases division with rfl | rfl <;> cases hn
    | range whole' bad =>
      cases (whole.symm.trans whole').symm.trans hn
      exact absurd fits bad
    | quotient hl' hr' bad =>
      cases hl.symm.trans hl'
      cases hr.symm.trans hr'
      exact ⟨rfl, bad⟩
  · intro fails
    cases hn : op.exact i j with
    | none =>
      -- Only a division has no exact result, and only by zero.
      have zero : (op = .div ∨ op = .mod) ∧ j = 0 := by cases op <;> grind [Arithmetic.exact]
      exact .divisor zero.1 (zero.2 ▸ hr)
    | some n =>
      by_cases fits : (l.width.join r.width).Holds n
      · obtain ⟨rfl, bad⟩ := fails n hn fits
        exact .quotient hl hr bad
      · exact .range (whole.trans hn) fits

/-- Any other node can be calculated exactly if its width holds the number. -/
lemma faulty_of_ne (other : ∀ op l r, t ≠ arithmetic op l r) (ht : t.exact = some i) :
    t.Faulty ↔ ¬t.width.Holds i := by
  refine ⟨fun faulty => ?_, .range ht⟩
  cases faulty with
  | divisor | quotient => exact absurd rfl (other _ _ _)
  | range ht' bad =>
    cases ht.symm.trans ht'
    exact bad

lemma Outcome.leaf {v : Value} (alone : t.nodes = [t]) (other : ∀ op l r, t ≠ arithmetic op l r)
    (ht : t.exact = integer? v) (isInteger : v.kind = t.width.kind)
    (value : strict t.expr = .ok v) : t.Outcome := by
  obtain ⟨i, number, holds, rfl⟩ := Width.exists_of_kind isInteger
  refine .number ?_ (ht.trans number) holds value
  rw [alone, List.forall_mem_singleton, faulty_of_ne other (ht.trans number)]
  exact not_not_intro holds

/-- An operation fails where one of its operands does, or on the numbers of the two. -/
lemma Outcome.arithmetic (op : Arithmetic) (hl : l.Outcome) (hr : r.Outcome) :
    (arithmetic op l r).Outcome := by
  have run : strict (IntegerTree.arithmetic op l r).expr =
    strict l.expr >>= fun a => strict r.expr >>= fun b => Evaluation.arithmetic op a b := rfl
  cases hl with
  | fault hs faulty fails =>
    refine .fault ?_ faulty (by rw [run, fails]; rfl)
    exact List.mem_cons_of_mem _ (List.mem_append_left _ hs)
  | @number i fineL hl holdsL valueL =>
    cases hr with
    | fault hs faulty fails =>
      refine .fault ?_ faulty (by rw [run, valueL, fails]; rfl)
      exact List.mem_cons_of_mem _ (List.mem_append_right _ hs)
    | @number j fineR hr holdsR valueR =>
      -- Both operands have numbers: the node is faulty just if the operation on them fails.
      have node := faulty_arithmetic op hl hr holdsL
      simp only [valueL, valueR, ok_bind, Width.arithmetic_value op holdsL holdsR] at run
      cases result : integerArithmetic (l.width.join r.width).fits op i j with
      | error fault =>
        rw [result] at node run
        exact .fault (List.mem_cons_self ..) (node.2 nofun) run
      | ok n =>
        rw [result] at node run
        obtain ⟨number, holds, -⟩ := (Width.integerArithmetic_eq_ok holdsL.join_left).1 result
        refine .number ?_ (by rw [exact, hl, hr]; exact number) holds run
        rw [nodes, List.forall_mem_cons, List.forall_mem_append]
        exact ⟨fun faulty => node.1 faulty n rfl, fineL, fineR⟩

/-- An operator with one operand fails where it does, or where its width is too narrow. -/
lemma Outcome.unary {f : Value → Except EvaluationFault Value} {g : Int → Int}
    {fault : EvaluationFault} (other : ∀ op l r, s ≠ IntegerTree.arithmetic op l r)
    (parts : s.nodes = s :: t.nodes) (number : s.exact = t.exact.map g)
    (run : strict s.expr = strict t.expr >>= f)
    (result : ∀ i, t.width.Holds i → f (t.width.value i) =
      if s.width.fits (g i) then .ok (s.width.value (g i)) else .error fault)
    (ht : t.Outcome) : s.Outcome := by
  cases ht with
  | fault hs faulty fails =>
    refine .fault ?_ faulty (by rw [run, fails]; rfl)
    exact parts ▸ List.mem_cons_of_mem _ hs
  | @number i fine ht holds value =>
    rw [ht] at number
    rw [value, ok_bind, result i holds] at run
    split at run
    case isTrue fits =>
      have holds' := Width.fits_iff.1 fits
      refine .number ?_ number holds' run
      rw [parts, List.forall_mem_cons, faulty_of_ne other number]
      exact ⟨not_not_intro holds', fine⟩
    case isFalse bad =>
      refine .fault (parts ▸ List.mem_cons_self ..) ?_ run
      exact .range number fun holds' => bad (Width.fits_of_holds holds')

/-- An expression finds its number, or one of its nodes cannot be calculated. -/
lemma outcome (t : IntegerTree) : t.Outcome := by
  induction t with
  | constant w v isInteger => exact .leaf rfl nofun rfl isInteger rfl
  | field w c name v present isInteger =>
    exact .leaf rfl nofun rfl isInteger (by rw [expr, strict, Slot.member, present])
  | arithmetic op l r ihl ihr => exact ihl.arithmetic op ihr
  | negate t ih => exact .unary nofun rfl rfl rfl (fun _ h => Width.negate_value h) ih
  | convert w t ih =>
    exact .unary nofun rfl Option.map_id'.symm rfl (fun _ h => Width.convert_value h) ih

end IntegerTree

/--
A calculation with captured integers is exact or fails. What an expression evaluates to is the
number that it comes to over the unbounded integers, in the range of the width that it has; and it
fails just if one of its nodes has a divisor that is zero, or a number or the quotient of a
remainder that the width of the node does not hold.
-/
theorem EvaluatorCache.evaluate_integers {hash : Expr → UInt64} {c : EvaluatorCache}
    (reachable : c.Reachable hash) (t : IntegerTree) :
    (∀ v, (c.evaluate hash t.expr).1 = .ok v →
      v.kind = t.width.kind ∧ ∃ i, integer? v = some i ∧ t.exact = some i ∧ t.width.Holds i) ∧
    ((∃ fault, (c.evaluate hash t.expr).1 = .error fault) ↔ ∃ s ∈ t.nodes, s.Faulty) := by
  rw [(reachable.sound.evaluate t.expr).1]
  cases t.outcome with
  | @number i fine number holds run =>
    have result := value_eq_ok.2 ⟨t.closed_expr, run⟩
    rw [result]
    refine ⟨fun v hv => ?_, ⟨nofun, fun ⟨s, hs, faulty⟩ => absurd faulty (fine s hs)⟩⟩
    cases hv
    exact ⟨Width.kind_value, i, Width.integer?_value holds, number, holds⟩
  | @fault s fault hs faulty run =>
    cases result : value t.expr with
    | ok v => exact nomatch run.symm.trans (value_eq_ok.1 result).2
    | error f => exact ⟨nofun, ⟨fun _ => ⟨s, hs, faulty⟩, fun _ => ⟨f, rfl⟩⟩⟩

/-- The least narrow integer has a remainder by minus one just if that is a wide one. -/
theorem EvaluatorCache.evaluate_integers_remainder :
    let c := EvaluatorCache.empty 4
    let least : IntegerTree := .field .narrow ⟨"Scope", [("least", .int32 Int32.minValue)]⟩ "least"
      (.int32 Int32.minValue) rfl rfl
    let narrow : IntegerTree := .arithmetic .mod least (.constant .narrow (.int32 (-1)) rfl)
    let wide : IntegerTree := .arithmetic .mod least (.constant .wide (.int64 (-1)) rfl)
    (∃ fault, (c.evaluate Expr.shapeHash narrow.expr).1 = .error fault) ∧
      ∃ v, (c.evaluate Expr.shapeHash wide.expr).1 = .ok v ∧ v.kind = .int64 := by
  intro c least narrow wide
  have reachable : c.Reachable Expr.shapeHash := .empty 4
  have run : (c.evaluate Expr.shapeHash wide.expr).1 = .ok (.int64 0) := rfl
  refine ⟨?_, .int64 0, run, ?_⟩
  · refine (EvaluatorCache.evaluate_integers reachable narrow).2.2 ⟨narrow, .head _, ?_⟩
    exact .quotient rfl rfl (by decide)
  · exact ((EvaluatorCache.evaluate_integers reachable wide).1 _ run).1

end RelMap.Evaluation
