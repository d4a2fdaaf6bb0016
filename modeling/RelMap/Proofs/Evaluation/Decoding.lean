import RelMap.Proofs.Evaluation.Program

/-!
# Programs determine their expressions

A program is read from left to right like one that is run, but with expressions on the stack in the
place of values. It comes to the expression that it was compiled from, with one mark for every
constant and one for every captured object. So two expressions have one program exactly when they
are the same up to their leaves.
-/

namespace RelMap.Evaluation

open RelMap.Expr (marked markedAll)

/-- The last so many expressions, in the order in which they were built, and those before them. -/
def operands (n : Nat) (built : List Expr) : Option (List Expr × List Expr) :=
  if n ≤ built.length then some ((built.take n).reverse, built.drop n) else none

/-- What a step makes of the expressions built so far, last first, with marks for the leaves. -/
def rebuild (v : Value) (c : Closure) : Instruction → List Expr → Option (List Expr)
  | .literal, built => some (.constant v :: built)
  | .capture, built => some (.closure c :: built)
  | .member name, target :: built => some (.member target name :: built)
  | .binary op, right :: left :: built => some (.binary op left right :: built)
  | .not, operand :: built => some (.not operand :: built)
  | .negate, operand :: built => some (.negate operand :: built)
  | .convert target, operand :: built => some (.convert target operand :: built)
  | .call method arity, built => do
    let (args, before) ← operands arity built
    return .call method args :: before
  | .invoke method arity, built => do
    let (args, before) ← operands arity built
    match before with
    | [] => none
    | target :: before => return .invoke target method args :: before
  | .list length, built => do
    let (items, before) ← operands length built
    return .list items :: before
  | _, _ => none

/-- What several steps make of the expressions built so far. -/
def rebuildAll (v : Value) (c : Closure) : List Instruction → List Expr → Option (List Expr)
  | [], built => some built
  | i :: is, built => do
    let next ← rebuild v c i built
    rebuildAll v c is next

/-- The expression that a program was compiled from, with marks for its leaves. -/
def Program.expr? (v : Value) (c : Closure) (p : Program) : Option Expr :=
  match rebuildAll v c p.instructions [] with
  | some [e] => some e
  | _ => none

variable {v : Value} {c : Closure}

lemma rebuildAll_cons (i : Instruction) (is : List Instruction) (built : List Expr) :
    rebuildAll v c (i :: is) built = rebuild v c i built >>= rebuildAll v c is := rfl

/-- Expressions that were built one after the other are found in their order. -/
lemma operands_reverse (es built : List Expr) :
    operands es.length (es.reverse ++ built) = some (es, built) := by
  have enough : es.length ≤ (es.reverse ++ built).length := by
    rw [List.length_append, List.length_reverse]
    exact Nat.le_add_right ..
  rw [operands, if_pos enough, List.take_left' List.length_reverse,
    List.drop_left' List.length_reverse, List.reverse_reverse]

mutual

/-- The program of an expression builds it again, whatever follows and whatever was built. -/
theorem rebuildAll_ofExpr {e : Expr} {p : Program} (h : Program.ofExpr e = .ok p)
    (k : List Instruction) (built : List Expr) :
    rebuildAll v c (p.instructions ++ k) built = rebuildAll v c k (e.marked v c :: built) := by
  cases e <;> simp only [Program.ofExpr, bind_eq_ok, pure_eq_ok, Except.ok.injEq, reduceCtorEq] at h
  case constant => subst h; rfl
  case closure => subst h; rfl
  case member a m =>
    obtain ⟨t, ht, rfl⟩ := h
    rw [Program.instructions_append, List.append_assoc, rebuildAll_ofExpr ht]
    rfl
  case binary o a b =>
    obtain ⟨l, hl, r, hr, rfl⟩ := h
    rw [Program.instructions_append, Program.instructions_append, List.append_assoc,
      List.append_assoc, rebuildAll_ofExpr hl, rebuildAll_ofExpr hr]
    rfl
  case not a =>
    obtain ⟨o, ho, rfl⟩ := h
    rw [Program.instructions_append, List.append_assoc, rebuildAll_ofExpr ho]
    rfl
  case negate a =>
    obtain ⟨o, ho, rfl⟩ := h
    rw [Program.instructions_append, List.append_assoc, rebuildAll_ofExpr ho]
    rfl
  case convert t a =>
    obtain ⟨o, ho, rfl⟩ := h
    rw [Program.instructions_append, List.append_assoc, rebuildAll_ofExpr ho]
    rfl
  case call m as =>
    obtain ⟨_, _, a, ha, rfl⟩ := h
    rw [Program.instructions_append, List.append_assoc, rebuildAll_ofAll ha,
      Program.instructions_one, List.singleton_append, rebuildAll_cons, rebuild,
      ← Expr.length_markedAll v c as, operands_reverse]
    rfl
  case invoke a m as =>
    obtain ⟨_, _, t, ht, i, hi, rfl⟩ := h
    rw [Program.instructions_append, Program.instructions_append, List.append_assoc,
      List.append_assoc, rebuildAll_ofExpr ht, rebuildAll_ofAll hi, Program.instructions_one,
      List.singleton_append, rebuildAll_cons, rebuild, ← Expr.length_markedAll v c as,
      operands_reverse]
    rfl
  case list as =>
    obtain ⟨i, hi, rfl⟩ := h
    rw [Program.instructions_append, List.append_assoc, rebuildAll_ofAll hi,
      Program.instructions_one, List.singleton_append, rebuildAll_cons, rebuild,
      ← Expr.length_markedAll v c as, operands_reverse]
    rfl

/-- The programs of several expressions build them again, one after the other. -/
theorem rebuildAll_ofAll {es : List Expr} {p : Program} (h : Program.ofAll es = .ok p)
    (k : List Instruction) (built : List Expr) :
    rebuildAll v c (p.instructions ++ k) built =
      rebuildAll v c k ((markedAll v c es).reverse ++ built) := by
  cases es with
  | nil => cases h; rfl
  | cons e es =>
    simp only [Program.ofAll, bind_eq_ok, pure_eq_ok, Except.ok.injEq] at h
    obtain ⟨first, hfirst, rest, hrest, rfl⟩ := h
    rw [Program.instructions_append, List.append_assoc, rebuildAll_ofExpr hfirst,
      rebuildAll_ofAll hrest, markedAll, List.reverse_cons, List.append_assoc,
      List.singleton_append]

end

/-- The program of an expression is read back as this expression with marks for its leaves. -/
lemma expr?_of_ofExpr {e : Expr} {p : Program} (h : Program.ofExpr e = .ok p) :
    p.expr? v c = some (e.marked v c) := by
  have built := @rebuildAll_ofExpr v c _ _ h [] []
  rw [List.append_nil] at built
  rw [Program.expr?, built]
  rfl

/--
Two expressions that have programs have the same program exactly when they are equal with one mark
for every constant and one for every captured object, and each is read back from its program with
these marks.
-/
theorem Program.ofExpr_determines {a b : Expr} {p q : Program} (ha : Program.ofExpr a = .ok p)
    (hb : Program.ofExpr b = .ok q) (v : Value) (c : Closure) :
    (p = q ↔ a.marked v c = b.marked v c) ∧ p.expr? v c = some (a.marked v c) := by
  refine ⟨⟨?_, fun same => ?_⟩, expr?_of_ofExpr ha⟩
  · rintro rfl
    exact Option.some.inj ((expr?_of_ofExpr ha).symm.trans (expr?_of_ofExpr hb))
  · rw [← ofExpr_marked v c, same, ofExpr_marked, hb] at ha
    exact (Except.ok.inj ha).symm

/-- A list of two values, and behind it a field of an object. -/
def samplePair (first second : Value) (object : Closure) : Expr :=
  .list [.list [.constant first, .constant second], .member (.closure object) "f"]

/-- A value, and behind it a list of another one and of a field of an object. -/
def sampleNest (first second : Value) (object : Closure) : Expr :=
  .list [.constant first, .list [.constant second, .member (.closure object) "f"]]

/--
Lists with leaves of other kinds have one program, and lists that are nested otherwise do not.
-/
theorem ofExpr_determines_lists :
    ∃ p q r, Program.ofExpr (samplePair (.int32 1) (.int32 2) ⟨"X", []⟩) = .ok p ∧
      Program.ofExpr (samplePair .null (.string "a") ⟨"Y", []⟩) = .ok q ∧
      Program.ofExpr (sampleNest (.int32 1) (.int32 2) ⟨"X", []⟩) = .ok r ∧
      p = q ∧ p ≠ r := by
  have hp : Program.ofExpr (samplePair (.int32 1) (.int32 2) ⟨"X", []⟩) =
      .ok ⟨[.literal, .literal, .list 2, .capture, .member "f", .list 2], 3⟩ := rfl
  have hq : Program.ofExpr (samplePair .null (.string "a") ⟨"Y", []⟩) =
      .ok ⟨[.literal, .literal, .list 2, .capture, .member "f", .list 2], 3⟩ := rfl
  have hr : Program.ofExpr (sampleNest (.int32 1) (.int32 2) ⟨"X", []⟩) =
      .ok ⟨[.literal, .literal, .capture, .member "f", .list 2, .list 2], 3⟩ := rfl
  refine ⟨_, _, _, hp, hq, hr, ?_, fun same => ?_⟩
  · exact (Program.ofExpr_determines hp hq .null ⟨"", []⟩).1.2 rfl
  · exact absurd ((Program.ofExpr_determines hp hr .null ⟨"", []⟩).1.1 same) (by decide)

end RelMap.Evaluation
