import Mathlib.Data.List.Induction
import RelMap.Evaluation.Direct
import RelMap.Proofs.Except
import RelMap.Proofs.Expr.Shape

/-!
# Programs compute direct evaluation

A program that was compiled from one expression may run on every expression of the same shape, and
computes there what direct evaluation computes. The induction is over the expression, generalized
over the instructions that follow, the leaves that are left over and the stack below.
-/

namespace RelMap.Evaluation

open RelMap.Expr (marked markedAll)

namespace Program

@[simp] lemma instructions_append (p q : Program) :
    (p ++ q).instructions = p.instructions ++ q.instructions := rfl

@[simp] lemma leafCount_append (p q : Program) :
    (p ++ q).leafCount = p.leafCount + q.leafCount := rfl

@[simp] lemma instructions_one (i : Instruction) : (one i).instructions = [i] := rfl

@[simp] lemma leafCount_concat (p : Program) (i : Instruction) :
    (p ++ one i).leafCount = p.leafCount := rfl

end Program

lemma steps_cons (m : Machine) (i : Instruction) (is : List Instruction) :
    steps m (i :: is) = step m i >>= fun n => steps n is := rfl

/-- The slots' values, when one more slot is put behind them: its value is taken first. -/
lemma slotValues_concat (ss : List Slot) (s : Slot) :
    slotValues (ss ++ [s]) =
      s.toValue >>= fun v => slotValues ss >>= fun vs => .ok (vs ++ [v]) := by
  induction ss with
  | nil => simp [slotValues]
  | cons t ss ih => simp [slotValues, ih]

/-- Popping slots that were pushed from left to right gives their values from left to right. -/
lemma popMany_reverse (ss st : List Slot) :
    popMany ss.length (ss.reverse ++ st) = slotValues ss >>= fun vs => .ok (vs, st) := by
  induction ss using List.reverseRecOn generalizing st with
  | nil => rfl
  | append_singleton ss s ih => simp [popMany, pop, slotValues_concat, ih]

/-- Several expressions evaluate to one slot each. -/
lemma length_slotsOfAll {es : List Expr} {ss : List Slot} (h : slotsOfAll es = .ok ss) :
    ss.length = es.length := by
  induction es generalizing ss with
  | nil => cases h; rfl
  | cons e es ih =>
    simp only [slotsOfAll, bind_eq_ok, pure_eq_ok, Except.ok.injEq] at h
    obtain ⟨s, _, rest, hrest, rfl⟩ := h
    rw [List.length_cons, List.length_cons, ih hrest]

mutual

/--
The program of an expression, run on one of the same shape, pushes the slot that this one evaluates
to and fetches its leaves.
-/
theorem steps_ofExpr {e f : Expr} {p : Program} (h : Program.ofExpr e = .ok p)
    (same : e.sameShape f = true) (k : List Instruction) (ls : List Leaf) (st : List Slot) :
    steps ⟨leaves f ++ ls, st⟩ (p.instructions ++ k) =
      slot f >>= fun s => steps ⟨ls, s :: st⟩ k := by
  cases e <;> cases f <;> simp only [Expr.sameShape, Bool.and_eq_true, beq_iff_eq,
    Bool.false_eq_true] at same
  case parameter.parameter => cases h
  case constant.constant => cases h; rfl
  case closure.closure => cases h; rfl
  case member.member a m b n =>
    obtain ⟨rfl, same⟩ := same
    simp only [Program.ofExpr, bind_eq_ok, pure_eq_ok, Except.ok.injEq] at h
    obtain ⟨t, ht, rfl⟩ := h
    simp only [leaves, slot, Program.instructions_append, Program.instructions_one,
      List.append_assoc, List.singleton_append, steps_ofExpr ht same,
      steps_cons, step, bind_assoc, pure_eq_ok, ok_bind]
  case binary.binary o a b p c d =>
    obtain ⟨⟨rfl, same₁⟩, same₂⟩ := same
    simp only [Program.ofExpr, bind_eq_ok, pure_eq_ok, Except.ok.injEq] at h
    obtain ⟨l, hl, r, hr, rfl⟩ := h
    simp only [leaves, slot, Program.instructions_append, Program.instructions_one,
      List.append_assoc, List.singleton_append, steps_ofExpr hl same₁,
      steps_ofExpr hr same₂, steps_cons, step, pop, bind_assoc, pure_eq_ok, ok_bind]
  case not.not a b =>
    simp only [Program.ofExpr, bind_eq_ok, pure_eq_ok, Except.ok.injEq] at h
    obtain ⟨o, ho, rfl⟩ := h
    simp only [leaves, slot, Program.instructions_append, Program.instructions_one,
      List.append_assoc, List.singleton_append, steps_ofExpr ho same,
      steps_cons, step, pop, bind_assoc, pure_eq_ok, ok_bind]
  case negate.negate a b =>
    simp only [Program.ofExpr, bind_eq_ok, pure_eq_ok, Except.ok.injEq] at h
    obtain ⟨o, ho, rfl⟩ := h
    simp only [leaves, slot, Program.instructions_append, Program.instructions_one,
      List.append_assoc, List.singleton_append, steps_ofExpr ho same,
      steps_cons, step, pop, bind_assoc, pure_eq_ok, ok_bind]
  case convert.convert t a u b =>
    obtain ⟨rfl, same⟩ := same
    simp only [Program.ofExpr, bind_eq_ok, pure_eq_ok, Except.ok.injEq] at h
    obtain ⟨o, ho, rfl⟩ := h
    simp only [leaves, slot, Program.instructions_append, Program.instructions_one,
      List.append_assoc, List.singleton_append, steps_ofExpr ho same,
      steps_cons, step, pop, bind_assoc, pure_eq_ok, ok_bind]
  case call.call m as n bs =>
    obtain ⟨rfl, same⟩ := same
    simp only [Program.ofExpr, bind_eq_ok, pure_eq_ok, Except.ok.injEq] at h
    obtain ⟨_, _, a, ha, rfl⟩ := h
    simp only [leaves, slot, Program.instructions_append, Program.instructions_one,
      List.append_assoc, List.singleton_append, steps_ofAll ha same,
      steps_cons, step, bind_assoc, pure_eq_ok, ok_bind]
    refine bind_congr_ok fun ss hss => ?_
    have hlen : as.length = ss.length := by
      rw [length_slotsOfAll hss, Expr.length_eq_of_sameShapes same]
    simp only [hlen, popMany_reverse, bind_assoc, ok_bind]
  case invoke.invoke a m as b n bs =>
    obtain ⟨⟨rfl, same₁⟩, same₂⟩ := same
    simp only [Program.ofExpr, bind_eq_ok, pure_eq_ok, Except.ok.injEq] at h
    obtain ⟨_, _, t, ht, i, hi, rfl⟩ := h
    simp only [leaves, slot, Program.instructions_append, Program.instructions_one,
      List.append_assoc, List.singleton_append, steps_ofExpr ht same₁,
      steps_ofAll hi same₂, steps_cons, step, bind_assoc, pure_eq_ok, ok_bind]
    -- The machine pops as many slots as the compiled call has arguments, which are as many as the
    -- call has that is run.
    refine bind_congr fun s => bind_congr_ok fun ss hss => ?_
    have hlen : as.length = ss.length := by
      rw [length_slotsOfAll hss, Expr.length_eq_of_sameShapes same₂]
    simp only [hlen, popMany_reverse, pop, bind_assoc, pure_eq_ok, ok_bind]
  case list.list as bs =>
    simp only [Program.ofExpr, bind_eq_ok, pure_eq_ok, Except.ok.injEq] at h
    obtain ⟨i, hi, rfl⟩ := h
    simp only [leaves, slot, Program.instructions_append, Program.instructions_one,
      List.append_assoc, List.singleton_append, steps_ofAll hi same,
      steps_cons, step, bind_assoc, pure_eq_ok, ok_bind]
    refine bind_congr_ok fun ss hss => ?_
    have hlen : as.length = ss.length := by
      rw [length_slotsOfAll hss, Expr.length_eq_of_sameShapes same]
    simp only [hlen, popMany_reverse, bind_assoc, ok_bind]

/-- The programs of several expressions push the slots that they evaluate to. -/
theorem steps_ofAll {es fs : List Expr} {p : Program} (h : Program.ofAll es = .ok p)
    (same : Expr.sameShapes es fs = true) (k : List Instruction) (ls : List Leaf)
    (st : List Slot) :
    steps ⟨leavesOfAll fs ++ ls, st⟩ (p.instructions ++ k) =
      slotsOfAll fs >>= fun ss => steps ⟨ls, ss.reverse ++ st⟩ k := by
  cases es <;> cases fs <;> simp only [Expr.sameShapes, Bool.and_eq_true, Bool.false_eq_true]
    at same
  case nil.nil => cases h; rfl
  case cons.cons e es f fs =>
    simp only [Program.ofAll, bind_eq_ok, pure_eq_ok, Except.ok.injEq] at h
    obtain ⟨first, hfirst, rest, hrest, rfl⟩ := h
    simp only [leavesOfAll, slotsOfAll, Program.instructions_append, List.append_assoc,
      steps_ofExpr hfirst same.1, steps_ofAll hrest same.2, bind_assoc, pure_eq_ok, ok_bind,
      List.reverse_cons, List.singleton_append]

end

/-- A method has a program unless it is known by its name only. -/
lemma checkMethod_eq_ok {method : Method} : checkMethod method = .ok () ↔ ¬method.isNamed := by
  cases method <;> simp [checkMethod, Method.isNamed]

mutual

/-- An expression has a program if it neither reads the entity nor calls an unknown method. -/
theorem exists_ofExpr {e : Expr} (free : e.dependsOnParameter = false)
    (known : e.callsNamed = false) : ∃ p, Program.ofExpr e = .ok p := by
  cases e <;> simp only [Expr.dependsOnParameter, Expr.callsNamed, Bool.or_eq_false_iff,
    Bool.true_eq_false] at free known
  case constant => exact ⟨_, rfl⟩
  case closure => exact ⟨_, rfl⟩
  case member a m =>
    obtain ⟨t, ht⟩ := exists_ofExpr free known
    exact ⟨_, by rw [Program.ofExpr, ht, ok_bind, pure_eq_ok]⟩
  case binary o a b =>
    obtain ⟨l, hl⟩ := exists_ofExpr free.1 known.1
    obtain ⟨r, hr⟩ := exists_ofExpr free.2 known.2
    exact ⟨_, by rw [Program.ofExpr, hl, ok_bind, hr, ok_bind, pure_eq_ok]⟩
  case not a =>
    obtain ⟨o, ho⟩ := exists_ofExpr free known
    exact ⟨_, by rw [Program.ofExpr, ho, ok_bind, pure_eq_ok]⟩
  case negate a =>
    obtain ⟨o, ho⟩ := exists_ofExpr free known
    exact ⟨_, by rw [Program.ofExpr, ho, ok_bind, pure_eq_ok]⟩
  case convert k a =>
    obtain ⟨o, ho⟩ := exists_ofExpr free known
    exact ⟨_, by rw [Program.ofExpr, ho, ok_bind, pure_eq_ok]⟩
  case call m as =>
    have hm : checkMethod m = .ok () := checkMethod_eq_ok.2 (by simp [known.1])
    obtain ⟨a, ha⟩ := exists_ofAll free known.2
    exact ⟨_, by rw [Program.ofExpr, hm, ok_bind, ha, ok_bind, pure_eq_ok]⟩
  case invoke a m as =>
    have hm : checkMethod m = .ok () := checkMethod_eq_ok.2 (by simp [known.1.1])
    obtain ⟨t, ht⟩ := exists_ofExpr free.1 known.1.2
    obtain ⟨i, hi⟩ := exists_ofAll free.2 known.2
    exact ⟨_, by rw [Program.ofExpr, hm, ok_bind, ht, ok_bind, hi, ok_bind, pure_eq_ok]⟩
  case list as =>
    obtain ⟨i, hi⟩ := exists_ofAll free known
    exact ⟨_, by rw [Program.ofExpr, hi, ok_bind, pure_eq_ok]⟩

/-- The same for several expressions. -/
theorem exists_ofAll {es : List Expr} (free : Expr.anyDependsOnParameter es = false)
    (known : Expr.anyCallsNamed es = false) : ∃ p, Program.ofAll es = .ok p := by
  cases es with
  | nil => exact ⟨_, rfl⟩
  | cons e es =>
    simp only [Expr.anyDependsOnParameter, Expr.anyCallsNamed, Bool.or_eq_false_iff] at free known
    obtain ⟨first, hfirst⟩ := exists_ofExpr free.1 known.1
    obtain ⟨rest, hrest⟩ := exists_ofAll free.2 known.2
    exact ⟨_, by rw [Program.ofAll, hfirst, ok_bind, hrest, ok_bind, pure_eq_ok]⟩

end

mutual

/-- An expression that has a program neither reads the entity nor calls an unknown method. -/
theorem closed_of_ofExpr {e : Expr} {p : Program} (h : Program.ofExpr e = .ok p) :
    e.dependsOnParameter = false ∧ e.callsNamed = false := by
  cases e <;>
    simp only [Program.ofExpr, bind_eq_ok, pure_eq_ok, Except.ok.injEq, reduceCtorEq] at h <;>
    simp only [Expr.dependsOnParameter, Expr.callsNamed, Bool.or_eq_false_iff]
  case constant => exact ⟨trivial, trivial⟩
  case closure => exact ⟨trivial, trivial⟩
  case member a m =>
    obtain ⟨t, ht, -⟩ := h
    exact closed_of_ofExpr ht
  case binary o a b =>
    obtain ⟨l, hl, r, hr, -⟩ := h
    obtain ⟨free₁, known₁⟩ := closed_of_ofExpr hl
    obtain ⟨free₂, known₂⟩ := closed_of_ofExpr hr
    exact ⟨⟨free₁, free₂⟩, known₁, known₂⟩
  case not a =>
    obtain ⟨o, ho, -⟩ := h
    exact closed_of_ofExpr ho
  case negate a =>
    obtain ⟨o, ho, -⟩ := h
    exact closed_of_ofExpr ho
  case convert k a =>
    obtain ⟨o, ho, -⟩ := h
    exact closed_of_ofExpr ho
  case call m as =>
    obtain ⟨u, hm, a, ha, -⟩ := h
    obtain ⟨free, known⟩ := closed_of_ofAll ha
    exact ⟨free, by simpa using checkMethod_eq_ok.1 hm, known⟩
  case invoke a m as =>
    obtain ⟨u, hm, t, ht, i, hi, -⟩ := h
    obtain ⟨free₁, known₁⟩ := closed_of_ofExpr ht
    obtain ⟨free₂, known₂⟩ := closed_of_ofAll hi
    exact ⟨⟨free₁, free₂⟩, ⟨by simpa using checkMethod_eq_ok.1 hm, known₁⟩, known₂⟩
  case list as =>
    obtain ⟨i, hi, -⟩ := h
    exact closed_of_ofAll hi

/-- The same for several expressions. -/
theorem closed_of_ofAll {es : List Expr} {p : Program} (h : Program.ofAll es = .ok p) :
    Expr.anyDependsOnParameter es = false ∧ Expr.anyCallsNamed es = false := by
  cases es with
  | nil => exact ⟨rfl, rfl⟩
  | cons e es =>
    simp only [Program.ofAll, bind_eq_ok] at h
    obtain ⟨first, hfirst, rest, hrest, -⟩ := h
    obtain ⟨free₁, known₁⟩ := closed_of_ofExpr hfirst
    obtain ⟨free₂, known₂⟩ := closed_of_ofAll hrest
    simp only [Expr.anyDependsOnParameter, Expr.anyCallsNamed, Bool.or_eq_false_iff]
    exact ⟨⟨free₁, free₂⟩, known₁, known₂⟩

end

mutual

/-- Programs do not depend on the leaves. -/
theorem ofExpr_marked (v : Value) (c : Closure) :
    ∀ e : Expr, Program.ofExpr (e.marked v c) = Program.ofExpr e
  | .parameter _ | .constant _ | .closure _ => rfl
  | .member target name => by rw [marked, Program.ofExpr, ofExpr_marked v c target, Program.ofExpr]
  | .binary op left right => by
    rw [marked, Program.ofExpr, ofExpr_marked v c left, ofExpr_marked v c right, Program.ofExpr]
  | .not operand => by rw [marked, Program.ofExpr, ofExpr_marked v c operand, Program.ofExpr]
  | .negate operand => by rw [marked, Program.ofExpr, ofExpr_marked v c operand, Program.ofExpr]
  | .convert target operand => by
    rw [marked, Program.ofExpr, ofExpr_marked v c operand, Program.ofExpr]
  | .call method args => by
    rw [marked, Program.ofExpr, ofAll_marked v c args, Expr.length_markedAll, Program.ofExpr]
  | .invoke target method args => by
    rw [marked, Program.ofExpr, ofExpr_marked v c target, ofAll_marked v c args,
      Expr.length_markedAll, Program.ofExpr]
  | .list items => by
    rw [marked, Program.ofExpr, ofAll_marked v c items, Expr.length_markedAll, Program.ofExpr]

/-- The same for several expressions. -/
theorem ofAll_marked (v : Value) (c : Closure) :
    ∀ es : List Expr, Program.ofAll (markedAll v c es) = Program.ofAll es
  | [] => rfl
  | e :: es => by
    rw [markedAll, Program.ofAll, ofExpr_marked v c e, ofAll_marked v c es, Program.ofAll]

end

mutual

/-- A program fetches as many leaves as the expression has that it was compiled from. -/
theorem leafCount_of_ofExpr {e : Expr} {p : Program} (h : Program.ofExpr e = .ok p) :
    p.leafCount = (leaves e).length := by
  cases e <;> simp only [Program.ofExpr, bind_eq_ok, pure_eq_ok, Except.ok.injEq,
    reduceCtorEq] at h
  case constant => cases h; rfl
  case closure => cases h; rfl
  case member a m =>
    obtain ⟨t, ht, rfl⟩ := h
    rw [leaves, Program.leafCount_concat, leafCount_of_ofExpr ht]
  case binary o a b =>
    obtain ⟨l, hl, r, hr, rfl⟩ := h
    rw [leaves, Program.leafCount_concat, Program.leafCount_append, List.length_append,
      leafCount_of_ofExpr hl, leafCount_of_ofExpr hr]
  case not a =>
    obtain ⟨o, ho, rfl⟩ := h
    rw [leaves, Program.leafCount_concat, leafCount_of_ofExpr ho]
  case negate a =>
    obtain ⟨o, ho, rfl⟩ := h
    rw [leaves, Program.leafCount_concat, leafCount_of_ofExpr ho]
  case convert k a =>
    obtain ⟨o, ho, rfl⟩ := h
    rw [leaves, Program.leafCount_concat, leafCount_of_ofExpr ho]
  case call m as =>
    obtain ⟨_, _, a, ha, rfl⟩ := h
    rw [leaves, Program.leafCount_concat, leafCount_of_ofAll ha]
  case invoke a m as =>
    obtain ⟨_, _, t, ht, i, hi, rfl⟩ := h
    rw [leaves, Program.leafCount_concat, Program.leafCount_append, List.length_append,
      leafCount_of_ofExpr ht, leafCount_of_ofAll hi]
  case list as =>
    obtain ⟨i, hi, rfl⟩ := h
    rw [leaves, Program.leafCount_concat, leafCount_of_ofAll hi]

/-- The same for several expressions. -/
theorem leafCount_of_ofAll {es : List Expr} {p : Program} (h : Program.ofAll es = .ok p) :
    p.leafCount = (leavesOfAll es).length := by
  cases es with
  | nil => cases h; rfl
  | cons e es =>
    simp only [Program.ofAll, bind_eq_ok, pure_eq_ok, Except.ok.injEq] at h
    obtain ⟨first, hfirst, rest, hrest, rfl⟩ := h
    rw [leavesOfAll, Program.leafCount_append, List.length_append, leafCount_of_ofExpr hfirst,
      leafCount_of_ofAll hrest]

end

/-- Expressions of one shape have one program. -/
lemma ofExpr_of_sameShape {e f : Expr} {p : Program} (h : Program.ofExpr e = .ok p)
    (same : e.sameShape f = true) : Program.ofExpr f = .ok p := by
  obtain ⟨free, -⟩ := closed_of_ofExpr h
  rw [← ofExpr_marked .null ⟨"", []⟩, ← Expr.marked_eq_of_sameShape _ _ free same, ofExpr_marked, h]

/-- A program, run on an expression of its shape, computes the slot of it and uses all leaves. -/
lemma steps_instructions {e f : Expr} {p : Program} (h : Program.ofExpr e = .ok p)
    (same : e.sameShape f = true) :
    steps ⟨leaves f, []⟩ p.instructions = slot f >>= fun s => .ok ⟨[], [s]⟩ := by
  -- The general statement, with nothing behind the program, no further leaves and an empty stack.
  have run := steps_ofExpr h same [] [] []
  rw [List.append_nil, List.append_nil] at run
  exact run

/-- A program, run on an expression of its shape, gives the value of direct evaluation. -/
lemma run_eq_direct {e f : Expr} {p : Program} (h : Program.ofExpr e = .ok p)
    (same : e.sameShape f = true) : p.run f = direct f := by
  have hcount : p.leafCount = (leaves f).length :=
    leafCount_of_ofExpr (ofExpr_of_sameShape h same)
  simp only [Program.run, ← hcount, ne_eq, not_true_eq_false, if_false, steps_instructions h same,
    bind_assoc, ok_bind]
  rfl

end RelMap.Evaluation
