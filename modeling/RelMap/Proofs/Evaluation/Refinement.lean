import RelMap.Proofs.Evaluation.Operators
import RelMap.Proofs.Evaluation.Program

/-!
# Programs and evaluation from left to right

The plainest reading of an expression evaluates the operands from left to right and refuses a
captured object as soon as it stands where a value is wanted. Programs give the same values and
fail on the same expressions. Their first fault is the same too unless a captured object is itself
an operand: an object is refused only when the operator takes its operands, which it does from the
last one to the first.
-/

namespace RelMap.Evaluation

mutual

/-- The value of an expression, where captured objects are refused as soon as they are met. -/
def strict : Expr → Except EvaluationFault Value
  | .parameter _ => .error .shapeMismatch
  | .constant value => .ok value
  | .closure captured => .error (.closureAsValue captured.typeName)
  | .member (.closure captured) name => (Slot.closure captured).member name
  | .member target name => do
    let t ← strict target
    readMember name t
  | .binary op left right => do
    let l ← strict left
    let r ← strict right
    Evaluation.binary op l r
  | .not operand => do
    let o ← strict operand
    negation o
  | .negate operand => do
    let o ← strict operand
    Evaluation.negate o
  | .convert target operand => do
    let o ← strict operand
    Evaluation.convert target o
  | .call method args => do
    let vs ← strictAll args
    staticCall method vs
  | .invoke target method args => do
    let t ← strict target
    let vs ← strictAll args
    targetCall method t vs
  | .list items => do
    let vs ← strictAll items
    return .list vs

/-- The values of several expressions, from left to right. -/
def strictAll : List Expr → Except EvaluationFault (List Value)
  | [] => .ok []
  | e :: es => do
    let v ← strict e
    let vs ← strictAll es
    return v :: vs

end

mutual

/-- Whether a captured object stands anywhere but under one of its members. -/
def hasBareClosure : Expr → Bool
  | .parameter _ => false
  | .constant _ => false
  | .closure _ => true
  | .member (.closure _) _ => false
  | .member target _ => hasBareClosure target
  | .binary _ left right => hasBareClosure left || hasBareClosure right
  | .not operand => hasBareClosure operand
  | .negate operand => hasBareClosure operand
  | .convert _ operand => hasBareClosure operand
  | .call _ args => anyHasBareClosure args
  | .invoke target _ args => hasBareClosure target || anyHasBareClosure args
  | .list items => anyHasBareClosure items

/-- Whether a captured object stands so in one of several expressions. -/
def anyHasBareClosure : List Expr → Bool
  | [] => false
  | e :: es => hasBareClosure e || anyHasBareClosure es

end

/-- Only a captured object evaluates to a captured object. -/
lemma eq_closure_of_slot {e : Expr} {c : Closure} (h : slot e = .ok (.closure c)) :
    e = .closure c := by
  cases e <;> simp only [slot, bind_eq_ok, pure_eq_ok, Except.ok.injEq, reduceCtorEq, and_false,
    exists_false, Slot.closure.injEq] at h
  case closure => rw [h]

/-- The value of a captured object's member needs no value of the object. -/
lemma strict_member_of_ne {target : Expr} (name : String) (h : ∀ c, target ≠ .closure c) :
    strict (.member target name) = strict target >>= fun t => readMember name t := by
  cases target <;> first | rfl | exact absurd rfl (h _)

/-- A member of anything but a captured object has the captured objects of its target. -/
lemma hasBareClosure_member_of_ne {target : Expr} (name : String) (h : ∀ c, target ≠ .closure c) :
    hasBareClosure (.member target name) = hasBareClosure target := by
  cases target <;> first | rfl | exact absurd rfl (h _)

lemma toValue_eq_ok {s : Slot} {v : Value} : s.toValue = .ok v ↔ s = .value v := by
  cases s <;> simp [Slot.toValue]

/-- The direct value of an expression is the content of its slot. -/
lemma direct_eq_ok {e : Expr} {v : Value} : direct e = .ok v ↔ slot e = .ok (.value v) := by
  simp only [direct, bind_eq_ok, toValue_eq_ok]
  constructor
  · rintro ⟨s, h, rfl⟩
    exact h
  · exact fun h => ⟨_, h, rfl⟩

/-- An operator with one operand gives a value when the operand has one that it is defined on. -/
lemma operate_eq_ok {x : Except EvaluationFault Slot} {f : Value → Except EvaluationFault Value}
    {v : Value} :
    (x >>= fun s => s.toValue >>= fun o => f o >>= fun w => .ok (Slot.value w)) = .ok (.value v) ↔
      ∃ o, x = .ok (.value o) ∧ f o = .ok v := by
  simp only [bind_eq_ok, toValue_eq_ok, Except.ok.injEq, Slot.value.injEq]
  constructor
  · rintro ⟨_, hx, o, rfl, w, hw, rfl⟩
    exact ⟨o, hx, hw⟩
  · rintro ⟨o, hx, hv⟩
    exact ⟨_, hx, o, rfl, v, hv, rfl⟩

/-- Slots with values are just those values. -/
lemma slotValues_eq_ok {ss : List Slot} {vs : List Value} :
    slotValues ss = .ok vs ↔ ss = vs.map .value := by
  induction ss generalizing vs with
  | nil => cases vs <;> simp [slotValues]
  | cons s ss ih =>
    simp only [slotValues, bind_eq_ok, toValue_eq_ok, ih, pure_eq_ok, Except.ok.injEq]
    constructor
    · rintro ⟨ws, rfl, w, rfl, rfl⟩
      rfl
    · intro h
      cases vs with
      | nil => cases h
      | cons v vs =>
        cases h
        exact ⟨vs, rfl, v, rfl, rfl⟩

mutual

/-- An expression has a value when objects are refused at once just if it has it otherwise. -/
theorem strict_eq_ok {e : Expr} {v : Value} : strict e = .ok v ↔ slot e = .ok (.value v) := by
  cases e with
  | parameter => simp [strict, slot]
  | constant => simp [strict, slot]
  | closure => simp [strict, slot]
  | member a m =>
    obtain ⟨c, rfl⟩ | hne : (∃ c, a = .closure c) ∨ ∀ c, a ≠ .closure c := by
      cases a <;> simp
    · simp [strict, slot, bind_eq_ok]
    · rw [strict_member_of_ne m hne]
      simp only [slot, bind_eq_ok, strict_eq_ok (e := a), pure_eq_ok, Except.ok.injEq,
        Slot.value.injEq]
      constructor
      · rintro ⟨t, ht, hv⟩
        exact ⟨.value t, ht, v, hv, rfl⟩
      · rintro ⟨s, hs, w, hw, rfl⟩
        cases s with
        | value t => exact ⟨t, hs, hw⟩
        -- Only a captured object itself leaves an object in the slot, and that case is done.
        | closure c => exact absurd (eq_closure_of_slot hs) (hne c)
  | binary o a b =>
    simp only [strict, slot, bind_eq_ok, strict_eq_ok (e := a), strict_eq_ok (e := b),
      toValue_eq_ok, pure_eq_ok, Except.ok.injEq, Slot.value.injEq]
    constructor
    · rintro ⟨l, hl, r, hr, hv⟩
      exact ⟨_, hl, _, hr, r, rfl, l, rfl, v, hv, rfl⟩
    · rintro ⟨_, hl, _, hr, r, rfl, l, rfl, w, hw, rfl⟩
      exact ⟨l, hl, r, hr, hw⟩
  | not a =>
    rw [strict, slot, bind_eq_ok]
    simp only [strict_eq_ok (e := a), pure_eq_ok, operate_eq_ok]
  | negate a =>
    rw [strict, slot, bind_eq_ok]
    simp only [strict_eq_ok (e := a), pure_eq_ok, operate_eq_ok]
  | convert k a =>
    rw [strict, slot, bind_eq_ok]
    simp only [strict_eq_ok (e := a), pure_eq_ok, operate_eq_ok]
  | call m as =>
    simp only [strict, slot, bind_eq_ok, @strictAll_eq_ok as, slotValues_eq_ok, pure_eq_ok,
      Except.ok.injEq, Slot.value.injEq]
    constructor
    · rintro ⟨vs, hvs, hv⟩
      exact ⟨_, hvs, vs, rfl, v, hv, rfl⟩
    · rintro ⟨_, hvs, vs, rfl, w, hw, rfl⟩
      exact ⟨vs, hvs, hw⟩
  | invoke a m as =>
    simp only [strict, slot, bind_eq_ok, strict_eq_ok (e := a), @strictAll_eq_ok as,
      toValue_eq_ok, slotValues_eq_ok, pure_eq_ok, Except.ok.injEq, Slot.value.injEq]
    constructor
    · rintro ⟨t, ht, vs, hvs, hv⟩
      exact ⟨_, ht, _, hvs, vs, rfl, t, rfl, v, hv, rfl⟩
    · rintro ⟨_, ht, _, hvs, vs, rfl, t, rfl, w, hw, rfl⟩
      exact ⟨t, ht, vs, hvs, hw⟩
  | list as =>
    simp only [strict, slot, bind_eq_ok, @strictAll_eq_ok as, slotValues_eq_ok, pure_eq_ok,
      Except.ok.injEq, Slot.value.injEq]
    constructor
    · rintro ⟨vs, hvs, hv⟩
      exact ⟨_, hvs, vs, rfl, hv⟩
    · rintro ⟨_, hvs, vs, rfl, hv⟩
      exact ⟨vs, hvs, hv⟩

/-- The same for several expressions. -/
theorem strictAll_eq_ok {es : List Expr} {vs : List Value} :
    strictAll es = .ok vs ↔ slotsOfAll es = .ok (vs.map .value) := by
  cases es with
  | nil => cases vs <;> simp [strictAll, slotsOfAll]
  | cons e es =>
    simp only [strictAll, slotsOfAll, bind_eq_ok, strict_eq_ok (e := e), @strictAll_eq_ok es,
      pure_eq_ok, Except.ok.injEq]
    constructor
    · rintro ⟨w, hw, ws, hws, rfl⟩
      exact ⟨_, hw, _, hws, rfl⟩
    · rintro ⟨s, hs, ss, hss, e⟩
      cases vs with
      | nil => cases e
      | cons v vs =>
        cases e
        exact ⟨v, hs, vs, hss, rfl⟩

end

lemma slotValues_map_value (vs : List Value) : slotValues (vs.map .value) = .ok vs :=
  slotValues_eq_ok.2 rfl

mutual

/-- Where no captured object is an operand itself, every slot is the value it is strictly. -/
theorem slot_eq_strict {e : Expr} (h : hasBareClosure e = false) :
    slot e = strict e >>= fun v => .ok (.value v) := by
  cases e with
  | parameter => rfl
  | constant => rfl
  | closure => cases h
  | member a m =>
    obtain ⟨c, rfl⟩ | hne : (∃ c, a = .closure c) ∨ ∀ c, a ≠ .closure c := by
      cases a <;> simp
    · rfl
    · rw [hasBareClosure_member_of_ne m hne] at h
      rw [strict_member_of_ne m hne, slot, slot_eq_strict h, bind_assoc, bind_assoc]
      rfl
  | binary o a b =>
    simp only [hasBareClosure, Bool.or_eq_false_iff] at h
    simp only [strict, slot, slot_eq_strict h.1, slot_eq_strict h.2, bind_assoc, ok_bind,
      Slot.toValue, pure_eq_ok]
  | not a =>
    rw [hasBareClosure] at h
    simp only [strict, slot, slot_eq_strict h, bind_assoc, ok_bind, Slot.toValue, pure_eq_ok]
  | negate a =>
    rw [hasBareClosure] at h
    simp only [strict, slot, slot_eq_strict h, bind_assoc, ok_bind, Slot.toValue, pure_eq_ok]
  | convert k a =>
    rw [hasBareClosure] at h
    simp only [strict, slot, slot_eq_strict h, bind_assoc, ok_bind, Slot.toValue, pure_eq_ok]
  | call m as =>
    rw [hasBareClosure] at h
    simp only [strict, slot, slotsOfAll_eq_strictAll h, bind_assoc, ok_bind,
      slotValues_map_value, pure_eq_ok]
  | invoke a m as =>
    simp only [hasBareClosure, Bool.or_eq_false_iff] at h
    simp only [strict, slot, slot_eq_strict h.1, slotsOfAll_eq_strictAll h.2, bind_assoc, ok_bind,
      slotValues_map_value, Slot.toValue, pure_eq_ok]
  | list as =>
    rw [hasBareClosure] at h
    simp only [strict, slot, slotsOfAll_eq_strictAll h, bind_assoc, ok_bind,
      slotValues_map_value, pure_eq_ok]

/-- The same for several expressions. -/
theorem slotsOfAll_eq_strictAll {es : List Expr} (h : anyHasBareClosure es = false) :
    slotsOfAll es = strictAll es >>= fun vs => .ok (vs.map .value) := by
  cases es with
  | nil => rfl
  | cons e es =>
    simp only [anyHasBareClosure, Bool.or_eq_false_iff] at h
    simp only [strictAll, slotsOfAll, slot_eq_strict h.1, slotsOfAll_eq_strictAll h.2, bind_assoc,
      ok_bind, pure_eq_ok, List.map_cons]

end

/-- Where no captured object is an operand itself, both evaluations agree, faults included. -/
lemma direct_eq_strict {e : Expr} (h : hasBareClosure e = false) : direct e = strict e := by
  rw [direct, slot_eq_strict h, bind_assoc]
  cases strict e with
  | error f => rfl
  | ok v => rfl

/-- A step after a step, neither of which reports a mismatch of shapes. -/
lemma bind_ne_shapeMismatch {α β : Type} {x : Except EvaluationFault α}
    {f : α → Except EvaluationFault β} (hx : x ≠ .error .shapeMismatch)
    (hf : ∀ a, f a ≠ .error .shapeMismatch) : x >>= f ≠ .error .shapeMismatch := by
  rw [ne_eq, bind_eq_error]
  rintro (h | ⟨a, -, h⟩)
  · exact hx h
  · exact hf a h

lemma toValue_ne_shapeMismatch (s : Slot) : s.toValue ≠ .error .shapeMismatch := by
  cases s <;> nofun

/-- Taking the values of slots reports no mismatch of shapes. -/
lemma slotValues_ne_shapeMismatch (ss : List Slot) :
    slotValues ss ≠ .error .shapeMismatch := by
  induction ss with
  | nil => nofun
  | cons s ss ih =>
    refine bind_ne_shapeMismatch ih fun vs => ?_
    exact bind_ne_shapeMismatch (toValue_ne_shapeMismatch s) fun v => nofun

/-- Reading a member of a slot reports no mismatch of shapes. -/
lemma member_ne_shapeMismatch (name : String) (s : Slot) :
    s.member name ≠ .error .shapeMismatch := by
  cases s with
  | value v => exact readMember_ne_shapeMismatch name v
  | closure c =>
    unfold Slot.member
    grind

mutual

/-- Evaluating an expression that does not read the entity reports no mismatch of shapes. -/
theorem slot_ne_shapeMismatch {e : Expr} (free : e.dependsOnParameter = false) :
    slot e ≠ .error .shapeMismatch := by
  cases e <;> simp only [Expr.dependsOnParameter, Bool.or_eq_false_iff, Bool.true_eq_false] at free
  case constant => nofun
  case closure => nofun
  case member a m =>
    refine bind_ne_shapeMismatch (slot_ne_shapeMismatch free) fun s => ?_
    exact bind_ne_shapeMismatch (member_ne_shapeMismatch m s) fun v => nofun
  case binary o a b =>
    refine bind_ne_shapeMismatch (slot_ne_shapeMismatch free.1) fun l => ?_
    refine bind_ne_shapeMismatch (slot_ne_shapeMismatch free.2) fun r => ?_
    refine bind_ne_shapeMismatch (toValue_ne_shapeMismatch r) fun rv => ?_
    refine bind_ne_shapeMismatch (toValue_ne_shapeMismatch l) fun lv => ?_
    exact bind_ne_shapeMismatch (binary_ne_shapeMismatch o lv rv) fun v => nofun
  case not a =>
    refine bind_ne_shapeMismatch (slot_ne_shapeMismatch free) fun s => ?_
    refine bind_ne_shapeMismatch (toValue_ne_shapeMismatch s) fun v => ?_
    exact bind_ne_shapeMismatch (negation_ne_shapeMismatch v) fun w => nofun
  case negate a =>
    refine bind_ne_shapeMismatch (slot_ne_shapeMismatch free) fun s => ?_
    refine bind_ne_shapeMismatch (toValue_ne_shapeMismatch s) fun v => ?_
    exact bind_ne_shapeMismatch (negate_ne_shapeMismatch v) fun w => nofun
  case convert k a =>
    refine bind_ne_shapeMismatch (slot_ne_shapeMismatch free) fun s => ?_
    refine bind_ne_shapeMismatch (toValue_ne_shapeMismatch s) fun v => ?_
    exact bind_ne_shapeMismatch (convert_ne_shapeMismatch k v) fun w => nofun
  case call m as =>
    refine bind_ne_shapeMismatch (slotsOfAll_ne_shapeMismatch free) fun ss => ?_
    refine bind_ne_shapeMismatch (slotValues_ne_shapeMismatch ss) fun vs => ?_
    exact bind_ne_shapeMismatch (staticCall_ne_shapeMismatch m vs) fun w => nofun
  case invoke a m as =>
    refine bind_ne_shapeMismatch (slot_ne_shapeMismatch free.1) fun t => ?_
    refine bind_ne_shapeMismatch (slotsOfAll_ne_shapeMismatch free.2) fun ss => ?_
    refine bind_ne_shapeMismatch (slotValues_ne_shapeMismatch ss) fun vs => ?_
    refine bind_ne_shapeMismatch (toValue_ne_shapeMismatch t) fun tv => ?_
    exact bind_ne_shapeMismatch (targetCall_ne_shapeMismatch m tv vs) fun w => nofun
  case list as =>
    refine bind_ne_shapeMismatch (slotsOfAll_ne_shapeMismatch free) fun ss => ?_
    exact bind_ne_shapeMismatch (slotValues_ne_shapeMismatch ss) fun vs => nofun

/-- The same for several expressions. -/
theorem slotsOfAll_ne_shapeMismatch {es : List Expr}
    (free : Expr.anyDependsOnParameter es = false) : slotsOfAll es ≠ .error .shapeMismatch := by
  cases es with
  | nil => nofun
  | cons e es =>
    simp only [Expr.anyDependsOnParameter, Bool.or_eq_false_iff] at free
    refine bind_ne_shapeMismatch (slot_ne_shapeMismatch free.1) fun s => ?_
    exact bind_ne_shapeMismatch (slotsOfAll_ne_shapeMismatch free.2) fun ss => nofun

end

lemma direct_ne_shapeMismatch {e : Expr} (free : e.dependsOnParameter = false) :
    direct e ≠ .error .shapeMismatch :=
  bind_ne_shapeMismatch (slot_ne_shapeMismatch free) toValue_ne_shapeMismatch

/--
An expression has a program exactly when it neither reads the entity nor calls a method known by
its name only. On every expression of its shape the program gives the direct value or fault, never
reports a mismatch, and ends with all leaves fetched and one slot on the stack. It gives the value
that is computed strictly from left to right, and the same fault too unless a captured object is an
operand itself.
-/
theorem ofExpr_refines :
    (∀ e : Expr, e.dependsOnParameter = false → e.callsNamed = false →
      ∃ p, Program.ofExpr e = .ok p ∧ ∀ f, e.sameShape f = true →
        p.run f = direct f ∧
        (∀ v, p.run f = .ok v ↔ strict f = .ok v) ∧
        (hasBareClosure f = false → p.run f = strict f) ∧
        p.run f ≠ .error .shapeMismatch ∧
        ∀ m, steps ⟨leaves f, []⟩ p.instructions = .ok m → ∃ s, m = ⟨[], [s]⟩) ∧
    ∀ e : Expr, e.dependsOnParameter = true ∨ e.callsNamed = true →
      ∃ fault, Program.ofExpr e = .error fault := by
  refine ⟨fun e free known => ?_, fun e h => ?_⟩
  · obtain ⟨p, hp⟩ := exists_ofExpr free known
    refine ⟨_, hp, fun f same => ?_⟩
    have free' : f.dependsOnParameter = false := by
      rw [← Expr.dependsOnParameter_eq_of_sameShape same, free]
    rw [run_eq_direct hp same, steps_instructions hp same]
    refine ⟨rfl, fun v => ?_, direct_eq_strict, direct_ne_shapeMismatch free', fun m hm => ?_⟩
    · rw [strict_eq_ok, direct_eq_ok]
    · obtain ⟨s, -, hs⟩ := bind_eq_ok.1 hm
      exact ⟨s, (Except.ok.inj hs).symm⟩
  -- Compiling fails, since a program would make the expression closed.
  · cases hp : Program.ofExpr e with
    | error fault => exact ⟨fault, rfl⟩
    | ok p =>
      obtain ⟨free, known⟩ := closed_of_ofExpr hp
      simp [free, known] at h

/-- The program of a sum of a field and a constant, run on another such sum. -/
theorem ofExpr_refines_sum :
    ∃ p, Program.ofExpr (.binary (.arithmetic .add)
        (.member (.closure ⟨"Scope", [("n", .int32 2)]⟩) "n") (.constant (.int32 3))) = .ok p ∧
      p.run (.binary (.arithmetic .add)
        (.member (.closure ⟨"Scope", [("n", .int32 5)]⟩) "n") (.constant (.int32 7))) =
        .ok (.int32 12) := by
  obtain ⟨p, hp, run⟩ := ofExpr_refines.1 (.binary (.arithmetic .add)
    (.member (.closure ⟨"Scope", [("n", .int32 2)]⟩) "n") (.constant (.int32 3))) rfl rfl
  have h := (run (.binary (.arithmetic .add)
    (.member (.closure ⟨"Scope", [("n", .int32 5)]⟩) "n") (.constant (.int32 7))) (by decide)).1
  exact ⟨p, hp, h.trans rfl⟩

/-- Of two captured objects that are compared, a program refuses the right one first. -/
theorem ofExpr_refuses_last_first :
    ∃ e p, e = .binary (.comparison .eq) (.closure ⟨"A", []⟩) (.closure ⟨"B", []⟩) ∧
      e.dependsOnParameter = false ∧ e.callsNamed = false ∧ Program.ofExpr e = .ok p ∧
      e.sameShape e = true ∧ p.run e = .error (.closureAsValue "B") ∧
      strict e = .error (.closureAsValue "A") :=
  ⟨_, _, rfl, rfl, rfl, rfl, by decide, rfl, rfl⟩

end RelMap.Evaluation
