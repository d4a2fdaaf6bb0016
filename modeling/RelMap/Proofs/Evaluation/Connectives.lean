import RelMap.Proofs.Evaluation.Values

/-!
# Connectives of captured conditions

A connective takes both of its operands, also where the first one decides what it comes to: it is a
boolean only if both operands are, and a fault of the second operand is a fault of the whole,
however deep in an expression it stands. Where both operands are booleans the first one does decide.
-/

namespace RelMap

/-- The operand that decides a connective, whatever the other one is. -/
def Connective.decisive : Connective → Bool
  | .and => false
  | .or => true

namespace Evaluation

/-- A node of an expression without one of its operands. -/
inductive Frame where
  | member (name : String)
  /-- An operator of which the left operand is missing. -/
  | onLeft (op : BinaryOp) (right : Expr)
  /-- An operator of which the right operand is missing. -/
  | onRight (op : BinaryOp) (left : Expr)
  | not
  | negate
  | convert (target : Kind)
  /-- A call without a target, in which an argument is missing. -/
  | argument (method : Method) (before after : List Expr)
  /-- A call of which the target is missing. -/
  | onTarget (method : Method) (args : List Expr)
  /-- A call on a target, in which an argument is missing. -/
  | invoked (target : Expr) (method : Method) (before after : List Expr)
  /-- A list in which an item is missing. -/
  | item (before after : List Expr)

/-- The node with an operand in the place of the one that is missing. -/
def Frame.plug (e : Expr) : Frame → Expr
  | .member name => .member e name
  | .onLeft op right => .binary op e right
  | .onRight op left => .binary op left e
  | .not => .not e
  | .negate => .negate e
  | .convert target => .convert target e
  | .argument method before after => .call method (before ++ e :: after)
  | .onTarget method args => .invoke e method args
  | .invoked target method before after => .invoke target method (before ++ e :: after)
  | .item before after => .list (before ++ e :: after)

/-- An expression within several nodes, the innermost of them first. -/
def within (e : Expr) : List Frame → Expr
  | [] => e
  | f :: fs => within (f.plug e) fs

variable {a b e l r : Expr} {fault : EvaluationFault} {before after : List Expr}

lemma anyDependsOnParameter_append {es : List Expr} :
    Expr.anyDependsOnParameter (before ++ es) =
      (Expr.anyDependsOnParameter before || Expr.anyDependsOnParameter es) := by
  induction before with
  | nil => rfl
  | cons e es ih =>
    rw [List.cons_append, Expr.anyDependsOnParameter, Expr.anyDependsOnParameter, ih, Bool.or_assoc]

lemma anyCallsNamed_append {es : List Expr} :
    Expr.anyCallsNamed (before ++ es) = (Expr.anyCallsNamed before || Expr.anyCallsNamed es) := by
  induction before with
  | nil => rfl
  | cons e es ih => rw [List.cons_append, Expr.anyCallsNamed, Expr.anyCallsNamed, ih, Bool.or_assoc]

/-- A node has a program if it has one with some other operand and the operand has one. -/
lemma closed_plug (f : Frame) :
    Closed (f.plug e) ↔ Closed (f.plug (.constant .null)) ∧ Closed e := by
  cases f <;>
    simp only [Closed, Frame.plug, Expr.dependsOnParameter, Expr.callsNamed,
      anyDependsOnParameter_append, anyCallsNamed_append, Expr.anyDependsOnParameter,
      Expr.anyCallsNamed, Bool.or_eq_false_iff] <;>
    tauto

/-- What has a program has one with any other part in the place of one, if that part has one. -/
lemma closed_within (fs : List Frame) (hb : Closed b) (h : Closed (within a fs)) :
    Closed a ∧ Closed (within b fs) := by
  induction fs generalizing a b with
  | nil => exact ⟨h, hb⟩
  | cons f fs ih =>
    -- Anything closed may stand for the node until it is known that the node is closed.
    have ha : Closed (f.plug a) := (ih hb h).1
    obtain ⟨node, operand⟩ := (closed_plug f).1 ha
    exact ⟨operand, (ih ((closed_plug f).2 ⟨node, hb⟩) h).2⟩

lemma slotsOfAll_congr (h : slot a = slot b) :
    slotsOfAll (before ++ a :: after) = slotsOfAll (before ++ b :: after) := by
  induction before with
  | nil => rw [List.nil_append, List.nil_append, slotsOfAll, slotsOfAll, h]
  | cons e es ih => rw [List.cons_append, List.cons_append, slotsOfAll, slotsOfAll, ih]

/-- Of an operand only the slot matters that it evaluates to. -/
lemma slot_plug_congr (f : Frame) (h : slot a = slot b) : slot (f.plug a) = slot (f.plug b) := by
  cases f with
  | argument method before after =>
    rw [Frame.plug, Frame.plug, slot, slot, slotsOfAll_congr h]
  | invoked target method before after =>
    rw [Frame.plug, Frame.plug, slot, slot, slotsOfAll_congr h]
  | item before after => rw [Frame.plug, Frame.plug, slot, slot, slotsOfAll_congr h]
  | _ => simp only [Frame.plug, slot, h]

lemma slot_within_congr (fs : List Frame) (h : slot a = slot b) :
    slot (within a fs) = slot (within b fs) := by
  induction fs generalizing a b with
  | nil => exact h
  | cons f fs ih => exact ih (slot_plug_congr f h)

/-- A step that fails, whatever the step before it comes to, makes the two fail. -/
lemma exists_error_of_second {α β : Type} {x : Except EvaluationFault α}
    {f : α → Except EvaluationFault β} (h : ∀ a, ∃ y, f a = .error y) :
    ∃ y, x >>= f = .error y := by
  cases x with
  | error y => exact ⟨y, rfl⟩
  | ok a => exact h a

lemma slotsOfAll_error (h : slot a = .error fault) :
    ∃ y, slotsOfAll (before ++ a :: after) = .error y := by
  induction before with
  | nil => exact ⟨fault, by rw [List.nil_append, slotsOfAll, h]; rfl⟩
  | cons e es ih =>
    obtain ⟨y, hy⟩ := ih
    rw [List.cons_append, slotsOfAll]
    exact exists_error_of_second fun s => ⟨y, by rw [hy]; rfl⟩

/-- A fault of an operand makes the node fail, with this fault or one before it. -/
lemma slot_plug_error (f : Frame) (h : slot a = .error fault) :
    ∃ y, slot (f.plug a) = .error y := by
  cases f with
  | onRight op left =>
    rw [Frame.plug, slot]
    exact exists_error_of_second fun s => ⟨fault, by rw [h]; rfl⟩
  | argument method before after =>
    obtain ⟨y, hy⟩ := slotsOfAll_error h
    exact ⟨y, by rw [Frame.plug, slot, hy]; rfl⟩
  | invoked target method before after =>
    obtain ⟨y, hy⟩ := slotsOfAll_error h
    rw [Frame.plug, slot]
    exact exists_error_of_second fun s => ⟨y, by rw [hy]; rfl⟩
  | item before after =>
    obtain ⟨y, hy⟩ := slotsOfAll_error h
    exact ⟨y, by rw [Frame.plug, slot, hy]; rfl⟩
  | _ => exact ⟨fault, by rw [Frame.plug, slot, h]; rfl⟩

lemma slot_within_error (fs : List Frame) (h : slot a = .error fault) :
    ∃ y, slot (within a fs) = .error y := by
  induction fs generalizing a fault with
  | nil => exact ⟨fault, h⟩
  | cons f fs ih =>
    obtain ⟨y, hy⟩ := slot_plug_error f h
    exact ih hy

/-- What a connective comes to when its first operand decides it, given what the second is. -/
def decided (k : Connective) : Except Fault Value → Except Fault Value
  | .ok (.bool _) => .ok (.bool k.decisive)
  | .ok _ => .error (.evaluation (.booleanOperands k))
  | .error f => .error f

/-- The second operand is evaluated also where the first one decides. -/
lemma value_connective {k : Connective} (closed : Closed (.binary (.connective k) l r))
    (hl : value l = .ok (.bool k.decisive)) :
    value (.binary (.connective k) l r) = decided k (value r) := by
  have hr : Closed r := ((closed_plug (.onRight (.connective k) l)).1 closed).2
  have first : slot l = .ok (.value (.bool k.decisive)) := strict_eq_ok.1 (value_eq_ok.1 hl).2
  have second : direct (.binary (.connective k) l r) =
      direct r >>= fun v => connective k (.bool k.decisive) v := by
    rw [direct, direct, slot, first]
    cases slot r with
    | error fault => rfl
    | ok s =>
      cases s with
      | closure c => rfl
      | value v =>
        simp only [ok_bind, Slot.toValue, Evaluation.binary, pure_eq_ok]
        cases connective k (.bool k.decisive) v <;> rfl
  rw [value_of_closed closed, value_of_closed hr, second]
  cases direct r with
  | error fault => rfl
  | ok v => cases v <;> cases k <;> rfl

/-- Where a connective comes to a boolean, it may be replaced by it in every expression. -/
lemma value_within_congr {fs : List Frame} (ha : Closed (within a fs)) (hb : Closed b)
    (same : slot a = slot b) : value (within a fs) = value (within b fs) := by
  rw [value_of_closed ha, value_of_closed (closed_within fs hb ha).2, direct, direct,
    slot_within_congr fs same]

lemma value_within_error {fs : List Frame} (ha : Closed (within a fs))
    (fails : slot a = .error fault) : ∃ y, value (within a fs) = .error y := by
  obtain ⟨y, hy⟩ := slot_within_error fs fails
  exact ⟨.evaluation y, by rw [value_of_closed ha, direct, hy]; rfl⟩

/--
A connective of which the first operand decides comes to what it decides just if the second operand
is a boolean. If that one fails its fault is that of the connective, and if it is anything else than
a boolean the connective fails itself. In an expression around it, at any depth, the connective may
be replaced by what it comes to, and if it fails the expression fails too.
-/
theorem EvaluatorCache.evaluate_decided {hash : Expr → UInt64} {c : EvaluatorCache}
    (reachable : c.Reachable hash) (k : Connective) {l r : Expr} (fs : List Frame)
    (closed : Closed (within (.binary (.connective k) l r) fs))
    (first : (c.evaluate hash l).1 = .ok (.bool k.decisive)) :
    let whole := within (.binary (.connective k) l r) fs
    let settled := within (.constant (.bool k.decisive)) fs
    (c.evaluate hash (.binary (.connective k) l r)).1 = decided k (c.evaluate hash r).1 ∧
    ((∃ b, (c.evaluate hash r).1 = .ok (.bool b)) →
      (c.evaluate hash whole).1 = (c.evaluate hash settled).1) ∧
    ((¬∃ b, (c.evaluate hash r).1 = .ok (.bool b)) →
      ∃ fault, (c.evaluate hash whole).1 = .error fault) := by
  intro whole settled
  have evaluates (e : Expr) : (c.evaluate hash e).1 = value e := (reachable.sound.evaluate e).1
  simp only [evaluates] at first ⊢
  have literal : Closed (.constant (.bool k.decisive)) := ⟨rfl, rfl⟩
  have node := (closed_within fs literal closed).1
  have comes := value_connective node first
  refine ⟨comes, fun ⟨b, hb⟩ => ?_, fun other => ?_⟩
  · rw [hb] at comes
    refine value_within_congr closed literal ?_
    exact strict_eq_ok.1 (value_eq_ok.1 comes).2
  · cases h : slot (.binary (.connective k) l r) with
    | error fault => exact value_within_error closed h
    | ok s =>
      -- A connective that has a slot has a value, and the second operand is a boolean then.
      exfalso
      cases s with
      | closure captured => cases eq_closure_of_slot h
      | value v =>
        rw [value_eq_ok.2 ⟨node, strict_eq_ok.2 h⟩] at comes
        unfold decided at comes
        split at comes
        next b hb => exact other ⟨b, hb⟩
        next => cases comes
        next => cases comes

/-- What holds is decisive beside another boolean, and the disjunction fails beside null. -/
theorem EvaluatorCache.evaluate_decided_either :
    let c := EvaluatorCache.empty 4
    let first : Expr := .binary (.comparison .lt) (.constant (.int32 1)) (.constant (.int32 2))
    let other (second : Expr) : Expr := .not (.binary (.connective .or) first second)
    (c.evaluate Expr.shapeHash first).1 = .ok (.bool true) ∧
      (c.evaluate Expr.shapeHash (other (.constant (.bool false)))).1 =
        (c.evaluate Expr.shapeHash (.not (.constant (.bool true)))).1 ∧
      ∃ fault, (c.evaluate Expr.shapeHash (other (.constant .null))).1 = .error fault := by
  intro c first other
  have reachable : c.Reachable Expr.shapeHash := .empty 4
  have holds : (c.evaluate Expr.shapeHash first).1 = .ok (.bool true) := rfl
  refine ⟨holds, ?_, ?_⟩
  · exact (EvaluatorCache.evaluate_decided reachable .or [.not] ⟨rfl, rfl⟩ holds).2.1 ⟨false, rfl⟩
  · exact (EvaluatorCache.evaluate_decided reachable .or [.not] ⟨rfl, rfl⟩ holds).2.2 nofun

/-- The length of a captured name is read also where the name is tested for null before it. -/
theorem not_shortCircuit_guard :
    let name : Expr := .member (.closure ⟨"Scope", [("name", .null)]⟩) "name"
    let guarded : Expr := .binary (.comparison .ne) name (.constant .null)
    let longer : Expr :=
      .binary (.comparison .gt) (.member name "Length") (.constant (.int32 3))
    Closed guarded ∧ Closed longer ∧ value guarded = .ok (.bool false) ∧
      value (.binary (.connective .and) guarded longer) =
        .error (.evaluation (.memberOfValue "Length" .null)) :=
  ⟨⟨rfl, rfl⟩, ⟨rfl, rfl⟩, rfl, rfl⟩

end Evaluation

end RelMap
