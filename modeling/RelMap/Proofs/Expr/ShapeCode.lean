import RelMap.Proofs.Code
import RelMap.Proofs.Expr.Shape

/-!
# The codes of shapes

Two expressions are of one shape if and only if their codes are the same, and no code goes on where
another ends. So the hash of a shape is that of a sequence which tells the shape, and expressions of
different shapes have one hash only if the hash of bytes takes two sequences for one.
-/

namespace RelMap

variable {β : Type} {write : Token → List β} {fits : Nat → Prop} {x y : List β}

/-- There are at most sixteen operators with two operands. -/
lemma BinaryOp.number_lt (op : BinaryOp) : op.number < 16 := by
  rcases op with (_ | _ | _ | _ | _ | _) | (_ | _) | (_ | _ | _ | _ | _) | _ <;> decide

/-- The number of an operator says which one it is. -/
lemma BinaryOp.number_inj {o p : BinaryOp} (h : o.number = p.number) : o = p := by
  rcases o with (_ | _ | _ | _ | _ | _) | (_ | _) | (_ | _ | _ | _ | _) | _ <;>
    rcases p with (_ | _ | _ | _ | _ | _) | (_ | _) | (_ | _ | _ | _ | _) | _ <;>
    first | rfl | cases h

/-- The code of a method can be read off what it begins. -/
lemma Legible.method (legible : Legible write fits) {m n : Method}
    (h : m.code.flatMap write ++ x = n.code.flatMap write ++ y) : m = n ∧ x = y := by
  cases m <;> cases n <;>
    simp only [Method.code, List.flatMap_cons, List.flatMap_nil, List.append_nil,
      List.append_assoc] at h <;>
    obtain ⟨number, h⟩ := legible.tag (by decide) (by decide) h <;>
    try cases number
  case named.named =>
    obtain ⟨rfl, rest⟩ := legible.ofString h
    exact ⟨rfl, rest⟩
  all_goals exact ⟨rfl, h⟩

namespace Expr

mutual

/-- The lengths of all lists in an expression. -/
def lengths : Expr → List Nat
  | .parameter _ => []
  | .constant _ => []
  | .closure _ => []
  | .member target _ => lengths target
  | .binary _ left right => lengths left ++ lengths right
  | .not operand => lengths operand
  | .negate operand => lengths operand
  | .convert _ operand => lengths operand
  | .call _ args => args.length :: lengthsOfAll args
  | .invoke target _ args => args.length :: (lengths target ++ lengthsOfAll args)
  | .list items => items.length :: lengthsOfAll items

/-- The lengths of all lists in several expressions. -/
def lengthsOfAll : List Expr → List Nat
  | [] => []
  | e :: es => lengths e ++ lengthsOfAll es

end

mutual

/-- Expressions of the same shape have the same code. -/
theorem shapeCode_eq_of_sameShape {a b : Expr} (same : sameShape a b = true) :
    shapeCode a = shapeCode b := by
  cases a <;> cases b <;>
    simp only [sameShape, Bool.and_eq_true, beq_iff_eq, Bool.false_eq_true] at same <;>
    simp only [shapeCode]
  case member.member => rw [same.1, shapeCode_eq_of_sameShape same.2]
  case constant.constant => rw [same]
  case closure.closure => rw [same]
  case binary.binary =>
    rw [same.1.1, shapeCode_eq_of_sameShape same.1.2, shapeCode_eq_of_sameShape same.2]
  case not.not => rw [shapeCode_eq_of_sameShape same]
  case negate.negate => rw [shapeCode_eq_of_sameShape same]
  case convert.convert => rw [same.1, shapeCode_eq_of_sameShape same.2]
  case call.call =>
    rw [same.1, length_eq_of_sameShapes same.2, shapeCodes_eq_of_sameShapes same.2]
  case invoke.invoke =>
    rw [same.1.1, shapeCode_eq_of_sameShape same.1.2, length_eq_of_sameShapes same.2,
      shapeCodes_eq_of_sameShapes same.2]
  case list.list => rw [length_eq_of_sameShapes same, shapeCodes_eq_of_sameShapes same]

/-- The same for several expressions. -/
theorem shapeCodes_eq_of_sameShapes {as bs : List Expr} (same : sameShapes as bs = true) :
    shapeCodes as = shapeCodes bs := by
  cases as <;> cases bs <;> simp only [sameShapes, Bool.and_eq_true, Bool.false_eq_true] at same
  case nil.nil => rfl
  case cons.cons =>
    rw [shapeCodes, shapeCodes, shapeCode_eq_of_sameShape same.1,
      shapeCodes_eq_of_sameShapes same.2]

end

mutual

/--
A shape is read back from its code, whatever follows. Each node begins with the tag of its kind and
tells how many operands there are, so the two codes are split at the same places.
-/
theorem sameShape_of_legible (legible : Legible write fits) {a b : Expr} {x y : List β}
    (short : ∀ n ∈ a.lengths, fits n) (short' : ∀ n ∈ b.lengths, fits n)
    (h : a.shapeCode.flatMap write ++ x = b.shapeCode.flatMap write ++ y) :
    sameShape a b = true ∧ x = y := by
  cases a <;> cases b <;>
    simp only [shapeCode, List.cons_append, List.append_assoc, List.flatMap_cons,
      List.flatMap_append, List.flatMap_nil, List.append_nil] at h <;>
    obtain ⟨number, h⟩ := legible.tag (by decide) (by decide) h <;>
    try cases number
  -- Calls have one tag, with a target or without; only the flag tells them apart.
  all_goals simp only [lengths, List.forall_mem_cons, List.forall_mem_append] at short short'
  all_goals simp only [sameShape, Bool.and_eq_true, beq_iff_eq]
  case parameter.parameter => exact ⟨trivial, h⟩
  case member.member =>
    obtain ⟨name, h⟩ := legible.ofString h
    obtain ⟨target, rest⟩ := sameShape_of_legible legible short short' h
    exact ⟨⟨name, target⟩, rest⟩
  case constant.constant =>
    obtain ⟨kind, rest⟩ := legible.tag (Kind.number_lt _) (Kind.number_lt _) h
    exact ⟨Kind.number_inj kind, rest⟩
  case closure.closure => exact legible.ofString h
  case binary.binary =>
    obtain ⟨op, h⟩ := legible.tag (BinaryOp.number_lt _) (BinaryOp.number_lt _) h
    obtain ⟨left, h⟩ := sameShape_of_legible legible short.1 short'.1 h
    obtain ⟨right, rest⟩ := sameShape_of_legible legible short.2 short'.2 h
    exact ⟨⟨⟨BinaryOp.number_inj op, left⟩, right⟩, rest⟩
  case not.not => exact sameShape_of_legible legible short short' h
  case negate.negate => exact sameShape_of_legible legible short short' h
  case convert.convert =>
    obtain ⟨kind, h⟩ := legible.tag (Kind.number_lt _) (Kind.number_lt _) h
    obtain ⟨operand, rest⟩ := sameShape_of_legible legible short short' h
    exact ⟨⟨Kind.number_inj kind, operand⟩, rest⟩
  case call.call =>
    obtain ⟨method, h⟩ := legible.method h
    obtain ⟨-, h⟩ := legible.flag h
    obtain ⟨length, h⟩ := legible.count short.1 short'.1 h
    obtain ⟨args, rest⟩ := sameShapes_of_legible legible short.2 short'.2 length h
    exact ⟨⟨method, args⟩, rest⟩
  case call.invoke =>
    obtain ⟨-, h⟩ := legible.method h
    cases (legible.flag h).1
  case invoke.call =>
    obtain ⟨-, h⟩ := legible.method h
    cases (legible.flag h).1
  case invoke.invoke =>
    obtain ⟨method, h⟩ := legible.method h
    obtain ⟨-, h⟩ := legible.flag h
    obtain ⟨target, h⟩ := sameShape_of_legible legible short.2.1 short'.2.1 h
    obtain ⟨length, h⟩ := legible.count short.1 short'.1 h
    obtain ⟨args, rest⟩ := sameShapes_of_legible legible short.2.2 short'.2.2 length h
    exact ⟨⟨⟨method, target⟩, args⟩, rest⟩
  case list.list =>
    obtain ⟨length, h⟩ := legible.count short.1 short'.1 h
    exact sameShapes_of_legible legible short.2 short'.2 length h

/-- The same for lists of one length. -/
theorem sameShapes_of_legible (legible : Legible write fits) {as bs : List Expr} {x y : List β}
    (short : ∀ n ∈ lengthsOfAll as, fits n) (short' : ∀ n ∈ lengthsOfAll bs, fits n)
    (length : as.length = bs.length)
    (h : (shapeCodes as).flatMap write ++ x = (shapeCodes bs).flatMap write ++ y) :
    sameShapes as bs = true ∧ x = y := by
  cases as <;> cases bs
  case nil.nil => exact ⟨rfl, h⟩
  case nil.cons => cases length
  case cons.nil => cases length
  case cons.cons =>
    simp only [lengthsOfAll, List.forall_mem_append] at short short'
    simp only [shapeCodes, List.flatMap_append, List.append_assoc] at h
    obtain ⟨first, h⟩ := sameShape_of_legible legible short.1 short'.1 h
    obtain ⟨others, rest⟩ :=
      sameShapes_of_legible legible short.2 short'.2 (Nat.succ.inj length) h
    exact ⟨Bool.and_eq_true_iff.mpr ⟨first, others⟩, rest⟩

end

variable {a b : Expr}

/-- No code of a shape goes on where that of another shape ends. -/
theorem sameShape_of_isPrefix_written (legible : Legible write fits) (short : ∀ n ∈ a.lengths, fits n)
    (short' : ∀ n ∈ b.lengths, fits n)
    (h : a.shapeCode.flatMap write <+: b.shapeCode.flatMap write) : sameShape a b = true := by
  obtain ⟨rest, h⟩ := h
  rw [← List.append_nil (b.shapeCode.flatMap write)] at h
  exact (sameShape_of_legible legible short short' h).1

/-- No code begins another one, but for expressions of the same shape. -/
theorem sameShape_of_isPrefix_shapeCode (h : a.shapeCode <+: b.shapeCode) :
    sameShape a b = true := by
  refine sameShape_of_isPrefix_written .tokens (fun _ _ => trivial) (fun _ _ => trivial) ?_
  rw [List.flatMap_singleton', List.flatMap_singleton']
  exact h

/-- Expressions have the same shape if and only if they have the same code. -/
theorem sameShape_iff_shapeCode_eq : sameShape a b = true ↔ a.shapeCode = b.shapeCode :=
  ⟨shapeCode_eq_of_sameShape, fun h => sameShape_of_isPrefix_shapeCode (h ▸ List.prefix_refl _)⟩

/-- Having the same shape is an equivalence. -/
theorem sameShape_equivalence : Equivalence fun a b : Expr => sameShape a b = true where
  refl _ := sameShape_iff_shapeCode_eq.mpr rfl
  symm h := sameShape_iff_shapeCode_eq.mpr (sameShape_iff_shapeCode_eq.mp h).symm
  trans h g := sameShape_iff_shapeCode_eq.mpr
    ((sameShape_iff_shapeCode_eq.mp h).trans (sameShape_iff_shapeCode_eq.mp g))

/--
Two expressions are of one shape if and only if what is hashed for them is the same, as tokens and
as bytes, and neither is ever a proper part of the other from its beginning on. So to be of one
shape is an equivalence, expressions of one shape have one hash, and two of different shapes that
have one hash are a collision of the hash of bytes. Bytes have eight places for the length of a
list, which is enough for all that a machine can hold.
-/
theorem sameShape_iff_hashed_alike :
    (∀ a b : Expr, (sameShape a b = true ↔ a.shapeCode = b.shapeCode)
      ∧ (a.shapeCode <+: b.shapeCode → a.shapeCode = b.shapeCode)
      ∧ (sameShape a b = true → a.shapeHash = b.shapeHash))
    ∧ (Equivalence fun a b : Expr => sameShape a b = true)
    ∧ ∀ a b : Expr, (∀ n ∈ a.lengths, n < UInt64.size) → (∀ n ∈ b.lengths, n < UInt64.size) →
      (sameShape a b = true ↔ a.shapeCode.bytes = b.shapeCode.bytes)
      ∧ (a.shapeCode.bytes <+: b.shapeCode.bytes → a.shapeCode.bytes = b.shapeCode.bytes)
      ∧ (sameShape a b = false → a.shapeHash = b.shapeHash →
        ∃ s t : List UInt8, s = a.shapeCode.bytes ∧ t = b.shapeCode.bytes ∧ s ≠ t
          ∧ hashBytes s = hashBytes t) := by
  refine ⟨fun a b => ⟨sameShape_iff_shapeCode_eq, fun h => ?_, fun same => ?_⟩,
    sameShape_equivalence, fun a b short short' => ?_⟩
  · exact shapeCode_eq_of_sameShape (sameShape_of_isPrefix_shapeCode h)
  · rw [shapeHash, shapeHash, shapeCode_eq_of_sameShape same]
  · have read : a.shapeCode.bytes <+: b.shapeCode.bytes → sameShape a b = true :=
      sameShape_of_isPrefix_written .bytes short short'
    have written (same : sameShape a b = true) : a.shapeCode.bytes = b.shapeCode.bytes :=
      congrArg Code.bytes (shapeCode_eq_of_sameShape same)
    refine ⟨⟨written, fun h => read (h ▸ List.prefix_refl _)⟩, fun h => written (read h),
      fun other hash => ⟨_, _, rfl, rfl, fun h => ?_, hash⟩⟩
    rw [read (h ▸ List.prefix_refl _)] at other
    cases other

/-- Whether a property is one of two numbers, twice, with other names and numbers. -/
theorem sameShape_iff_hashed_alike_membership :
    sameShape
        (.call .contains [.list [.constant (.int32 1), .constant (.int32 2)],
          .member (.parameter "x") "A"])
        (.call .contains [.list [.constant (.int32 7), .constant (.int32 7)],
          .member (.parameter "y") "A"]) = true :=
  ((sameShape_iff_hashed_alike.2.2 _ _ (by decide) (by decide)).1).mpr rfl

end Expr

end RelMap
