import Mathlib.Tactic.Lemma
import RelMap.Expr.Shape

/-!
# What a shape decides

Expressions of one shape read the entity alike, and their lists have the same lengths. Where none
reads the entity they are one expression up to their leaves.
-/

namespace RelMap

/-- Whether a method is known by its name only. -/
def Method.isNamed : Method → Bool
  | .named _ => true
  | _ => false

namespace Expr

mutual

/-- Whether a method that is known by its name only is called anywhere in an expression. -/
def callsNamed : Expr → Bool
  | .parameter _ => false
  | .constant _ => false
  | .closure _ => false
  | .member target _ => callsNamed target
  | .binary _ left right => callsNamed left || callsNamed right
  | .not operand => callsNamed operand
  | .negate operand => callsNamed operand
  | .convert _ operand => callsNamed operand
  | .call method args => method.isNamed || anyCallsNamed args
  | .invoke target method args => method.isNamed || callsNamed target || anyCallsNamed args
  | .list items => anyCallsNamed items

/-- Whether such a method is called in one of several expressions. -/
def anyCallsNamed : List Expr → Bool
  | [] => false
  | e :: es => callsNamed e || anyCallsNamed es

end

/-- Lists of one shape have one length. -/
lemma length_eq_of_sameShapes {es fs : List Expr} (same : sameShapes es fs = true) :
    es.length = fs.length := by
  induction es generalizing fs with
  | nil => cases fs with
    | nil => rfl
    | cons f fs => simp [sameShapes] at same
  | cons e es ih => cases fs with
    | nil => simp [sameShapes] at same
    | cons f fs =>
      simp only [sameShapes, Bool.and_eq_true] at same
      rw [List.length_cons, List.length_cons, ih same.2]

mutual

/-- Expressions of one shape read the entity, or none of them does. -/
theorem dependsOnParameter_eq_of_sameShape {e f : Expr} (same : sameShape e f = true) :
    dependsOnParameter e = dependsOnParameter f := by
  cases e <;> cases f <;> simp only [sameShape, Bool.and_eq_true, Bool.false_eq_true] at same <;>
    simp only [dependsOnParameter]
  case member.member => exact dependsOnParameter_eq_of_sameShape same.2
  case binary.binary =>
    rw [dependsOnParameter_eq_of_sameShape same.1.2, dependsOnParameter_eq_of_sameShape same.2]
  case not.not => exact dependsOnParameter_eq_of_sameShape same
  case negate.negate => exact dependsOnParameter_eq_of_sameShape same
  case convert.convert => exact dependsOnParameter_eq_of_sameShape same.2
  case call.call => exact anyDependsOnParameter_eq_of_sameShapes same.2
  case invoke.invoke =>
    rw [dependsOnParameter_eq_of_sameShape same.1.2, anyDependsOnParameter_eq_of_sameShapes same.2]
  case list.list => exact anyDependsOnParameter_eq_of_sameShapes same

/-- The same for several expressions. -/
theorem anyDependsOnParameter_eq_of_sameShapes {es fs : List Expr}
    (same : sameShapes es fs = true) : anyDependsOnParameter es = anyDependsOnParameter fs := by
  cases es <;> cases fs <;> simp only [sameShapes, Bool.and_eq_true, Bool.false_eq_true] at same
  case nil.nil => rfl
  case cons.cons =>
    simp only [anyDependsOnParameter]
    rw [dependsOnParameter_eq_of_sameShape same.1, anyDependsOnParameter_eq_of_sameShapes same.2]

end

mutual

/-- An expression with one value in place of all constants, and one object of all captured ones. -/
def marked (v : Value) (c : Closure) : Expr → Expr
  | .parameter name => .parameter name
  | .constant _ => .constant v
  | .closure _ => .closure c
  | .member target name => .member (marked v c target) name
  | .binary op left right => .binary op (marked v c left) (marked v c right)
  | .not operand => .not (marked v c operand)
  | .negate operand => .negate (marked v c operand)
  | .convert target operand => .convert target (marked v c operand)
  | .call method args => .call method (markedAll v c args)
  | .invoke target method args => .invoke (marked v c target) method (markedAll v c args)
  | .list items => .list (markedAll v c items)

/-- Several expressions with the same marks. -/
def markedAll (v : Value) (c : Closure) : List Expr → List Expr
  | [] => []
  | e :: es => marked v c e :: markedAll v c es

end

lemma length_markedAll (v : Value) (c : Closure) (es : List Expr) :
    (markedAll v c es).length = es.length := by
  induction es with
  | nil => rfl
  | cons e es ih => rw [markedAll, List.length_cons, List.length_cons, ih]

mutual

/--
Expressions of one shape are equal with the same marks. They may name the entity differently, so
this holds of expressions that do not read it.
-/
theorem marked_eq_of_sameShape (v : Value) (c : Closure) {e f : Expr}
    (free : dependsOnParameter e = false) (same : sameShape e f = true) :
    marked v c e = marked v c f := by
  cases e <;> cases f <;> simp only [sameShape, Bool.and_eq_true, beq_iff_eq, Bool.false_eq_true]
    at same <;>
    simp only [dependsOnParameter, Bool.or_eq_false_iff, Bool.true_eq_false] at free <;>
    simp only [marked]
  case member.member => rw [same.1, marked_eq_of_sameShape v c free same.2]
  case binary.binary =>
    rw [same.1.1, marked_eq_of_sameShape v c free.1 same.1.2,
      marked_eq_of_sameShape v c free.2 same.2]
  case not.not => rw [marked_eq_of_sameShape v c free same]
  case negate.negate => rw [marked_eq_of_sameShape v c free same]
  case convert.convert => rw [same.1, marked_eq_of_sameShape v c free same.2]
  case call.call => rw [same.1, markedAll_eq_of_sameShapes v c free same.2]
  case invoke.invoke =>
    rw [same.1.1, marked_eq_of_sameShape v c free.1 same.1.2,
      markedAll_eq_of_sameShapes v c free.2 same.2]
  case list.list => rw [markedAll_eq_of_sameShapes v c free same]

/-- The same for several expressions. -/
theorem markedAll_eq_of_sameShapes (v : Value) (c : Closure) {es fs : List Expr}
    (free : anyDependsOnParameter es = false) (same : sameShapes es fs = true) :
    markedAll v c es = markedAll v c fs := by
  cases es <;> cases fs <;> simp only [sameShapes, Bool.and_eq_true, Bool.false_eq_true] at same
  case nil.nil => rfl
  case cons.cons =>
    simp only [anyDependsOnParameter, Bool.or_eq_false_iff] at free
    rw [markedAll, markedAll, marked_eq_of_sameShape v c free.1 same.1,
      markedAll_eq_of_sameShapes v c free.2 same.2]

end

end Expr

end RelMap
