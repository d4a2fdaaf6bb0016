import RelMap.Evaluation.Program

/-!
# Direct evaluation

The value of an expression by recursion on the expression: the operands from left to right, and
then the node's own operation. A captured object is no value, but a member of it is one; where
several operands are captured objects, the last one is reported.
-/

namespace RelMap.Evaluation

/-- The values of several slots; of those that have none the last one is reported. -/
def slotValues : List Slot → Except EvaluationFault (List Value)
  | [] => .ok []
  | s :: rest => do
    let vs ← slotValues rest
    let v ← s.toValue
    return v :: vs

mutual

/-- The slot that an expression evaluates to. -/
def slot : Expr → Except EvaluationFault Slot
  | .parameter _ => .error .shapeMismatch
  | .constant value => .ok (.value value)
  | .closure captured => .ok (.closure captured)
  | .member target name => do
    let t ← slot target
    let v ← t.member name
    return .value v
  | .binary op left right => do
    let l ← slot left
    let r ← slot right
    let rv ← r.toValue
    let lv ← l.toValue
    let v ← Evaluation.binary op lv rv
    return .value v
  | .not operand => do
    let o ← slot operand
    let ov ← o.toValue
    let v ← negation ov
    return .value v
  | .negate operand => do
    let o ← slot operand
    let ov ← o.toValue
    let v ← Evaluation.negate ov
    return .value v
  | .convert target operand => do
    let o ← slot operand
    let ov ← o.toValue
    let v ← Evaluation.convert target ov
    return .value v
  | .call method args => do
    let slots ← slotsOfAll args
    let vs ← slotValues slots
    let v ← staticCall method vs
    return .value v
  | .invoke target method args => do
    let t ← slot target
    let slots ← slotsOfAll args
    let vs ← slotValues slots
    let tv ← t.toValue
    let v ← targetCall method tv vs
    return .value v
  | .list items => do
    let slots ← slotsOfAll items
    let vs ← slotValues slots
    return .value (.list vs)

/-- The slots of several expressions, evaluated from left to right. -/
def slotsOfAll : List Expr → Except EvaluationFault (List Slot)
  | [] => .ok []
  | e :: es => do
    let s ← slot e
    let rest ← slotsOfAll es
    return s :: rest

end

/-- The value of an expression. -/
def direct (e : Expr) : Except EvaluationFault Value := do
  let s ← slot e
  s.toValue

end RelMap.Evaluation
