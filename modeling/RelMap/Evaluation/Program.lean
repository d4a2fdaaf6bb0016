import RelMap.Evaluation.Operators
import RelMap.Expr.Shape

/-!
# Evaluators as programs

An expression that does not read the entity is compiled into a postfix program. A program holds no
values: it fetches constants and captured objects, in order, from the expression that it is run
on, so that expressions of one shape share one program.
-/

namespace RelMap.Evaluation

/-- One step of a program. -/
inductive Instruction where
  /-- Push the next constant. -/
  | literal
  /-- Push the next captured object. -/
  | capture
  | member (name : String)
  | binary (op : BinaryOp)
  | not
  | negate
  | convert (target : Kind)
  /-- A call without a target, with so many arguments. -/
  | call (method : Method) (arity : Nat)
  /-- A call on a target, with so many arguments. -/
  | invoke (method : Method) (arity : Nat)
  /-- A list of the last so many values. -/
  | list (length : Nat)
  deriving DecidableEq

/-- A constant or a captured object of an expression. -/
inductive Leaf where
  | value (v : Value)
  | closure (c : Closure)

/-- The evaluator of a shape. -/
structure Program where
  /-- The steps, in order. -/
  instructions : List Instruction
  /-- How many leaves the steps fetch. -/
  leafCount : Nat
  deriving DecidableEq

/-- The program that does nothing. -/
def Program.empty : Program := ⟨[], 0⟩

/-- A program of one step that fetches no leaf. -/
def Program.one (i : Instruction) : Program := ⟨[i], 0⟩

/-- A program of one step that fetches a leaf. -/
def Program.fetch (i : Instruction) : Program := ⟨[i], 1⟩

/-- One program after the other. -/
instance : Append Program :=
  ⟨fun p q => ⟨p.instructions ++ q.instructions, p.leafCount + q.leafCount⟩⟩

mutual

/-- The leaves of an expression, from left to right. -/
def leaves : Expr → List Leaf
  | .parameter _ => []
  | .constant value => [.value value]
  | .closure captured => [.closure captured]
  | .member target _ => leaves target
  | .binary _ left right => leaves left ++ leaves right
  | .not operand => leaves operand
  | .negate operand => leaves operand
  | .convert _ operand => leaves operand
  | .call _ args => leavesOfAll args
  | .invoke target _ args => leaves target ++ leavesOfAll args
  | .list items => leavesOfAll items

/-- The leaves of several expressions. -/
def leavesOfAll : List Expr → List Leaf
  | [] => []
  | e :: es => leaves e ++ leavesOfAll es

end

/-- A method known by its name only has no program. -/
def checkMethod : Method → Except Fault Unit
  | .named name => .error (.unsupported (.method name))
  | _ => .ok ()

mutual

/-- The program of an expression, which must not read the entity. -/
def Program.ofExpr : Expr → Except Fault Program
  | .parameter name => .error (.unsupported (.clientParameter name))
  | .constant _ => .ok (.fetch .literal)
  | .closure _ => .ok (.fetch .capture)
  | .member target name => do
    let t ← Program.ofExpr target
    return t ++ .one (.member name)
  | .binary op left right => do
    let l ← Program.ofExpr left
    let r ← Program.ofExpr right
    return l ++ r ++ .one (.binary op)
  | .not operand => do
    let o ← Program.ofExpr operand
    return o ++ .one .not
  | .negate operand => do
    let o ← Program.ofExpr operand
    return o ++ .one .negate
  | .convert target operand => do
    let o ← Program.ofExpr operand
    return o ++ .one (.convert target)
  | .call method args => do
    checkMethod method
    let a ← Program.ofAll args
    return a ++ .one (.call method args.length)
  | .invoke target method args => do
    checkMethod method
    let t ← Program.ofExpr target
    let a ← Program.ofAll args
    return t ++ a ++ .one (.invoke method args.length)
  | .list items => do
    let i ← Program.ofAll items
    return i ++ .one (.list items.length)

/-- The programs of several expressions, one after the other. -/
def Program.ofAll : List Expr → Except Fault Program
  | [] => .ok .empty
  | e :: es => do
    let first ← Program.ofExpr e
    let rest ← Program.ofAll es
    return first ++ rest

end

/-- What a running program has on its stack. -/
inductive Slot where
  | value (v : Value)
  | closure (c : Closure)

/-- The value of a slot; a captured object is none. -/
def Slot.toValue : Slot → Except EvaluationFault Value
  | .value v => .ok v
  | .closure c => .error (.closureAsValue c.typeName)

/-- The member of a slot. -/
def Slot.member (name : String) : Slot → Except EvaluationFault Value
  | .closure c =>
    match c.field? name with
    | some v => .ok v
    | none => .error (.missingField c.typeName name)
  | .value v => readMember name v

/-- The state of a running program. -/
structure Machine where
  /-- The leaves not yet fetched. -/
  leaves : List Leaf
  /-- The stack, top first. -/
  stack : List Slot

/-- The value on top of a stack and the rest of the stack. -/
def pop : List Slot → Except EvaluationFault (Value × List Slot)
  | [] => .error .shapeMismatch
  | s :: rest => do
    let v ← s.toValue
    return (v, rest)

/-- The topmost values of a stack, the deepest of them first, and the rest of the stack. -/
def popMany : Nat → List Slot → Except EvaluationFault (List Value × List Slot)
  | 0, stack => .ok ([], stack)
  | n + 1, stack => do
    let (last, below) ← pop stack
    let (others, rest) ← popMany n below
    return (others ++ [last], rest)

/-- One step of a running program. -/
def step (m : Machine) : Instruction → Except EvaluationFault Machine
  | .literal =>
    match m.leaves with
    | .value v :: rest => .ok ⟨rest, .value v :: m.stack⟩
    | _ => .error .shapeMismatch
  | .capture =>
    match m.leaves with
    | .closure c :: rest => .ok ⟨rest, .closure c :: m.stack⟩
    | _ => .error .shapeMismatch
  | .member name =>
    match m.stack with
    | [] => .error .shapeMismatch
    | s :: rest => do
      let v ← s.member name
      return { m with stack := .value v :: rest }
  | .binary op => do
    let (r, below) ← pop m.stack
    let (l, rest) ← pop below
    let v ← Evaluation.binary op l r
    return { m with stack := .value v :: rest }
  | .not => do
    let (o, rest) ← pop m.stack
    let v ← negation o
    return { m with stack := .value v :: rest }
  | .negate => do
    let (o, rest) ← pop m.stack
    let v ← Evaluation.negate o
    return { m with stack := .value v :: rest }
  | .convert target => do
    let (o, rest) ← pop m.stack
    let v ← Evaluation.convert target o
    return { m with stack := .value v :: rest }
  | .call method arity => do
    let (args, rest) ← popMany arity m.stack
    let v ← staticCall method args
    return { m with stack := .value v :: rest }
  | .invoke method arity => do
    let (args, below) ← popMany arity m.stack
    let (target, rest) ← pop below
    let v ← targetCall method target args
    return { m with stack := .value v :: rest }
  | .list length => do
    let (items, rest) ← popMany length m.stack
    return { m with stack := .value (.list items) :: rest }

/-- Several steps, one after the other. -/
def steps (m : Machine) : List Instruction → Except EvaluationFault Machine
  | [] => .ok m
  | i :: rest => do
    let next ← step m i
    steps next rest

/-- The result that a finished program leaves on its stack. -/
def result (m : Machine) : Except EvaluationFault Value :=
  match m.stack with
  | [s] => s.toValue
  | _ => .error .shapeMismatch

/-- A program run on an expression, which has to be of the program's shape. -/
def Program.run (p : Program) (e : Expr) : Except EvaluationFault Value := do
  if (leaves e).length ≠ p.leafCount then .error .shapeMismatch
  else
    let m ← steps ⟨leaves e, []⟩ p.instructions
    result m

end RelMap.Evaluation
