import RelMap.Fault
import RelMap.Text.Blank
import RelMap.Text.Case

/-!
# Operators on values

What the operators, conversions and methods of a filter do with values that are known beforehand.
Integers are exact or fail, numbers of different kinds meet as doubles, and a null makes arithmetic
null and every ordering false.
-/

namespace RelMap.Evaluation

/-- A number as far as comparison and arithmetic are concerned. -/
inductive Numeric where
  | integer (i : Int)
  | float (x : Binary64)

/-- The number that a value is, if it is one. -/
def numeric? : Value → Option Numeric
  | .int32 i => some (.integer i.toInt)
  | .int64 i => some (.integer i.toInt)
  | .float32 x => some (.float x.toBinary64)
  | .float64 x => some (.float x)
  | _ => none

/-- A number as the nearest double. -/
def Numeric.toBinary64 : Numeric → Binary64
  | .integer i => .ofInt i
  | .float x => x

/-- The order of two numbers; integers are compared exactly. -/
def Numeric.compare : Numeric → Numeric → Option Ordering
  | .integer a, .integer b => some (Ord.compare a b)
  | a, b => a.toBinary64.compare b.toBinary64

/-- The order of two values, where their kinds have one. -/
def compare? (l r : Value) : Option Ordering :=
  match numeric? l, numeric? r with
  | some a, some b => a.compare b
  | _, _ =>
    match l, r with
    | .bool a, .bool b => some (Ord.compare a b)
    | .string a, .string b => some (Ord.compare a b)
    | .bytes a, .bytes b => some (Ord.compare a b)
    | .timestamp a, .timestamp b => some (Ord.compare a.toInt b.toInt)
    | .uuid a, .uuid b => some (Ord.compare a.toList b.toList)
    | _, _ => none

/-- Whether two values are equal: null is equal to itself only, numbers of any kind are compared. -/
def equal : Value → Value → Bool
  | .null, .null => true
  | .null, _ => false
  | _, .null => false
  | l, r => compare? l r == some .eq || decide (l = r)

/-- What an ordering means for a comparison. -/
def Comparison.holds : Comparison → Ordering → Bool
  | .eq, o => o == .eq
  | .ne, o => o != .eq
  | .lt, o => o == .lt
  | .le, o => o != .gt
  | .gt, o => o == .gt
  | .ge, o => o != .lt

/-- The ordering of two values by one of the four orders; with a null nothing holds. -/
def order (op : Comparison) (l r : Value) : Except EvaluationFault Value :=
  if l.isNull || r.isNull then .ok (.bool false)
  else
    match compare? l r with
    | some o => .ok (.bool (Comparison.holds op o))
    | none => .error (.incomparable l.kind r.kind)

/-- A comparison of two values. -/
def comparison (op : Comparison) (l r : Value) : Except EvaluationFault Value :=
  match op with
  | .eq => .ok (.bool (equal l r))
  | .ne => .ok (.bool (!equal l r))
  | .lt | .le | .gt | .ge => order op l r

/-- Two booleans connected. -/
def connective (op : Connective) (l r : Value) : Except EvaluationFault Value :=
  match l, r with
  | .bool a, .bool b =>
    .ok (.bool (match op with | .and => a && b | .or => a || b))
  | _, _ => .error (.booleanOperands op)

/-- Whether an integer has 32 bits. -/
def fits32 (i : Int) : Bool := decide (-0x80000000 ≤ i) && decide (i < 0x80000000)

/-- Whether an integer has 64 bits. -/
def fits64 (i : Int) : Bool :=
  decide (-0x8000000000000000 ≤ i) && decide (i < 0x8000000000000000)

/--
The exact result of an operation on integers, if it fits. A division truncates toward zero, and a
remainder is refused where its quotient does not fit.
-/
def integerArithmetic (fits : Int → Bool) (op : Arithmetic) (l r : Int) :
    Except EvaluationFault Int :=
  let checked (i : Int) : Except EvaluationFault Int :=
    if fits i then .ok i else .error (.overflow op)
  match op with
  | .add => checked (l + r)
  | .sub => checked (l - r)
  | .mul => checked (l * r)
  | .div => if r = 0 then .error .divisionByZero else checked (l.tdiv r)
  | .mod =>
    if r = 0 then .error .divisionByZero
    else if fits (l.tdiv r) then .ok (l.tmod r)
    else .error (.overflow op)

/-- The rounded result of an operation on doubles. -/
def floatArithmetic (op : Arithmetic) (l r : Binary64) : Binary64 :=
  match op with
  | .add => l.add r
  | .sub => l.sub r
  | .mul => l.mul r
  | .div => l.div r
  | .mod => l.rem r

/-- An operation on two numbers of any kinds. -/
def numericArithmetic (op : Arithmetic) (l r : Value) : Except EvaluationFault Value :=
  match numeric? l, numeric? r with
  | some (.integer a), some (.integer b) =>
    (integerArithmetic fits64 op a b).map fun i => .int64 (Int64.ofInt i)
  | some a, some b => .ok (.float64 (floatArithmetic op a.toBinary64 b.toBinary64))
  | _, _ => .error (.undefinedOperation op l.kind r.kind)

/-- An arithmetic operation; strings can be added, and two narrow integers give a narrow one. -/
def arithmetic (op : Arithmetic) (l r : Value) : Except EvaluationFault Value :=
  if l.isNull || r.isNull then .ok .null
  else
    match op, l, r with
    | .add, .string a, .string b => .ok (.string (a ++ b))
    | _, .int32 a, .int32 b =>
      (integerArithmetic fits32 op a.toInt b.toInt).map fun i => .int32 (Int32.ofInt i)
    | _, _, _ => numericArithmetic op l r

/-- A binary operator. -/
def binary (op : BinaryOp) (l r : Value) : Except EvaluationFault Value :=
  match op with
  | .comparison c => comparison c l r
  | .connective k => connective k l r
  | .arithmetic a => arithmetic a l r
  | .coalesce => .ok (if l.isNull then r else l)

/-- The negation of a boolean; null stays null. -/
def negation : Value → Except EvaluationFault Value
  | .bool b => .ok (.bool !b)
  | .null => .ok .null
  | v => .error (.negation v.kind)

/-- A number with the other sign, if it fits. -/
def negate : Value → Except EvaluationFault Value
  | .null => .ok .null
  | .int32 i =>
    if fits32 (-i.toInt) then .ok (.int32 (Int32.ofInt (-i.toInt))) else .error .negationOverflow
  | .int64 i =>
    if fits64 (-i.toInt) then .ok (.int64 (Int64.ofInt (-i.toInt))) else .error .negationOverflow
  | .float32 x => .ok (.float32 x.neg)
  | .float64 x => .ok (.float64 x.neg)
  | v => .error (.negation v.kind)

/-- The greatest number not above the upper and not below the lower bound of 64 bits. -/
def clamp64 (i : Int) : Int := max (-0x8000000000000000) (min i 0x7fffffffffffffff)

/-- A finite number truncated toward zero and limited to 64 bits. -/
def truncate64 (x : Binary64) : Option Int := x.datum.truncate.map clamp64

/-- A value as one of another kind, where the two kinds have a conversion. -/
def convertTo (target : Kind) (v : Value) : Option Value :=
  match v, target with
  | .int32 i, .int64 => some (.int64 i.toInt64)
  | .int32 i, .float32 => some (.float32 (.ofInt i.toInt))
  | .int32 i, .float64 => some (.float64 (.ofInt i.toInt))
  | .int64 i, .int32 => if fits32 i.toInt then some (.int32 i.toInt32) else none
  | .int64 i, .float32 => some (.float32 (.ofInt i.toInt))
  | .int64 i, .float64 => some (.float64 (.ofInt i.toInt))
  | .int64 i, .timestamp => some (.timestamp i)
  | .timestamp t, .int64 => some (.int64 t)
  | .float32 x, .float64 => some (.float64 x.toBinary64)
  | .float64 x, .float32 => some (.float32 x.toBinary32)
  | .float32 x, .int32 => narrow x.toBinary64
  | .float64 x, .int32 => narrow x
  | .float32 x, .int64 => wide x.toBinary64
  | .float64 x, .int64 => wide x
  | _, _ => none
where
  /-- A double truncated to 32 bits, where it fits. -/
  narrow (x : Binary64) : Option Value :=
    match truncate64 x with
    | some i => if fits32 i then some (.int32 (Int32.ofInt i)) else none
    | none => none
  /-- A double truncated and limited to 64 bits. -/
  wide (x : Binary64) : Option Value := (truncate64 x).map fun i => .int64 (Int64.ofInt i)

/-- A conversion; null and values of the wanted kind stay as they are. -/
def convert (target : Kind) (v : Value) : Except EvaluationFault Value :=
  if v.isNull || v.kind = target then .ok v
  else
    match convertTo target v with
    | some w => .ok w
    | none => .error (.conversion v.kind target)

/-- How many there are, as a narrow integer. -/
def countValue (n : Nat) : Value := .int32 (Int32.ofNat n)

/-- A member of a value. -/
def readMember (name : String) (v : Value) : Except EvaluationFault Value :=
  match v, name with
  | .string s, "Length" => .ok (countValue s.toList.length)
  | .list items, "Count" => .ok (countValue items.length)
  | .list items, "Length" => .ok (countValue items.length)
  | .bytes content, "Length" => .ok (countValue content.length)
  | v, "HasValue" => .ok (.bool !v.isNull)
  | v, "Value" => if v.isNull then .error (.memberOfValue name v.kind) else .ok v
  | v, _ => .error (.memberOfValue name v.kind)

/-- A method of a string that gives a string. -/
def textMethod (method : Method) (s : String) : String :=
  match method with
  | .toLower => Text.lowercase s
  | .toUpper => Text.uppercase s
  | _ => Text.trim s

/-- A test of a string against a part. -/
def textTest (method : Method) (s part : String) : Bool :=
  match method with
  | .contains => Text.contains s part
  | .startsWith => Text.startsWith s part
  | _ => Text.endsWith s part

/-- Whether a list has an item equal to a value. -/
def holdsItem (items : List Value) (item : Value) : Bool := items.any (equal · item)

/-- A method called without a target; only membership is. -/
def staticCall (method : Method) (args : List Value) : Except EvaluationFault Value :=
  match method, args with
  | .contains, [.list items, item] => .ok (.bool (holdsItem items item))
  | .contains, [.null, _] => .error (.nullTarget method.name)
  | _, _ => .error (.badArguments method.name)

/-- A method called on a value. -/
def targetCall (method : Method) (target : Value) (args : List Value) :
    Except EvaluationFault Value :=
  match method, target, args with
  | .toLower, .string s, _ | .toUpper, .string s, _ | .trim, .string s, _ =>
    .ok (.string (textMethod method s))
  | .toLower, .null, _ | .toUpper, .null, _ | .trim, .null, _ => .error (.nullTarget method.name)
  | .contains, .null, _ | .startsWith, .null, _ | .endsWith, .null, _ =>
    .error (.nullTarget method.name)
  | .contains, .list items, [item] => .ok (.bool (holdsItem items item))
  | .contains, .string s, [.string part] | .startsWith, .string s, [.string part]
  | .endsWith, .string s, [.string part] => .ok (.bool (textTest method s part))
  | _, _, _ => .error (.badArguments method.name)

end RelMap.Evaluation
