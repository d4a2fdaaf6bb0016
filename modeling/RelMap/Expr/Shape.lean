import RelMap.Code
import RelMap.Expr.Basic

/-!
# Shapes of expressions

The shape of an expression is the expression without the names of its parameter, the content of its
constants and the fields of its captured objects; the kind of a constant and the type of an object
belong to it. Evaluators are shared between expressions of one shape, so a shape also has a code
and a hash.
-/

namespace RelMap

/-- The code of a binary operator. -/
def BinaryOp.number : BinaryOp → Nat
  | .comparison .eq => 0
  | .comparison .ne => 1
  | .comparison .lt => 2
  | .comparison .le => 3
  | .comparison .gt => 4
  | .comparison .ge => 5
  | .connective .and => 6
  | .connective .or => 7
  | .arithmetic .add => 8
  | .arithmetic .sub => 9
  | .arithmetic .mul => 10
  | .arithmetic .div => 11
  | .arithmetic .mod => 12
  | .coalesce => 13

/-- The code of a method. -/
def Method.code : Method → Code
  | .contains => [.tag 0]
  | .startsWith => [.tag 1]
  | .endsWith => [.tag 2]
  | .toLower => [.tag 3]
  | .toUpper => [.tag 4]
  | .trim => [.tag 5]
  | .named name => .tag 6 :: Code.ofString name

namespace Expr

mutual

/-- Whether two expressions have one shape. -/
def sameShape : Expr → Expr → Bool
  | .parameter _, .parameter _ => true
  | .member a m, .member b n => m == n && sameShape a b
  | .constant a, .constant b => a.kind == b.kind
  | .closure a, .closure b => a.typeName == b.typeName
  | .binary o a b, .binary p c d => o == p && sameShape a c && sameShape b d
  | .not a, .not b => sameShape a b
  | .negate a, .negate b => sameShape a b
  | .convert k a, .convert l b => k == l && sameShape a b
  | .call m as, .call n bs => m == n && sameShapes as bs
  | .invoke a m as, .invoke b n bs => m == n && sameShape a b && sameShapes as bs
  | .list as, .list bs => sameShapes as bs
  | _, _ => false

/-- Whether two lists of expressions have the same shapes, item by item. -/
def sameShapes : List Expr → List Expr → Bool
  | [], [] => true
  | a :: as, b :: bs => sameShape a b && sameShapes as bs
  | _, _ => false

end

mutual

/-- The code of a shape. -/
def shapeCode : Expr → Code
  | .parameter _ => [.tag 0]
  | .member target name => .tag 1 :: Code.ofString name ++ shapeCode target
  | .constant value => [.tag 2, .tag value.kind.number]
  | .closure captured => .tag 3 :: Code.ofString captured.typeName
  | .binary op left right => .tag 4 :: .tag op.number :: shapeCode left ++ shapeCode right
  | .not operand => .tag 5 :: shapeCode operand
  | .negate operand => .tag 6 :: shapeCode operand
  | .convert target operand => .tag 7 :: .tag target.number :: shapeCode operand
  | .call method args => .tag 8 :: method.code ++ .flag false :: .count args.length
      :: shapeCodes args
  | .invoke target method args => .tag 8 :: method.code ++ .flag true :: shapeCode target
      ++ .count args.length :: shapeCodes args
  | .list items => .tag 9 :: .count items.length :: shapeCodes items

/-- The codes of several shapes, one after the other. -/
def shapeCodes : List Expr → Code
  | [] => []
  | e :: es => shapeCode e ++ shapeCodes es

end

/-- The hash of a shape. -/
def shapeHash (e : Expr) : UInt64 := e.shapeCode.hash

end Expr

end RelMap
