import RelMap.Value.Basic

/-!
# Expressions

A filter is a boolean expression over one entity. A member of the entity is one of its properties,
a member of a captured object is a value known beforehand, and all else is an operator, a method
call or a literal.
-/

namespace RelMap

/-- The operators that compare two values. -/
inductive Comparison where
  | eq | ne | lt | le | gt | ge
  deriving DecidableEq, Repr

/-- The operators that connect two conditions. -/
inductive Connective where
  | and | or
  deriving DecidableEq, Repr

/-- The operators that calculate. -/
inductive Arithmetic where
  | add | sub | mul | div | mod
  deriving DecidableEq, Repr

/-- The operators with two operands. -/
inductive BinaryOp where
  | comparison (c : Comparison)
  | connective (k : Connective)
  | arithmetic (a : Arithmetic)
  /-- The left operand unless it is null, otherwise the right one. -/
  | coalesce
  deriving DecidableEq, Repr

/-- The spelling of a comparison in SQL and in messages. -/
def Comparison.sql : Comparison → String
  | .eq => "="
  | .ne => "<>"
  | .lt => "<"
  | .le => "<="
  | .gt => ">"
  | .ge => ">="

/-- The spelling of a connective in SQL and in messages. -/
def Connective.sql : Connective → String
  | .and => "AND"
  | .or => "OR"

/-- The spelling of an arithmetic operator in SQL and in messages. -/
def Arithmetic.sql : Arithmetic → String
  | .add => "+"
  | .sub => "-"
  | .mul => "*"
  | .div => "/"
  | .mod => "%"

/-- The spelling of an operator in messages. -/
def BinaryOp.sql : BinaryOp → String
  | .comparison c => c.sql
  | .connective k => k.sql
  | .arithmetic a => a.sql
  | .coalesce => "COALESCE"

/-- The methods that may be called in a filter. -/
inductive Method where
  /-- A part of a string or an item of a collection. -/
  | contains
  | startsWith
  | endsWith
  | toLower
  | toUpper
  | trim
  /-- A method known by its name only, which has no meaning in a filter. -/
  | named (name : String)
  deriving DecidableEq, Repr

/-- The name of a method as it is written in a filter. -/
def Method.name : Method → String
  | .contains => "Contains"
  | .startsWith => "StartsWith"
  | .endsWith => "EndsWith"
  | .toLower => "ToLower"
  | .toUpper => "ToUpper"
  | .trim => "Trim"
  | .named name => name

/-- A captured object: its type and the values of its fields. -/
structure Closure where
  /-- The type of the object. -/
  typeName : String
  /-- Its fields; of two with one name the first counts. -/
  fields : List (String × Value)
  deriving DecidableEq

/-- The value of a field. -/
def Closure.field? (c : Closure) (name : String) : Option Value :=
  (c.fields.find? (·.1 == name)).map (·.2)

/-- A node of a filter. -/
inductive Expr where
  /-- The entity that the filter is about. -/
  | parameter (name : String)
  /-- A property of the entity, or a field of a captured object. -/
  | member (target : Expr) (name : String)
  | constant (value : Value)
  | closure (captured : Closure)
  | binary (op : BinaryOp) (left right : Expr)
  | not (operand : Expr)
  | negate (operand : Expr)
  | convert (target : Kind) (operand : Expr)
  /-- A method called without a target. -/
  | call (method : Method) (args : List Expr)
  /-- A method called on a target. -/
  | invoke (target : Expr) (method : Method) (args : List Expr)
  | list (items : List Expr)

/-- A filter: the name of its parameter and its body. -/
structure Predicate where
  /-- The name by which the body calls the entity. -/
  parameter : String
  /-- A boolean expression. -/
  body : Expr

namespace Expr

instance : Inhabited Expr := ⟨.constant .null⟩

mutual

/-- Equality of expressions, as a test. -/
def beq : Expr → Expr → Bool
  | .parameter a, .parameter b => a == b
  | .member a m, .member b n => m == n && beq a b
  | .constant a, .constant b => a == b
  | .closure a, .closure b => a == b
  | .binary o a b, .binary p c d => o == p && beq a c && beq b d
  | .not a, .not b => beq a b
  | .negate a, .negate b => beq a b
  | .convert k a, .convert l b => k == l && beq a b
  | .call m as, .call n bs => m == n && beqList as bs
  | .invoke a m as, .invoke b n bs => m == n && beq a b && beqList as bs
  | .list as, .list bs => beqList as bs
  | _, _ => false

/-- Equality of lists of expressions, item by item. -/
def beqList : List Expr → List Expr → Bool
  | [], [] => true
  | a :: as, b :: bs => beq a b && beqList as bs
  | _, _ => false

end

mutual

theorem eq_of_beq (a b : Expr) (h : beq a b = true) : a = b := by
  cases a <;> cases b <;> simp only [beq, Bool.and_eq_true, beq_iff_eq, Bool.false_eq_true] at h
  case parameter.parameter => rw [h]
  case member.member a m b n => rw [h.1, eq_of_beq a b h.2]
  case constant.constant => rw [h]
  case closure.closure => rw [h]
  case binary.binary o a b p c d => rw [h.1.1, eq_of_beq a c h.1.2, eq_of_beq b d h.2]
  case not.not a b => rw [eq_of_beq a b h]
  case negate.negate a b => rw [eq_of_beq a b h]
  case convert.convert k a l b => rw [h.1, eq_of_beq a b h.2]
  case call.call m as n bs => rw [h.1, eq_of_beqList as bs h.2]
  case invoke.invoke a m as b n bs => rw [h.1.1, eq_of_beq a b h.1.2, eq_of_beqList as bs h.2]
  case list.list as bs => rw [eq_of_beqList as bs h]

theorem eq_of_beqList (as bs : List Expr) (h : beqList as bs = true) : as = bs := by
  cases as <;> cases bs <;> simp only [beqList, Bool.and_eq_true, Bool.false_eq_true] at h
  case nil.nil => rfl
  case cons.cons a as b bs => rw [eq_of_beq a b h.1, eq_of_beqList as bs h.2]

end

mutual

theorem beq_self : ∀ a : Expr, beq a a = true
  | .parameter _ | .constant _ | .closure _ => by simp [beq]
  | .member a _ => by simp [beq, beq_self a]
  | .binary _ a b => by simp [beq, beq_self a, beq_self b]
  | .not a => by simp [beq, beq_self a]
  | .negate a => by simp [beq, beq_self a]
  | .convert _ a => by simp [beq, beq_self a]
  | .call _ as => by simp [beq, beqList_self as]
  | .invoke a _ as => by simp [beq, beq_self a, beqList_self as]
  | .list as => by simp [beq, beqList_self as]

theorem beqList_self : ∀ as : List Expr, beqList as as = true
  | [] => rfl
  | a :: as => by simp [beqList, beq_self a, beqList_self as]

end

instance : DecidableEq Expr := fun a b =>
  if h : beq a b = true then isTrue (eq_of_beq a b h)
  else isFalse fun e => h (e ▸ beq_self a)

mutual

/-- Whether an expression reads the entity anywhere. -/
def dependsOnParameter : Expr → Bool
  | .parameter _ => true
  | .constant _ => false
  | .closure _ => false
  | .member target _ => dependsOnParameter target
  | .binary _ left right => dependsOnParameter left || dependsOnParameter right
  | .not operand => dependsOnParameter operand
  | .negate operand => dependsOnParameter operand
  | .convert _ operand => dependsOnParameter operand
  | .call _ args => anyDependsOnParameter args
  | .invoke target _ args => dependsOnParameter target || anyDependsOnParameter args
  | .list items => anyDependsOnParameter items

/-- Whether one of several expressions reads the entity. -/
def anyDependsOnParameter : List Expr → Bool
  | [] => false
  | e :: es => dependsOnParameter e || anyDependsOnParameter es

end

/-- The property that an expression reads, when it is nothing but that, conversions apart. -/
def property? : Expr → Option String
  | .member (.parameter _) name => some name
  | .convert _ operand => property? operand
  | _ => none

/--
The dotted path of members below the entity, which is empty for the entity itself, or nothing
where the chain begins elsewhere.
-/
def memberPath? : Expr → Option String
  | .parameter _ => some ""
  | .convert _ operand => memberPath? operand
  | .member target name =>
    (memberPath? target).map fun path => if path.isEmpty then name else path ++ "." ++ name
  | _ => none

end Expr

end RelMap
