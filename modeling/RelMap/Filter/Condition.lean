import RelMap.Dialect
import RelMap.Expr.Basic
import RelMap.Text.Part

/-!
# Conditions

The condition of a statement as a tree, without regard to the dialect, and its text in a dialect.
Parameters are numbered in the order in which they were bound.
-/

namespace RelMap

/-- The functions that a statement applies to a string. -/
inductive TextFunction where
  | lower | upper | trim
  deriving DecidableEq, Repr

/-- The spelling of a function. -/
def TextFunction.sql : TextFunction → String
  | .lower => "LOWER"
  | .upper => "UPPER"
  | .trim => "TRIM"

/-- A term of a condition. -/
inductive Term where
  /-- A column of the filtered table. -/
  | column (name : String)
  /-- The parameter of an index. -/
  | parameter (index : Nat)
  | null
  | negate (operand : Term)
  | arithmetic (op : Arithmetic) (left right : Term)
  /-- The left operand unless it is null, otherwise the right one. -/
  | coalesce (left right : Term)
  | apply (function : TextFunction) (operand : Term)
  deriving DecidableEq, Repr

/-- A condition. -/
inductive Condition where
  /-- A condition that always holds, or never. -/
  | truth (b : Bool)
  /-- A boolean column compared with a literal. -/
  | flag (column : String) (expected : Bool)
  | compare (op : Comparison) (left right : Term)
  /-- A test for null, or for the opposite when it is negated. -/
  | isNull (operand : Term) (negated : Bool)
  /-- A term among parameters. -/
  | among (operand : Term) (items : List Nat)
  /-- A term among parameters, or the same term null. -/
  | amongOrNull (operand : Term) (items : List Nat) (again : Term)
  /-- A term matched with a pattern whose escape character is the backslash. -/
  | like (operand pattern : Term)
  | connect (op : Connective) (left right : Condition)
  | not (operand : Condition)
  deriving DecidableEq, Repr

/-- How a condition is written: in which dialect, and with which alias of the filtered table. -/
structure Spelling where
  /-- The dialect. -/
  dialect : Dialect
  /-- The alias before every column. -/
  tableAlias : String
  deriving DecidableEq

namespace Spelling

/-- A column behind its alias. -/
def column (s : Spelling) (name : String) : String := s.tableAlias ++ "." ++ s.dialect.quote name

/-- The text of a term. -/
def term (s : Spelling) : Term → String
  | .column name => s.column name
  | .parameter index => s.dialect.placeholder index
  | .null => "NULL"
  | .negate operand => "-(" ++ s.term operand ++ ")"
  | .arithmetic op left right =>
    "(" ++ s.term left ++ " " ++ op.sql ++ " " ++ s.term right ++ ")"
  | .coalesce left right => "COALESCE(" ++ s.term left ++ ", " ++ s.term right ++ ")"
  | .apply function operand => function.sql ++ "(" ++ s.term operand ++ ")"

/-- The marks of several parameters. -/
def placeholders (s : Spelling) (items : List Nat) : String :=
  Text.joined ", " (items.map s.dialect.placeholder)

/-- The text of a term among parameters. -/
def among (s : Spelling) (operand : Term) (items : List Nat) : String :=
  s.term operand ++ " IN (" ++ s.placeholders items ++ ")"

/-- The text of a condition. -/
def condition (s : Spelling) : Condition → String
  | .truth true => "1=1"
  | .truth false => "1=0"
  | .flag column expected => s.column column ++ " = " ++ s.dialect.boolean expected
  | .compare op left right => s.term left ++ " " ++ op.sql ++ " " ++ s.term right
  | .isNull operand false => s.term operand ++ " IS NULL"
  | .isNull operand true => s.term operand ++ " IS NOT NULL"
  | .among operand items => s.among operand items
  | .amongOrNull operand items again =>
    "(" ++ s.among operand items ++ " OR " ++ s.term again ++ " IS NULL)"
  | .like operand pattern =>
    s.term operand ++ " LIKE " ++ s.term pattern ++ " " ++ s.dialect.likeEscape
  | .connect op left right =>
    "(" ++ s.condition left ++ ") " ++ op.sql ++ " (" ++ s.condition right ++ ")"
  | .not operand => "NOT (" ++ s.condition operand ++ ")"

end Spelling

end RelMap
