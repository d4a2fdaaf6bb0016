import RelMap.Text.Quoted

/-!
# Dialects of SQL

The points in which the supported databases spell the same statement differently: how a name is
quoted, how a parameter is marked, how a boolean is written, and whether the empty string is null.
-/

namespace RelMap

/-- The supported databases. -/
inductive Dialect where
  | sqlServer | postgres | mySql | sqlite | oracle
  deriving DecidableEq, Repr

namespace Dialect

instance : Inhabited Dialect := ⟨.sqlServer⟩

/-- Every dialect. -/
def all : List Dialect := [.sqlServer, .postgres, .mySql, .sqlite, .oracle]

/-- The name of a dialect. -/
def name : Dialect → String
  | .sqlServer => "sqlserver"
  | .postgres => "postgres"
  | .mySql => "mysql"
  | .sqlite => "sqlite"
  | .oracle => "oracle"

/-- The dialect of a name. -/
def ofName? (s : String) : Option Dialect := all.find? (·.name == s)

/-- The mark that opens a quoted name. -/
def openingMark : Dialect → Char
  | .sqlServer => '['
  | .mySql => '\x60'
  | .postgres | .sqlite | .oracle => '\x22'

/-- The mark that closes a quoted name. -/
def closingMark : Dialect → Char
  | .sqlServer => ']'
  | .mySql => '\x60'
  | .postgres | .sqlite | .oracle => '\x22'

/-- A quoted name. -/
def quote (d : Dialect) (ident : String) : String :=
  Text.quote d.openingMark d.closingMark ident

/-- The quoted name at the start of a text, and what stands behind it. -/
def unquote? (d : Dialect) (s : String) : Option (String × String) :=
  Text.unquote? d.openingMark d.closingMark s

/-- A quoted table name, behind its quoted schema if it has one. -/
def qualify (d : Dialect) (schema : Option String) (table : String) : String :=
  match schema with
  | some schema => d.quote schema ++ "." ++ d.quote table
  | none => d.quote table

/-- The name of the parameter at an index, whatever the dialect. -/
def parameterName (index : Nat) : String := "p" ++ toString index

/-- The mark of the parameter at an index. -/
def placeholder (d : Dialect) (index : Nat) : String :=
  match d with
  | .sqlServer | .sqlite => "@" ++ parameterName index
  | .postgres => "$" ++ toString (index + 1)
  | .mySql => "?"
  | .oracle => ":" ++ parameterName index

/-- A boolean literal. -/
def boolean (d : Dialect) (b : Bool) : String :=
  match d, b with
  | .postgres, true => "true"
  | .postgres, false => "false"
  | _, true => "1"
  | _, false => "0"

/-- Whether the database stores the empty string as null. -/
def emptyStringIsNull : Dialect → Bool
  | .oracle => true
  | _ => false

/-- The function that folds case; every dialect folds to lower case. -/
def caseFold (_ : Dialect) : String := "LOWER"

/-- Whether comparisons of strings ignore case unless told otherwise; no dialect does so. -/
def ignoresCase (_ : Dialect) : Bool := false

/-- The clause that names the backslash as the escape character of a pattern. -/
def likeEscape : Dialect → String
  | .mySql => "ESCAPE '\\\\'"
  | _ => "ESCAPE '\\'"

end Dialect

end RelMap
