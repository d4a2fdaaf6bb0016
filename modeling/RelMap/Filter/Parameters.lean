import RelMap.Dialect
import RelMap.Value.Basic

/-!
# Parameters

The values bound to a statement, in order. A parameter's name and its mark follow from its place.
-/

namespace RelMap

/-- A parameter as it is handed to a database. -/
structure Parameter where
  /-- The name, which does not depend on the dialect. -/
  name : String
  /-- The mark in the text of the statement. -/
  placeholder : String
  /-- The bound value. -/
  value : Value
  deriving DecidableEq

/-- The values bound to a statement. -/
structure Parameters where
  /-- The dialect of the statement. -/
  dialect : Dialect
  /-- The values, in the order in which they were bound. -/
  values : List Value := []
  deriving DecidableEq

namespace Parameters

/-- No parameters. -/
def empty (dialect : Dialect) : Parameters := { dialect }

/-- How many parameters there are. -/
def size (p : Parameters) : Nat := p.values.length

/-- One more parameter. -/
def bind (p : Parameters) (v : Value) : Parameters := { p with values := p.values ++ [v] }

/-- The mark of the parameter that is bound next. -/
def nextPlaceholder (p : Parameters) : String := p.dialect.placeholder p.size

/-- The parameters with their names and marks. -/
def toList (p : Parameters) : List Parameter :=
  p.values.zipIdx.map fun (v, i) => ⟨Dialect.parameterName i, p.dialect.placeholder i, v⟩

/-- The value of the parameter of a name. -/
def find? (p : Parameters) (name : String) : Option Value :=
  (p.toList.find? (·.name == name)).map (·.value)

end Parameters

end RelMap
