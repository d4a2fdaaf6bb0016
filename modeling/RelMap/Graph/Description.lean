import RelMap.Graph.Store
import RelMap.Value.Description

/-!
# Descriptions of instances

An instance is shown by its type and its key only, as its navigations may lead back to it. While it
is being written nothing of it is shown.
-/

namespace RelMap.Instance

/-- A key as it is shown. -/
def describeKey : Option (List Value) → String
  | none => "None"
  | some key => "Some(" ++ Value.shownList (Value.describeAll key) ++ ")"

/-- The description of an instance. -/
def describe (i : Instance) : String :=
  "EntityRef(" ++ i.mapping.entityType ++ " " ++ describeKey i.key? ++ ")"

/-- The description of an instance that is being written. -/
def describeWritten (_ : Instance) : String := "EntityRef(<locked>)"

end RelMap.Instance
