import RelMap.Expr.Basic
import RelMap.Text.Part

/-!
# Faults

What can be wrong with a mapping, a filter or a captured value. A fault is a cause with the names
that its message shows; an error is a fault about one entity type.
-/

namespace RelMap

/-- Missing or inconsistent metadata, or a result set that does not fit it. -/
inductive MappingFault where
  | unmappedType
  | unmappedProperty (property : String)
  | reservedSeparator (property : String)
  | repeatedProperty (property : String)
  | unmappedKey (property : String)
  | unmappedForeignKey (property navigation : String)
  | clashingNavigation (navigation : String)
  | danglingNavigation (navigation target : String)
  | danglingKey (navigation target property : String)
  | unknownNavigation (segment path : String)
  | otherRoot (treeRoot root : String)
  | noColumns
  | noForeignKey (navigation : String)
  | noInverse (principal navigation : String)
  | ambiguousInverse (candidates : Nat) (principal navigation : String)
  | missingSplit (column : String)
  | misplacedColumn (column tableAlias fragment : String)
  | unknownColumn (column : String)
  | rowWidth (values columns : Nat)
  | fragmentCount (fragments types : Nat)
  | nullKey (properties : List String)
  deriving DecidableEq

/-- What a message about an unsupported expression is about. -/
inductive Subject where
  | parameter (name : String)
  | member (name : String)
  | captured
  | operator (op : BinaryOp)
  | negation
  | arithmeticNegation
  | conversion (target : Kind)
  | method (name : String)
  | listLiteral
  deriving DecidableEq

/-- An expression that no statement can express. -/
inductive UnsupportedFault where
  | asCondition (subject : Subject)
  | asValue (subject : Subject)
  | method (name : String)
  | entityArgument (method : String)
  | capturedTarget (method : String)
  | entityCollection
  | navigation (path member : String)
  | memberAccess (member : String)
  | clientParameter (name : String)
  deriving DecidableEq

/-- A captured value that cannot be computed or used. -/
inductive EvaluationFault where
  | conditionKind (kind : Kind)
  | listComparison (op : Comparison)
  | listAsValue
  | nullPattern (method : String)
  | patternKind (method : String) (kind : Kind)
  | nullCollection
  | collectionKind (kind : Kind)
  | shapeMismatch
  | missingField (typeName field : String)
  | closureAsValue (typeName : String)
  | memberOfValue (member : String) (kind : Kind)
  | negation (kind : Kind)
  | booleanOperands (op : Connective)
  | incomparable (left right : Kind)
  | overflow (op : Arithmetic)
  | divisionByZero
  | undefinedOperation (op : Arithmetic) (left right : Kind)
  | negationOverflow
  | conversion (source target : Kind)
  | nullTarget (method : String)
  | badArguments (method : String)
  deriving DecidableEq

/-- A cause of failure. -/
inductive Fault where
  | mapping (fault : MappingFault)
  | unsupported (fault : UnsupportedFault)
  | evaluation (fault : EvaluationFault)
  deriving DecidableEq

/-- A fault about an entity type. -/
structure Error where
  /-- The entity type. -/
  entity : String
  /-- What is wrong. -/
  fault : Fault
  deriving DecidableEq

/-- The message of a mapping fault. -/
def MappingFault.message : MappingFault → String
  | .unmappedType => "entity type is not mapped"
  | .unmappedProperty property => "property '" ++ property ++ "' is not mapped to a column"
  | .reservedSeparator property =>
    "property '" ++ property ++ "' contains the reserved '__' separator"
  | .repeatedProperty property => "property '" ++ property ++ "' is mapped twice"
  | .unmappedKey property => "key property '" ++ property ++ "' is not mapped"
  | .unmappedForeignKey property navigation =>
    "foreign key property '" ++ property ++ "' of navigation '" ++ navigation ++ "' is not mapped"
  | .clashingNavigation navigation =>
    "navigation '" ++ navigation ++ "' clashes with another member"
  | .danglingNavigation navigation target =>
    "navigation '" ++ navigation ++ "' targets unmapped type '" ++ target ++ "'"
  | .danglingKey navigation target property =>
    "navigation '" ++ navigation ++ "' targets unmapped key '" ++ target ++ "." ++ property ++ "'"
  | .unknownNavigation segment path =>
    "navigation '" ++ segment ++ "' in include '" ++ path ++ "' does not exist"
  | .otherRoot treeRoot root =>
    "include tree is rooted at '" ++ treeRoot ++ "', not '" ++ root ++ "'"
  | .noColumns => "entity type has no mapped columns"
  | .noForeignKey navigation => "no foreign key for navigation '" ++ navigation ++ "'"
  | .noInverse principal navigation =>
    "no foreign key back to '" ++ principal ++ "' for collection '" ++ navigation ++ "'"
  | .ambiguousInverse candidates principal navigation =>
    toString candidates ++ " foreign keys back to '" ++ principal ++ "' make collection '"
      ++ navigation ++ "' ambiguous"
  | .missingSplit column => "split column '" ++ column ++ "' is missing from the result set"
  | .misplacedColumn column tableAlias fragment =>
    "column '" ++ column ++ "' of alias '" ++ tableAlias ++ "' lies in the fragment of '"
      ++ fragment ++ "'"
  | .unknownColumn column => "column '" ++ column ++ "' does not map to a property"
  | .rowWidth values columns =>
    "row has " ++ toString values ++ " values but the result set has " ++ toString columns
      ++ " columns"
  | .fragmentCount fragments types =>
    "row has " ++ toString fragments ++ " fragments but the plan maps " ++ toString types
      ++ " types"
  | .nullKey properties =>
    "row has a null value for key '" ++ Text.joined ", " properties ++ "'"

/-- How a message names what it is about. -/
def Subject.text : Subject → String
  | .parameter name => "parameter '" ++ name ++ "'"
  | .member name => "member '" ++ name ++ "'"
  | .captured => "a captured value"
  | .operator op => "'" ++ op.sql ++ "' expression"
  | .negation => "negation"
  | .arithmeticNegation => "arithmetic negation"
  | .conversion target => "conversion to " ++ target.name
  | .method name => "method '" ++ name ++ "'"
  | .listLiteral => "a list literal"

/-- The message about an unsupported expression. -/
def UnsupportedFault.message : UnsupportedFault → String
  | .asCondition subject => subject.text ++ " cannot be used as a condition"
  | .asValue subject => subject.text ++ " cannot be used as a value"
  | .method name => "method '" ++ name ++ "' is not supported"
  | .entityArgument name =>
    "'" ++ name ++ "' with an entity-dependent argument is not supported"
  | .capturedTarget name =>
    "'" ++ name ++ "' on a captured value with an entity argument is not supported"
  | .entityCollection => "membership in an entity-dependent collection is not supported"
  | .navigation path member =>
    "navigation access '" ++ path ++ "." ++ member ++ "' is not supported in filters"
  | .memberAccess member => "member access '" ++ member ++ "' is not supported"
  | .clientParameter name => "parameter '" ++ name ++ "' cannot be evaluated on the client"

/-- The message of an evaluation fault. -/
def EvaluationFault.message : EvaluationFault → String
  | .conditionKind kind => "condition evaluated to a " ++ kind.name ++ " value"
  | .listComparison op => "a list cannot be compared with '" ++ op.sql ++ "'"
  | .listAsValue => "a list cannot be used as a single value"
  | .nullPattern method => "pattern for '" ++ method ++ "' is null"
  | .patternKind method kind =>
    "pattern for '" ++ method ++ "' must be a string, got " ++ kind.name
  | .nullCollection => "collection for 'Contains' is null"
  | .collectionKind kind => "collection for 'Contains' must be a list, got " ++ kind.name
  | .shapeMismatch => "expression does not match its compiled evaluator"
  | .missingField typeName field => "captured '" ++ typeName ++ "' has no field '" ++ field ++ "'"
  | .closureAsValue typeName => "captured '" ++ typeName ++ "' cannot be used as a value"
  | .memberOfValue member kind => "cannot read '" ++ member ++ "' of a " ++ kind.name ++ " value"
  | .negation kind => "cannot negate a " ++ kind.name ++ " value"
  | .booleanOperands op => "'" ++ op.sql ++ "' requires boolean operands"
  | .incomparable left right => "cannot compare " ++ left.name ++ " with " ++ right.name
  | .overflow op => "arithmetic overflow in '" ++ op.sql ++ "'"
  | .divisionByZero => "division by zero"
  | .undefinedOperation op left right =>
    "'" ++ op.sql ++ "' is not defined for " ++ left.name ++ " and " ++ right.name
  | .negationOverflow => "arithmetic overflow in negation"
  | .conversion source target => "cannot convert " ++ source.name ++ " to " ++ target.name
  | .nullTarget method => "'" ++ method ++ "' called on a null value"
  | .badArguments method => "invalid arguments to '" ++ method ++ "'"

/-- The message of an error: the class of its fault, the entity type and the fault's own message. -/
def Error.message (e : Error) : String :=
  match e.fault with
  | .mapping f => "mapping error on '" ++ e.entity ++ "': " ++ f.message
  | .unsupported f => "unsupported expression on '" ++ e.entity ++ "': " ++ f.message
  | .evaluation f => "evaluation error on '" ++ e.entity ++ "': " ++ f.message

/-- A mapping error about an entity type. -/
def Error.mapping (entity : String) (fault : MappingFault) : Error := ⟨entity, .mapping fault⟩

/-- A result whose fault is taken to be about an entity type. -/
def Fault.about {α : Type} (entity : String) : Except Fault α → Except Error α
  | .ok a => .ok a
  | .error f => .error ⟨entity, f⟩

end RelMap
