import RelMap.Evaluation.Cache
import RelMap.Filter.Condition
import RelMap.Filter.Parameters
import RelMap.Filter.Pattern
import RelMap.Mapping.Basic

/-!
# From filters to conditions

What reads the entity becomes a column or an operator of the statement; what does not is evaluated
beforehand and bound as a parameter, or decides the condition on the spot. Parameters are bound in
the order in which their marks stand in the text. How captured expressions are evaluated is left
open here: an evaluator is any function with a state of its own.
-/

namespace RelMap.Filter

/-- What the compilation of a filter depends on. -/
structure Setting (σ : Type) where
  /-- The mapping of the filtered type. -/
  mapping : EntityMapping
  /-- Whether the database takes the empty string for null. -/
  emptyStringIsNull : Bool
  /-- Whether comparisons of strings ignore case. -/
  ignoreCase : Bool
  /-- The evaluator of captured expressions. -/
  evaluate : σ → Expr → Except Fault Value × σ

/-- How far a compilation has come. -/
structure Progress (σ : Type) where
  /-- The state of the evaluator. -/
  evaluators : σ
  /-- The values bound so far. -/
  bound : List Value

/-- A compilation, which keeps what it has done so far also when it fails. -/
abbrev Compile (σ : Type) := ExceptT Fault (StateM (Progress σ))

variable {σ : Type}

/-- Fail as the expression is not supported. -/
def unsupported {α : Type} (f : UnsupportedFault) : Compile σ α := throw (.unsupported f)

/-- Fail as a captured value is of no use. -/
def evaluation {α : Type} (f : EvaluationFault) : Compile σ α := throw (.evaluation f)

/-- The value of a captured expression; a constant is its own value. -/
def evaluate (s : Setting σ) (e : Expr) : Compile σ Value :=
  match e with
  | .constant v => pure v
  | e => do
    let progress ← get
    let (result, evaluators) := s.evaluate progress.evaluators e
    set { progress with evaluators }
    match result with
    | .ok v => pure v
    | .error f => throw f

/-- The parameter to which a value is bound. -/
def bind (v : Value) : Compile σ Nat := do
  let progress ← get
  set { progress with bound := progress.bound ++ [v] }
  return progress.bound.length

/-- The parameters to which several values are bound. -/
def bindAll : List Value → Compile σ (List Nat)
  | [] => return []
  | v :: vs => do
    let i ← bind v
    let is ← bindAll vs
    return i :: is

/-- The column of a property. -/
def column (s : Setting σ) (property : String) : Compile σ String :=
  match s.mapping.requireColumn property with
  | .ok c => pure c
  | .error f => throw (.mapping f)

/-- What a message calls an expression. -/
def subject : Expr → Subject
  | .parameter name => .parameter name
  | .member _ name => .member name
  | .constant _ => .captured
  | .closure _ => .captured
  | .binary op _ _ => .operator op
  | .not _ => .negation
  | .negate _ => .arithmeticNegation
  | .convert target _ => .conversion target
  | .call method _ => .method method.name
  | .invoke _ method _ => .method method.name
  | .list _ => .listLiteral

/-- Why a member of an expression that reads the entity is no property. -/
def memberFault (target : Expr) (name : String) : UnsupportedFault :=
  match target.memberPath? with
  | some path => if path.isEmpty then .memberAccess name else .navigation path name
  | none => .memberAccess name

/-- Whether an expression is a condition by its form. -/
def isConditionShaped : Expr → Bool
  | .binary (.comparison _) _ _ => true
  | .binary (.connective _) _ _ => true
  | .not _ => true
  | .call .contains _ | .call .startsWith _ | .call .endsWith _ => true
  | .invoke _ .contains _ | .invoke _ .startsWith _ | .invoke _ .endsWith _ => true
  | _ => false

/-- A captured expression in the place of a term. -/
def capturedTerm (s : Setting σ) (e : Expr) : Compile σ Term := do
  match ← evaluate s e with
  | .null => return .null
  | .list _ => evaluation .listAsValue
  | v => return .parameter (← bind v)

/-- The function of a method that gives a string. -/
def textFunction? : Method → Option TextFunction
  | .toLower => some .lower
  | .toUpper => some .upper
  | .trim => some .trim
  | _ => none

/-- Why a method call is no term. -/
def methodTermFault : Method → UnsupportedFault
  | .named name => .method name
  | method => .asValue (.method method.name)

/-- An expression in the place of a term. -/
def term (s : Setting σ) (e : Expr) : Compile σ Term :=
  if !e.dependsOnParameter then capturedTerm s e
  else
    match e.property? with
    | some property => return .column (← column s property)
    | none =>
      match e with
      | .member target name => unsupported (memberFault target name)
      | .convert _ operand => term s operand
      | .negate operand => return .negate (← term s operand)
      | .binary (.arithmetic op) left right => do
        let l ← term s left
        let r ← term s right
        return .arithmetic op l r
      | .binary .coalesce left right => do
        let l ← term s left
        let r ← term s right
        return .coalesce l r
      | .invoke target method [] =>
        match textFunction? method with
        | some function => return .apply function (← term s target)
        | none => unsupported (methodTermFault method)
      | .invoke _ method _ => unsupported (methodTermFault method)
      | .call method _ => unsupported (methodTermFault method)
      | e => unsupported (.asValue (subject e))

/-- A captured expression in the place of a condition; null does not hold. -/
def capturedCondition (s : Setting σ) (e : Expr) : Compile σ Condition := do
  match ← evaluate s e with
  | .bool b => return .truth b
  | .null => return .truth false
  | v => evaluation (.conditionKind v.kind)

/-- A comparison with a value that is null to the database. -/
def nullComparison (op : Comparison) (operand : Term) : Condition :=
  match op with
  | .eq => .isNull operand false
  | .ne => .isNull operand true
  | .lt | .le | .gt | .ge => .truth false

/-- The boolean that an operand has to be when it is compared with a boolean for equality. -/
def expected? (op : Comparison) (v : Value) : Option Bool :=
  match op, v with
  | .eq, .bool b => some b
  | .ne, .bool b => some !b
  | _, _ => none

/-- Whether a comparison with a value ignores case. -/
def folds (s : Setting σ) (op : Comparison) (v : Value) : Bool :=
  match op, v with
  | .eq, .string _ | .ne, .string _ => s.ignoreCase
  | _, _ => false

/-- A string in the case in which strings are compared; other values as they are. -/
def foldedValue : Value → Value
  | .string text => .string (Text.lowercase text)
  | v => v

/-- A term in the case in which strings are compared, if case is ignored. -/
def foldedTerm (fold : Bool) (t : Term) : Term := if fold then .apply .lower t else t

/-- A comparison of an expression that reads the entity with a single value. -/
def valueComparison (s : Setting σ) (op : Comparison) (operand : Compile σ Term) (v : Value)
    (valueOnLeft : Bool) : Compile σ Condition := do
  if v.isList then evaluation (.listComparison op)
  else
    let fold := folds s op v
    let bound := if fold then foldedValue v else v
    if valueOnLeft then
      let index ← bind bound
      let t ← operand
      return .compare op (foldedTerm fold (.parameter index)) (foldedTerm fold t)
    else
      let t ← operand
      let index ← bind bound
      return .compare op (foldedTerm fold t) (foldedTerm fold (.parameter index))

/--
A comparison of an expression that reads the entity with a captured one. The expression is given
as a term and as a condition, as a comparison with a boolean may be the condition itself.
-/
def capturedComparison (s : Setting σ) (op : Comparison) (e : Expr) (asTerm : Compile σ Term)
    (asCondition : Compile σ Condition) (captured : Expr) (valueOnLeft : Bool) :
    Compile σ Condition := do
  let v ← evaluate s captured
  if v.isNullLike s.emptyStringIsNull then return nullComparison op (← asTerm)
  else
    match expected? op v with
    | none => valueComparison s op asTerm v valueOnLeft
    | some expected =>
      match e.property? with
      | some property => return .flag (← column s property) expected
      | none =>
        if isConditionShaped e then
          let c ← asCondition
          return if expected then c else .not c
        else valueComparison s op asTerm v valueOnLeft

/-- The text that a pattern looks for. -/
def patternText (method : Method) : Value → Compile σ String
  | .string text => pure text
  | .null => evaluation (.nullPattern method.name)
  | v => evaluation (.patternKind method.name v.kind)

/-- A test of a string that reads the entity against a captured part. -/
def like (s : Setting σ) (method : Method) (target : Compile σ Term) (arg : Expr) :
    Compile σ Condition := do
  let v ← evaluate s arg
  let text ← patternText method v
  let pattern := Pattern.ofMethod method text
  let t ← target
  let index ← bind (.string (if s.ignoreCase then Text.lowercase pattern else pattern))
  return .like (foldedTerm s.ignoreCase t) (foldedTerm s.ignoreCase (.parameter index))

/-- The items of a collection. -/
def collectionItems : Value → Compile σ (List Value)
  | .list items => pure items
  | .null => evaluation .nullCollection
  | v => evaluation (.collectionKind v.kind)

/--
An item among the values of a captured collection. Values that are null to the database are tested
apart, and the item is then written twice, with parameters of its own each time.
-/
def membership (s : Setting σ) (collection : Expr) (item : Compile σ Term) :
    Compile σ Condition := do
  if collection.dependsOnParameter then unsupported .entityCollection
  else
    let v ← evaluate s collection
    let values ← collectionItems v
    if values.isEmpty then return .truth false
    else
      let operand ← item
      let present := values.filter (!·.isNullLike s.emptyStringIsNull)
      if present.isEmpty then return .isNull operand false
      else
        let items ← bindAll present
        if values.any (·.isNullLike s.emptyStringIsNull) then
          return .amongOrNull operand items (← item)
        else return .among operand items

/-- Why a method call is no condition. -/
def methodConditionFault : Method → UnsupportedFault
  | .named name => .method name
  | method => .asCondition (.method method.name)

/-- A call without a target in the place of a condition. -/
def callCondition (s : Setting σ) (method : Method) (args : List Expr) : Compile σ Condition :=
  match method, args with
  | .contains, [first, second] =>
    let swapped :=
      first.dependsOnParameter && !second.dependsOnParameter &&
        (match first with | .list _ => false | _ => true)
    if swapped then membership s second (term s first) else membership s first (term s second)
  | method, _ => unsupported (methodConditionFault method)

/-- A test of a target against an argument. -/
def targetCondition (s : Setting σ) (target : Expr) (method : Method) (arg : Expr) :
    Compile σ Condition :=
  if target.dependsOnParameter then
    if arg.dependsOnParameter then unsupported (.entityArgument method.name)
    else like s method (term s target) arg
  else
    match method with
    | .contains => membership s target (term s arg)
    | method => unsupported (.capturedTarget method.name)

/-- A call on a target in the place of a condition. -/
def invokeCondition (s : Setting σ) (target : Expr) (method : Method) (args : List Expr) :
    Compile σ Condition :=
  match method, args with
  | .contains, [arg] | .startsWith, [arg] | .endsWith, [arg] => targetCondition s target method arg
  | method, _ => unsupported (methodConditionFault method)

/-- An expression in the place of a condition. -/
def condition (s : Setting σ) (e : Expr) : Compile σ Condition :=
  if !e.dependsOnParameter then capturedCondition s e
  else
    match e.property? with
    | some property => return .flag (← column s property) true
    | none =>
      match e with
      | .binary (.connective op) left right => do
        let l ← condition s left
        let r ← condition s right
        return .connect op l r
      | .binary (.comparison op) left right =>
        match left.dependsOnParameter, right.dependsOnParameter with
        | true, false =>
          capturedComparison s op left (term s left) (condition s left) right false
        | false, true =>
          capturedComparison s op right (term s right) (condition s right) left true
        | _, _ => do
          let l ← term s left
          let r ← term s right
          return .compare op l r
      | .not operand =>
        match operand.property? with
        | some property => return .flag (← column s property) false
        | none => return .not (← condition s operand)
      | .call method args => callCondition s method args
      | .invoke target method args => invokeCondition s target method args
      | .member target name => unsupported (memberFault target name)
      | e => unsupported (.asCondition (subject e))

end RelMap.Filter
