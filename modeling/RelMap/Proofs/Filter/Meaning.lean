import RelMap.Proofs.Filter.Grouping

/-!
# What conditions mean

What a condition says of a row, in the logic of SQL: it is true, false or unknown. Which values a
database computes with and what its operators do with them is left open here. Null is none of these
values: most operators give null for null, and what is compared with null is unknown. A term means
what the expression means that it was compiled from.
-/

namespace RelMap

open Evaluation (value)

/-- A database and one of its rows, as far as a condition depends on them. -/
structure Database (D : Type) where
  /-- What the columns of the row hold. -/
  column : String → Option D
  /-- What a bound value is to the database. -/
  bound : Value → Option D
  /-- The literals for true and false. -/
  boolean : Bool → D
  negate : D → Option D
  arithmetic : Arithmetic → D → D → Option D
  apply : TextFunction → D → Option D
  compare : Comparison → D → D → Bool
  /-- Whether a string matches a pattern. -/
  like : D → D → Bool

namespace Sql

/-- A disjunction is true if a part of it is, whatever the other part. -/
def either : Option Bool → Option Bool → Option Bool
  | some true, _ => some true
  | some false, b => b
  | none, some true => some true
  | none, _ => none

/-- A conjunction is false if a part of it is, whatever the other part. -/
def both : Option Bool → Option Bool → Option Bool
  | some false, _ => some false
  | some true, b => b
  | none, some false => some false
  | none, _ => none

/-- A disjunction holds if one of its parts does, also where the other one is unknown. -/
lemma either_eq_true {a b : Option Bool} :
    either a b = some true ↔ a = some true ∨ b = some true := by
  rcases a with _ | _ | _ <;> rcases b with _ | _ | _ <;> decide

end Sql

namespace Database

variable {D : Type} (db : Database D)

/-- A comparison, which is unknown if a side is null. -/
def compared (op : Comparison) (l r : Option D) : Option Bool := do
  let x ← l
  let y ← r
  return db.compare op x y

/-- Whether something is equal to one of several values; to none of no values. -/
def among (x : Option D) (ys : List (Option D)) : Option Bool :=
  ys.foldr (fun y rest => Sql.either (db.compared .eq x y) rest) (some false)

/-- What is captured, if it has a value: null is not bound but written. -/
def captured : Except Fault Value → Option D
  | .ok .null => none
  | .ok v => db.bound v
  | .error _ => none

variable {db}

/-- A comparison holds only of two values, neither of them null. -/
lemma compared_eq_true {op : Comparison} {l r : Option D} :
    db.compared op l r = some true ↔
      ∃ x y, l = some x ∧ r = some y ∧ db.compare op x y = true := by
  cases l <;> cases r <;> simp [compared]

/-- A test for membership holds if the value equals one of the items. -/
lemma among_eq_true {x : Option D} {ys : List (Option D)} :
    db.among x ys = some true ↔ ∃ y ∈ ys, db.compared .eq x y = some true := by
  induction ys with
  | nil => simp [among]
  | cons y ys ih =>
    rw [among, List.foldr_cons, Sql.either_eq_true, ← among, ih, List.exists_mem_cons_iff]

end Database

variable {D : Type}

/-- The value of a term in a row, given all bound values. -/
def Term.value (db : Database D) (bound : List Value) : Term → Option D
  | .column name => db.column name
  | .parameter index => bound[index]?.bind db.bound
  | .null => none
  | .negate operand => (operand.value db bound).bind db.negate
  | .arithmetic op left right => do
    let x ← left.value db bound
    let y ← right.value db bound
    db.arithmetic op x y
  | .coalesce left right => (left.value db bound).or (right.value db bound)
  | .apply function operand => (operand.value db bound).bind (db.apply function)

/-- Whether a condition is true, false or unknown in a row, given all bound values. -/
def Condition.outcome (db : Database D) (bound : List Value) : Condition → Option Bool
  | .truth b => some b
  | .flag column expected => db.compared .eq (db.column column) (some (db.boolean expected))
  | .compare op left right => db.compared op (left.value db bound) (right.value db bound)
  | .isNull operand negated => some ((operand.value db bound).isNone != negated)
  | .among operand items =>
    db.among (operand.value db bound) (items.map fun i => (Term.parameter i).value db bound)
  | .amongOrNull operand items again =>
    Sql.either
      (db.among (operand.value db bound) (items.map fun i => (Term.parameter i).value db bound))
      (some (again.value db bound).isNone)
  | .like operand pattern => do
    let x ← operand.value db bound
    let y ← pattern.value db bound
    return db.like x y
  | .connect .and left right => Sql.both (left.outcome db bound) (right.outcome db bound)
  | .connect .or left right => Sql.either (left.outcome db bound) (right.outcome db bound)
  | .not operand => (operand.outcome db bound).map (!·)

/--
The value of an expression in a row: what does not read the entity is known beforehand, and a
property is its column. A conversion of what reads the entity changes nothing.
-/
def Expr.rowValue (mapping : EntityMapping) (db : Database D) (e : Expr) : Option D :=
  if !e.dependsOnParameter then db.captured (value e)
  else
    match e.property? with
    | some property =>
      match mapping.requireColumn property with
      | .ok column => db.column column
      | .error _ => none
    | none =>
      match e with
      | .convert _ operand => operand.rowValue mapping db
      | .negate operand => (operand.rowValue mapping db).bind db.negate
      | .binary (.arithmetic op) left right => do
        let x ← left.rowValue mapping db
        let y ← right.rowValue mapping db
        db.arithmetic op x y
      | .binary .coalesce left right => (left.rowValue mapping db).or (right.rowValue mapping db)
      | .invoke target method [] =>
        match Filter.textFunction? method with
        | some function => (target.rowValue mapping db).bind (db.apply function)
        | none => none
      | _ => none

namespace Filter

variable {σ : Type} {s : Setting σ} {good : σ → Prop} {n : Nat}

/-- A term that has the value of an expression in every row. -/
def Means (mapping : EntityMapping) (e : Expr) (bound : List Value) (t : Term) : Prop :=
  ∀ (D : Type) (db : Database D), t.value db bound = e.rowValue mapping db

/-- A captured part means its own value in every database. -/
lemma yields_capturedTerm_means (hs : s.Faithful good) {e : Expr}
    (captured : e.dependsOnParameter = false) :
    Yields good n (capturedTerm s e) (Placed n (Means s.mapping e)) := by
  refine Yields.evaluate hs fun v hv => ?_
  have known (D : Type) (db : Database D) : e.rowValue s.mapping db = db.captured (.ok v) := by
    unfold Expr.rowValue
    rw [captured, hv]
    rfl
  cases v with
  | null => exact Yields.placed_pure fun _ D db => (known D db).symm
  | list items => exact Yields.throw
  | _ =>
    apply (Yields.placed_bound _).placed_map
    intro bound i hi D db
    rw [Term.value, hi, known]
    rfl

/-- The term of an expression means the expression, wherever its parameters stand. -/
lemma yields_term_means (hs : s.Faithful good) (e : Expr) :
    Yields good n (term s e) (Placed n (Means s.mapping e)) := by
  fun_induction Filter.term s e generalizing n with
  | case1 e captured => exact yields_capturedTerm_means hs (by simpa using captured)
  | case2 e reads property h =>
    refine Yields.column fun c hc => Yields.placed_pure fun _ D db => ?_
    rw [Expr.rowValue.eq_def, if_neg reads, h]
    dsimp only
    rw [hc]
    rfl
  | case3 => exact Yields.throw
  | case4 target operand reads h ih =>
    apply ih.placed_mono
    intro bound t ht D db
    rw [ht, Expr.rowValue.eq_def _ _ (.convert _ _), if_neg reads, h]
  | case5 operand reads _ ih =>
    apply ih.placed_map
    intro bound t ht D db
    rw [Term.value, ht, Expr.rowValue.eq_def _ _ (.negate _), if_neg reads]
    rfl
  | case6 op left right reads _ ihl ihr =>
    apply ihl.placed_bind
    intro k l
    apply ihr.placed_map
    intro bound r hr hl D db
    rw [Term.value, hl, hr, Expr.rowValue.eq_def _ _ (.binary _ _ _), if_neg reads]
    rfl
  | case7 left right reads _ ihl ihr =>
    apply ihl.placed_bind
    intro k l
    apply ihr.placed_map
    intro bound r hr hl D db
    rw [Term.value, hl, hr, Expr.rowValue.eq_def _ _ (.binary _ _ _), if_neg reads]
    rfl
  | case8 target method function h reads _ ih =>
    apply ih.placed_map
    intro bound t ht D db
    rw [Term.value, ht, Expr.rowValue.eq_def _ _ (.invoke _ _ _), if_neg reads]
    simp only [h]
    rfl
  | _ => exact Yields.throw

end Filter

end RelMap
