import RelMap.Proofs.Evaluation.Cache

/-!
# The parts of an expression

Every node of an expression, and those of them that are looked at when the arguments of some calls
are passed over.
-/

namespace RelMap.Expr

mutual

/--
The parts of an expression, itself first. Where a call is skipped, its arguments that read the
entity are left out.
-/
def partsBut (skips : Expr → Bool) (e : Expr) : List Expr :=
  e ::
    match e with
    | .parameter _ | .constant _ | .closure _ => []
    | .member target _ => partsBut skips target
    | .binary _ left right => partsBut skips left ++ partsBut skips right
    | .not operand => partsBut skips operand
    | .negate operand => partsBut skips operand
    | .convert _ operand => partsBut skips operand
    | .call _ args => partsOfAllBut skips (skips e) args
    | .invoke target _ args => partsBut skips target ++ partsOfAllBut skips (skips e) args
    | .list items => partsOfAllBut skips false items

/-- The parts of several expressions, of those only that do not read the entity if so asked. -/
def partsOfAllBut (skips : Expr → Bool) (skip : Bool) : List Expr → List Expr
  | [] => []
  | e :: es =>
    (if skip && e.dependsOnParameter then [] else partsBut skips e) ++ partsOfAllBut skips skip es

end

/-- All parts of an expression. -/
def parts (e : Expr) : List Expr := partsBut (fun _ => false) e

/-- All parts of several expressions. -/
def partsOfAll (es : List Expr) : List Expr := partsOfAllBut (fun _ => false) false es

/-- The method that an expression calls itself. -/
def method? : Expr → Option Method
  | .call method _ => some method
  | .invoke _ method _ => some method
  | _ => none

section
variable {target left right operand : Expr} {args items es : List Expr} {e : Expr} {name : String}
variable {op : BinaryOp} {kind : Kind} {method : Method}

/-- The entity has no other part than itself. -/
@[simp] lemma parts_parameter : (parameter name).parts = [.parameter name] := rfl

/-- A literal has no other part than itself. -/
@[simp] lemma parts_constant {v : Value} : (constant v).parts = [.constant v] := rfl

/-- A captured object has no other part than itself. -/
@[simp] lemma parts_closure {c : Closure} : (closure c).parts = [.closure c] := rfl

/-- The parts of a member are those of its target, behind itself. -/
@[simp] lemma parts_member : (member target name).parts = .member target name :: target.parts := rfl

/-- The parts of both operands follow, the left ones first. -/
@[simp] lemma parts_binary :
    (binary op left right).parts = .binary op left right :: (left.parts ++ right.parts) := rfl

@[simp] lemma parts_not : (not operand).parts = .not operand :: operand.parts := rfl

@[simp] lemma parts_negate : (negate operand).parts = .negate operand :: operand.parts := rfl

@[simp] lemma parts_convert :
    (convert kind operand).parts = .convert kind operand :: operand.parts := rfl

/-- The parts of all arguments follow, in their order. -/
@[simp] lemma parts_call : (call method args).parts = .call method args :: partsOfAll args := rfl

/-- The parts of the target come before those of the arguments. -/
@[simp] lemma parts_invoke :
    (invoke target method args).parts =
      .invoke target method args :: (target.parts ++ partsOfAll args) := rfl

/-- The parts of all items follow, in their order. -/
@[simp] lemma parts_list : (list items).parts = .list items :: partsOfAll items := rfl

@[simp] lemma partsOfAll_nil : partsOfAll [] = [] := rfl

@[simp] lemma partsOfAll_cons : partsOfAll (e :: es) = e.parts ++ partsOfAll es := rfl

/-- An expression is one of its own parts. -/
lemma mem_parts_self : e ∈ e.parts := by
  unfold parts partsBut
  exact List.mem_cons_self

end

/-- What is appended to both sides is contained on both. -/
lemma append_subset_append {as bs cs ds : List Expr} (h : as ⊆ cs) (h' : bs ⊆ ds) :
    as ++ bs ⊆ cs ++ ds :=
  List.append_subset.2
    ⟨List.subset_append_of_subset_left _ h, List.subset_append_of_subset_right _ h'⟩

mutual

/-- What is looked at is part of the expression. -/
theorem partsBut_subset (skips : Expr → Bool) (e : Expr) : e.partsBut skips ⊆ e.parts := by
  cases e <;> rw [partsBut] <;>
    simp only [parts_parameter, parts_constant, parts_closure, parts_member, parts_binary,
      parts_not, parts_negate, parts_convert, parts_call, parts_invoke, parts_list] <;>
    refine List.cons_subset_cons _ ?_
  case parameter | constant | closure => exact List.Subset.refl _
  case member target name => exact partsBut_subset skips target
  case binary op left right =>
    exact append_subset_append (partsBut_subset skips left) (partsBut_subset skips right)
  case not operand => exact partsBut_subset skips operand
  case negate operand => exact partsBut_subset skips operand
  case convert kind operand => exact partsBut_subset skips operand
  case call method args => exact partsOfAllBut_subset skips _ args
  case invoke target method args =>
    exact append_subset_append (partsBut_subset skips target) (partsOfAllBut_subset skips _ args)
  case list items => exact partsOfAllBut_subset skips _ items

/-- What is looked at in several expressions is part of them. -/
theorem partsOfAllBut_subset (skips : Expr → Bool) (skip : Bool) (es : List Expr) :
    partsOfAllBut skips skip es ⊆ partsOfAll es := by
  cases es with
  | nil => exact List.Subset.refl _
  | cons e es =>
    rw [partsOfAllBut, partsOfAll_cons]
    refine append_subset_append ?_ (partsOfAllBut_subset skips skip es)
    split
    · exact List.nil_subset _
    · exact partsBut_subset skips e

end

mutual

/-- All parts are looked at if no call is skipped. -/
theorem partsBut_eq_parts {skips : Expr → Bool} {e : Expr} (h : ∀ p ∈ e.parts, skips p = false) :
    e.partsBut skips = e.parts := by
  have whole := h e mem_parts_self
  cases e <;> rw [partsBut] <;>
    simp only [parts_parameter, parts_constant, parts_closure, parts_member, parts_binary,
      parts_not, parts_negate, parts_convert, parts_call, parts_invoke, parts_list,
      List.forall_mem_cons, List.forall_mem_append] at h ⊢
  case member target name => rw [partsBut_eq_parts h.2]
  case binary op left right => rw [partsBut_eq_parts h.2.1, partsBut_eq_parts h.2.2]
  case not operand => rw [partsBut_eq_parts h.2]
  case negate operand => rw [partsBut_eq_parts h.2]
  case convert kind operand => rw [partsBut_eq_parts h.2]
  case call method args => rw [whole, partsOfAllBut_eq_partsOfAll h.2]
  case invoke target method args =>
    rw [whole, partsBut_eq_parts h.2.1, partsOfAllBut_eq_partsOfAll h.2.2]
  case list items => rw [partsOfAllBut_eq_partsOfAll h.2]

/-- All parts of several expressions are looked at if no call is skipped. -/
theorem partsOfAllBut_eq_partsOfAll {skips : Expr → Bool} {es : List Expr}
    (h : ∀ p ∈ partsOfAll es, skips p = false) :
    partsOfAllBut skips false es = partsOfAll es := by
  cases es with
  | nil => rw [partsOfAllBut, partsOfAll_nil]
  | cons e es =>
    rw [partsOfAll_cons, List.forall_mem_append] at h
    rw [partsOfAllBut, partsOfAll_cons, partsBut_eq_parts h.1, partsOfAllBut_eq_partsOfAll h.2]
    rfl

end

mutual

/-- Each part of an expression has one of its shape in every expression of the same shape. -/
theorem exists_part_of_sameShape {a b q : Expr} (same : sameShape a b = true) (hq : q ∈ b.parts) :
    ∃ p ∈ a.parts, sameShape p q = true := by
  by_cases whole : q = b
  · exact ⟨a, mem_parts_self, whole ▸ same⟩
  · cases a <;> cases b <;> simp only [sameShape, Bool.and_eq_true, Bool.false_eq_true] at same <;>
      simp only [parts_parameter, parts_constant, parts_closure, parts_member, parts_binary,
        parts_not, parts_negate, parts_convert, parts_call, parts_invoke, parts_list,
        List.mem_cons, List.mem_append, List.not_mem_nil, or_false, whole, false_or] at hq
    case member.member =>
      obtain ⟨p, hp, alike⟩ := exists_part_of_sameShape same.2 hq
      exact ⟨p, by simp [hp], alike⟩
    case binary.binary =>
      rcases hq with hq | hq
      · obtain ⟨p, hp, alike⟩ := exists_part_of_sameShape same.1.2 hq
        exact ⟨p, by simp [hp], alike⟩
      · obtain ⟨p, hp, alike⟩ := exists_part_of_sameShape same.2 hq
        exact ⟨p, by simp [hp], alike⟩
    case not.not =>
      obtain ⟨p, hp, alike⟩ := exists_part_of_sameShape same hq
      exact ⟨p, by simp [hp], alike⟩
    case negate.negate =>
      obtain ⟨p, hp, alike⟩ := exists_part_of_sameShape same hq
      exact ⟨p, by simp [hp], alike⟩
    case convert.convert =>
      obtain ⟨p, hp, alike⟩ := exists_part_of_sameShape same.2 hq
      exact ⟨p, by simp [hp], alike⟩
    case call.call =>
      obtain ⟨p, hp, alike⟩ := exists_part_of_sameShapes same.2 hq
      exact ⟨p, by simp [hp], alike⟩
    case invoke.invoke =>
      rcases hq with hq | hq
      · obtain ⟨p, hp, alike⟩ := exists_part_of_sameShape same.1.2 hq
        exact ⟨p, by simp [hp], alike⟩
      · obtain ⟨p, hp, alike⟩ := exists_part_of_sameShapes same.2 hq
        exact ⟨p, by simp [hp], alike⟩
    case list.list =>
      obtain ⟨p, hp, alike⟩ := exists_part_of_sameShapes same hq
      exact ⟨p, by simp [hp], alike⟩

/-- The same for several expressions, which have the same shapes one by one. -/
theorem exists_part_of_sameShapes {as bs : List Expr} {q : Expr}
    (same : sameShapes as bs = true) (hq : q ∈ partsOfAll bs) :
    ∃ p ∈ partsOfAll as, sameShape p q = true := by
  cases as <;> cases bs <;> simp only [sameShapes, Bool.and_eq_true, Bool.false_eq_true] at same
  case nil.nil => simp at hq
  case cons.cons =>
    rw [partsOfAll_cons, List.mem_append] at hq
    rcases hq with hq | hq
    · obtain ⟨p, hp, alike⟩ := exists_part_of_sameShape same.1 hq
      exact ⟨p, by simp [hp], alike⟩
    · obtain ⟨p, hp, alike⟩ := exists_part_of_sameShapes same.2 hq
      exact ⟨p, by simp [hp], alike⟩

end

end RelMap.Expr

namespace RelMap.Evaluation

mutual

/-- The parts of an expression that has a program have programs. -/
theorem ofExpr_of_mem_parts {e p : Expr} {q : Program} (h : Program.ofExpr e = .ok q)
    (hp : p ∈ e.parts) : ∃ q, Program.ofExpr p = .ok q := by
  by_cases whole : p = e
  · exact ⟨q, whole ▸ h⟩
  · cases e <;> simp only [Program.ofExpr, bind_eq_ok, pure_eq_ok, reduceCtorEq] at h <;>
      simp only [Expr.parts_constant, Expr.parts_closure, Expr.parts_member, Expr.parts_binary,
        Expr.parts_not, Expr.parts_negate, Expr.parts_convert, Expr.parts_call,
        Expr.parts_invoke, Expr.parts_list, List.mem_cons, List.mem_append, List.not_mem_nil,
        or_false, whole, false_or] at hp
    case member =>
      obtain ⟨t, ht, -⟩ := h
      exact ofExpr_of_mem_parts ht hp
    case binary =>
      obtain ⟨l, hl, r, hr, -⟩ := h
      exact hp.elim (ofExpr_of_mem_parts hl) (ofExpr_of_mem_parts hr)
    case not =>
      obtain ⟨o, ho, -⟩ := h
      exact ofExpr_of_mem_parts ho hp
    case negate =>
      obtain ⟨o, ho, -⟩ := h
      exact ofExpr_of_mem_parts ho hp
    case convert =>
      obtain ⟨o, ho, -⟩ := h
      exact ofExpr_of_mem_parts ho hp
    case call =>
      obtain ⟨u, -, a, ha, -⟩ := h
      exact ofExpr_of_mem_partsOfAll ha hp
    case invoke =>
      obtain ⟨u, -, t, ht, a, ha, -⟩ := h
      exact hp.elim (ofExpr_of_mem_parts ht) (ofExpr_of_mem_partsOfAll ha)
    case list =>
      obtain ⟨i, hi, -⟩ := h
      exact ofExpr_of_mem_partsOfAll hi hp

/-- The same for several expressions. -/
theorem ofExpr_of_mem_partsOfAll {es : List Expr} {p : Expr} {q : Program}
    (h : Program.ofAll es = .ok q) (hp : p ∈ Expr.partsOfAll es) :
    ∃ q, Program.ofExpr p = .ok q := by
  cases es with
  | nil => simp at hp
  | cons e es =>
    simp only [Program.ofAll, bind_eq_ok] at h
    obtain ⟨first, hfirst, rest, hrest, -⟩ := h
    rw [Expr.partsOfAll_cons, List.mem_append] at hp
    exact hp.elim (ofExpr_of_mem_parts hfirst) (ofExpr_of_mem_partsOfAll hrest)

end

end RelMap.Evaluation
