import RelMap.Proofs.Expr.Shape

/-!
# Captured parts

The captured parts of an expression are its largest parts that do not read the entity. Two
expressions resemble each other if they differ in nothing but such parts.
-/

namespace RelMap.Expr

mutual

/-- The captured parts of an expression, from left to right. -/
def captures (e : Expr) : List Expr :=
  if !e.dependsOnParameter then [e]
  else
    match e with
    | .parameter _ | .constant _ | .closure _ => []
    | .member target _ => captures target
    | .binary _ left right => captures left ++ captures right
    | .not operand => captures operand
    | .negate operand => captures operand
    | .convert _ operand => captures operand
    | .call _ args => capturesOfAll args
    | .invoke target _ args => captures target ++ capturesOfAll args
    | .list items => capturesOfAll items

/-- The captured parts of several expressions. -/
def capturesOfAll : List Expr → List Expr
  | [] => []
  | e :: es => captures e ++ capturesOfAll es

end

mutual

/-- An expression with something else in the place of each captured part. -/
def mapCaptures (f : Expr → Expr) (e : Expr) : Expr :=
  if !e.dependsOnParameter then f e
  else
    match e with
    | .parameter name => .parameter name
    | .constant value => .constant value
    | .closure captured => .closure captured
    | .member target name => .member (mapCaptures f target) name
    | .binary op left right => .binary op (mapCaptures f left) (mapCaptures f right)
    | .not operand => .not (mapCaptures f operand)
    | .negate operand => .negate (mapCaptures f operand)
    | .convert target operand => .convert target (mapCaptures f operand)
    | .call method args => .call method (mapCapturesOfAll f args)
    | .invoke target method args =>
      .invoke (mapCaptures f target) method (mapCapturesOfAll f args)
    | .list items => .list (mapCapturesOfAll f items)

/-- Several expressions with something else in the place of each captured part. -/
def mapCapturesOfAll (f : Expr → Expr) : List Expr → List Expr
  | [] => []
  | e :: es => mapCaptures f e :: mapCapturesOfAll f es

end

mutual

/--
Two expressions that differ at most in captured parts, which are related, and in the names of
parameters, unless these have to be the same.
-/
inductive Resembles (exact : Prop) (R : Expr → Expr → Prop) : Expr → Expr → Prop where
  | captured {a b} :
    a.dependsOnParameter = false →
    b.dependsOnParameter = false →
    R a b →
    Resembles exact R a b
  | parameter {m n} :
    (exact → m = n) →
    Resembles exact R (.parameter m) (.parameter n)
  | member {a b} (name : String) :
    (member a name).dependsOnParameter = true →
    Resembles exact R a b →
    Resembles exact R (.member a name) (.member b name)
  | binary {a b c d} (op : BinaryOp) :
    (binary op a b).dependsOnParameter = true →
    Resembles exact R a c →
    Resembles exact R b d →
    Resembles exact R (.binary op a b) (.binary op c d)
  | not {a b} :
    (not a).dependsOnParameter = true →
    Resembles exact R a b →
    Resembles exact R (.not a) (.not b)
  | negate {a b} :
    (negate a).dependsOnParameter = true →
    Resembles exact R a b →
    Resembles exact R (.negate a) (.negate b)
  | convert {a b} (target : Kind) :
    (convert target a).dependsOnParameter = true →
    Resembles exact R a b →
    Resembles exact R (.convert target a) (.convert target b)
  | call {as bs} (method : Method) :
    (call method as).dependsOnParameter = true →
    ResembleAll exact R as bs →
    Resembles exact R (.call method as) (.call method bs)
  | invoke {a b as bs} (method : Method) :
    (invoke a method as).dependsOnParameter = true →
    Resembles exact R a b →
    ResembleAll exact R as bs →
    Resembles exact R (.invoke a method as) (.invoke b method bs)
  | list {as bs} :
    (list as).dependsOnParameter = true →
    ResembleAll exact R as bs →
    Resembles exact R (.list as) (.list bs)

/-- Two lists of expressions that resemble each other item by item. -/
inductive ResembleAll (exact : Prop) (R : Expr → Expr → Prop) : List Expr → List Expr → Prop where
  | nil : ResembleAll exact R [] []
  | cons {a b as bs} :
    Resembles exact R a b →
    ResembleAll exact R as bs →
    ResembleAll exact R (a :: as) (b :: bs)

end

variable {exact : Prop} {R : Expr → Expr → Prop} {e f : Expr} {es fs : List Expr}

mutual

/-- Expressions that resemble each other read the entity, or none of them does. -/
theorem Resembles.dependsOnParameter_eq {e f : Expr} (h : Resembles exact R e f) :
    e.dependsOnParameter = f.dependsOnParameter := by
  cases h with
  | captured ha hb => rw [ha, hb]
  | parameter => rfl
  | member name _ h => exact h.dependsOnParameter_eq
  | binary op _ hl hr =>
    rw [dependsOnParameter, dependsOnParameter, hl.dependsOnParameter_eq, hr.dependsOnParameter_eq]
  | not _ h => exact h.dependsOnParameter_eq
  | negate _ h => exact h.dependsOnParameter_eq
  | convert _ _ h => exact h.dependsOnParameter_eq
  | call _ _ h => exact h.anyDependsOnParameter_eq
  | invoke _ _ ht ha =>
    rw [dependsOnParameter, dependsOnParameter, ht.dependsOnParameter_eq,
      ha.anyDependsOnParameter_eq]
  | list _ h => exact h.anyDependsOnParameter_eq

/-- The same for several expressions. -/
theorem ResembleAll.anyDependsOnParameter_eq {es fs : List Expr} (h : ResembleAll exact R es fs) :
    anyDependsOnParameter es = anyDependsOnParameter fs := by
  cases h with
  | nil => rfl
  | cons h hs =>
    rw [anyDependsOnParameter, anyDependsOnParameter, h.dependsOnParameter_eq,
      hs.anyDependsOnParameter_eq]

end

/-- What resembles a captured expression is captured and related to it. -/
lemma Resembles.of_captured (h : Resembles exact R e f) (captured : e.dependsOnParameter = false) :
    f.dependsOnParameter = false ∧ R e f := by
  cases h with
  | captured _ hb hr => exact ⟨hb, hr⟩
  | parameter => cases captured
  | member _ reads | not reads | negate reads | convert _ reads | list reads | binary _ reads
  | call _ reads | invoke _ reads => exact absurd (captured.symm.trans reads) Bool.false_ne_true

/-- An expression that reads the entity is the same property as what resembles it, or is none. -/
theorem Resembles.property?_eq {e f : Expr} (h : Resembles exact R e f)
    (reads : e.dependsOnParameter = true) : e.property? = f.property? := by
  cases h with
  | captured ha => exact absurd (ha.symm.trans reads) Bool.false_ne_true
  | convert target _ h => exact h.property?_eq reads
  | member name _ h =>
    cases h with
    | captured ha => exact absurd (ha.symm.trans reads) Bool.false_ne_true
    | _ => rfl
  | _ => rfl

/-- An expression that reads the entity has the same path of members as what resembles it. -/
theorem Resembles.memberPath?_eq {e f : Expr} (h : Resembles exact R e f)
    (reads : e.dependsOnParameter = true) : e.memberPath? = f.memberPath? := by
  cases h with
  | captured ha => exact absurd (ha.symm.trans reads) Bool.false_ne_true
  | convert target _ h => exact h.memberPath?_eq reads
  | member name _ h => rw [memberPath?, memberPath?, h.memberPath?_eq reads]
  | _ => rfl

mutual

/-- An expression resembles itself if its captured parts are related to themselves. -/
theorem Resembles.refl (related : ∀ a, R a a) (e : Expr) : Resembles exact R e e := by
  cases reads : e.dependsOnParameter with
  | false => exact .captured reads reads (related e)
  | true =>
    cases e with
    | parameter name => exact .parameter fun _ => rfl
    | constant value => cases reads
    | closure captured => cases reads
    | member target name => exact .member name reads (.refl related target)
    | binary op left right =>
      exact .binary op reads (.refl related left) (.refl related right)
    | not operand => exact .not reads (.refl related operand)
    | negate operand => exact .negate reads (.refl related operand)
    | convert target operand => exact .convert target reads (.refl related operand)
    | call method args => exact .call method reads (.refl related args)
    | invoke target method args =>
      exact .invoke method reads (.refl related target) (.refl related args)
    | list items => exact .list reads (.refl related items)

/-- The same for several expressions. -/
theorem ResembleAll.refl (related : ∀ a, R a a) (es : List Expr) : ResembleAll exact R es es := by
  cases es with
  | nil => exact .nil
  | cons e es => exact .cons (.refl related e) (.refl related es)

end

lemma captures_of_captured (h : e.dependsOnParameter = false) : e.captures = [e] := by
  unfold captures
  rw [if_pos (by rw [h]; rfl)]

mutual

/-- Captured parts do not read the entity. -/
theorem dependsOnParameter_of_mem_captures {c : Expr} (e : Expr) (h : c ∈ e.captures) :
    c.dependsOnParameter = false := by
  cases reads : e.dependsOnParameter with
  | false =>
    rw [captures_of_captured reads] at h
    cases List.mem_singleton.1 h
    exact reads
  | true =>
    have whole : (!e.dependsOnParameter) = false := by rw [reads]; rfl
    unfold captures at h
    rw [whole, if_neg Bool.false_ne_true] at h
    cases e with
    | parameter name => cases h
    | constant value => cases h
    | closure captured => cases h
    | member target name => exact dependsOnParameter_of_mem_captures target h
    | binary op left right =>
      rcases List.mem_append.1 h with h | h
      · exact dependsOnParameter_of_mem_captures left h
      · exact dependsOnParameter_of_mem_captures right h
    | not operand => exact dependsOnParameter_of_mem_captures operand h
    | negate operand => exact dependsOnParameter_of_mem_captures operand h
    | convert target operand => exact dependsOnParameter_of_mem_captures operand h
    | call method args => exact dependsOnParameter_of_mem_capturesOfAll args h
    | invoke target method args =>
      rcases List.mem_append.1 h with h | h
      · exact dependsOnParameter_of_mem_captures target h
      · exact dependsOnParameter_of_mem_capturesOfAll args h
    | list items => exact dependsOnParameter_of_mem_capturesOfAll items h

/-- The same for several expressions. -/
theorem dependsOnParameter_of_mem_capturesOfAll {c : Expr} (es : List Expr)
    (h : c ∈ capturesOfAll es) : c.dependsOnParameter = false := by
  cases es with
  | nil => cases h
  | cons e es =>
    rcases List.mem_append.1 h with h | h
    · exact dependsOnParameter_of_mem_captures e h
    · exact dependsOnParameter_of_mem_capturesOfAll es h

end

lemma mapCaptures_of_captured {g : Expr → Expr} (h : e.dependsOnParameter = false) :
    e.mapCaptures g = g e := by
  unfold mapCaptures
  rw [if_pos (by rw [h]; rfl)]

mutual

/-- Replacing captured parts by related ones gives an expression that resembles the first. -/
theorem Resembles.mapCaptures {g : Expr → Expr} (e : Expr)
    (h : ∀ c ∈ e.captures, (g c).dependsOnParameter = false ∧ R c (g c)) :
    Resembles exact R e (e.mapCaptures g) := by
  cases reads : e.dependsOnParameter with
  | false =>
    rw [captures_of_captured reads] at h
    obtain ⟨free, related⟩ := h e (List.mem_singleton_self e)
    rw [mapCaptures_of_captured reads]
    exact .captured reads free related
  | true =>
    have whole : (!e.dependsOnParameter) = false := by rw [reads]; rfl
    unfold captures at h
    unfold Expr.mapCaptures
    rw [whole, if_neg Bool.false_ne_true] at h ⊢
    cases e with
    | parameter name => exact .parameter fun _ => rfl
    | constant value => cases reads
    | closure captured => cases reads
    | member target name => exact .member name reads (.mapCaptures target h)
    | binary op left right =>
      exact .binary op reads (.mapCaptures left fun c hc => h c (List.mem_append_left _ hc))
        (.mapCaptures right fun c hc => h c (List.mem_append_right _ hc))
    | not operand => exact .not reads (.mapCaptures operand h)
    | negate operand => exact .negate reads (.mapCaptures operand h)
    | convert target operand => exact .convert target reads (.mapCaptures operand h)
    | call method args => exact .call method reads (.mapCapturesOfAll args h)
    | invoke target method args =>
      exact .invoke method reads (.mapCaptures target fun c hc => h c (List.mem_append_left _ hc))
        (.mapCapturesOfAll args fun c hc => h c (List.mem_append_right _ hc))
    | list items => exact .list reads (.mapCapturesOfAll items h)

/-- The same for several expressions. -/
theorem ResembleAll.mapCapturesOfAll {g : Expr → Expr} (es : List Expr)
    (h : ∀ c ∈ capturesOfAll es, (g c).dependsOnParameter = false ∧ R c (g c)) :
    ResembleAll exact R es (Expr.mapCapturesOfAll g es) := by
  cases es with
  | nil => exact .nil
  | cons e es =>
    exact .cons (.mapCaptures e fun c hc => h c (List.mem_append_left _ hc))
      (.mapCapturesOfAll es fun c hc => h c (List.mem_append_right _ hc))

end

mutual

/-- Expressions of one shape have equally many captured parts. -/
theorem length_captures_eq {e f : Expr} (same : sameShape e f = true) :
    e.captures.length = f.captures.length := by
  have alike := dependsOnParameter_eq_of_sameShape same
  cases reads : e.dependsOnParameter with
  | false =>
    rw [captures_of_captured reads, captures_of_captured (alike.symm.trans reads)]
    rfl
  | true =>
    have whole : (!e.dependsOnParameter) = false := by rw [reads]; rfl
    have whole' : (!f.dependsOnParameter) = false := by rw [← alike, reads]; rfl
    unfold captures
    rw [whole, whole', if_neg Bool.false_ne_true, if_neg Bool.false_ne_true]
    cases e <;> cases f <;> simp only [sameShape, Bool.and_eq_true, Bool.false_eq_true] at same <;>
      try rfl
    case member.member => exact length_captures_eq same.2
    case binary.binary =>
      rw [List.length_append, List.length_append, length_captures_eq same.1.2,
        length_captures_eq same.2]
    case not.not => exact length_captures_eq same
    case negate.negate => exact length_captures_eq same
    case convert.convert => exact length_captures_eq same.2
    case call.call => exact length_capturesOfAll_eq same.2
    case invoke.invoke =>
      rw [List.length_append, List.length_append, length_captures_eq same.1.2,
        length_capturesOfAll_eq same.2]
    case list.list => exact length_capturesOfAll_eq same

/-- The same for several expressions. -/
theorem length_capturesOfAll_eq {es fs : List Expr} (same : sameShapes es fs = true) :
    (capturesOfAll es).length = (capturesOfAll fs).length := by
  cases es <;> cases fs <;> simp only [sameShapes, Bool.and_eq_true, Bool.false_eq_true] at same
  case nil.nil => rfl
  case cons.cons =>
    rw [capturesOfAll, capturesOfAll, List.length_append, List.length_append,
      length_captures_eq same.1, length_capturesOfAll_eq same.2]

end

section
variable {γ : Type} {g : Expr → γ}

/-- Two lists in two parts each look alike only if their parts do. -/
lemma append_map_inj {as bs cs ds : List Expr} (length : as.length = cs.length)
    (h : (as ++ bs).map g = (cs ++ ds).map g) : as.map g = cs.map g ∧ bs.map g = ds.map g := by
  rw [List.map_append, List.map_append] at h
  exact List.append_inj h (by rw [List.length_map, List.length_map, length])

mutual

/-- Expressions of one shape resemble each other if their captured parts look alike. -/
theorem Resembles.of_sameShape {e f : Expr} (related : ∀ {a b}, g a = g b → R a b)
    (same : sameShape e f = true) (h : e.captures.map g = f.captures.map g) :
    Resembles False R e f := by
  have alike := dependsOnParameter_eq_of_sameShape same
  cases reads : e.dependsOnParameter with
  | false =>
    rw [captures_of_captured reads, captures_of_captured (alike.symm.trans reads)] at h
    exact .captured reads (alike.symm.trans reads) (related (List.cons.inj h).1)
  | true =>
    have whole : (!e.dependsOnParameter) = false := by rw [reads]; rfl
    have whole' : (!f.dependsOnParameter) = false := by rw [← alike, reads]; rfl
    unfold captures at h
    rw [whole, whole', if_neg Bool.false_ne_true, if_neg Bool.false_ne_true] at h
    cases e <;> cases f <;>
      simp only [sameShape, Bool.and_eq_true, beq_iff_eq, Bool.false_eq_true] at same
    case parameter.parameter => exact .parameter False.elim
    case constant.constant => cases reads
    case closure.closure => cases reads
    case member.member =>
      obtain ⟨rfl, same⟩ := same
      exact .member _ reads (.of_sameShape related same h)
    case binary.binary =>
      obtain ⟨⟨rfl, left⟩, right⟩ := same
      obtain ⟨hl, hr⟩ := append_map_inj (length_captures_eq left) h
      exact .binary _ reads (.of_sameShape related left hl) (.of_sameShape related right hr)
    case not.not => exact .not reads (.of_sameShape related same h)
    case negate.negate => exact .negate reads (.of_sameShape related same h)
    case convert.convert =>
      obtain ⟨rfl, same⟩ := same
      exact .convert _ reads (.of_sameShape related same h)
    case call.call =>
      obtain ⟨rfl, same⟩ := same
      exact .call _ reads (.of_sameShapes related same h)
    case invoke.invoke =>
      obtain ⟨⟨rfl, target⟩, args⟩ := same
      obtain ⟨ht, ha⟩ := append_map_inj (length_captures_eq target) h
      exact .invoke _ reads (.of_sameShape related target ht) (.of_sameShapes related args ha)
    case list.list => exact .list reads (.of_sameShapes related same h)

/-- The same for several expressions. -/
theorem ResembleAll.of_sameShapes {es fs : List Expr} (related : ∀ {a b}, g a = g b → R a b)
    (same : sameShapes es fs = true) (h : (capturesOfAll es).map g = (capturesOfAll fs).map g) :
    ResembleAll False R es fs := by
  cases es <;> cases fs <;> simp only [sameShapes, Bool.and_eq_true, Bool.false_eq_true] at same
  case nil.nil => exact .nil
  case cons.cons =>
    obtain ⟨first, others⟩ := append_map_inj (length_captures_eq same.1) h
    exact .cons (.of_sameShape related same.1 first) (.of_sameShapes related same.2 others)

end

end

end RelMap.Expr
