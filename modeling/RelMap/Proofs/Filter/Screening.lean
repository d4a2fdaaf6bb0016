import RelMap.Proofs.Expr.Parts
import RelMap.Proofs.Filter.Compile

/-!
# What no statement can express

Some parts of a filter have no place in any statement: calls of methods that are known by their name
only, properties without a column, and paths through the entity. There is no pass that looks for
them; the compiler comes upon them where it writes the part. A rule for each way in which
compilations are put together says which parts a compilation has found in order when it succeeds,
and which part it blames when it fails.
-/

namespace RelMap

/-- Whether a fault is about a part that no statement can express. -/
def Fault.isUntranslatable : Fault → Bool
  | .mapping _ => true
  | .unsupported (.method _) => true
  | .unsupported (.navigation _ _) => true
  | .unsupported (.memberAccess _) => true
  | _ => false

namespace Expr

/--
Whether a node, for itself, can be expressed in a statement: a method that it calls is none of those
known by their name only, and what it reads of the entity is a property with a column.
-/
def Translatable (m : EntityMapping) : Expr → Prop
  | .member target name =>
    target.dependsOnParameter = true →
      (∃ x, target = .parameter x) ∧ ∃ c, m.requireColumn name = .ok c
  | .call method _ => method.isNamed = false
  | .invoke _ method _ => method.isNamed = false
  | _ => True

/-- The fault of a node that cannot be expressed. -/
inductive Refused (m : EntityMapping) : Expr → Fault → Prop where
  | unmapped {x name fault} :
    m.requireColumn name = .error fault →
    Refused m (.member (.parameter x) name) (.mapping fault)
  | path {target name} :
    target.dependsOnParameter = true →
    (∀ x, target ≠ .parameter x) →
    Refused m (.member target name) (.unsupported (Filter.memberFault target name))
  | call {name args} :
    Refused m (.call (.named name) args) (.unsupported (.method name))
  | invoke {target name args} :
    Refused m (.invoke target (.named name) args) (.unsupported (.method name))

variable {m : EntityMapping} {e p q : Expr} {fault : Fault}

lemma Refused.not_translatable (h : Refused m p fault) : ¬p.Translatable m := by
  intro fine
  cases h with
  | unmapped missing =>
    obtain ⟨-, c, found⟩ := fine rfl
    exact nomatch missing.symm.trans found
  | path reads other =>
    obtain ⟨⟨x, direct⟩, -⟩ := fine reads
    exact other x direct
  | call => cases fine
  | invoke => cases fine

/-- A node of another with the same shape can be expressed if that one can. -/
lemma Translatable.of_sameShape (fine : p.Translatable m) (same : sameShape p q = true) :
    q.Translatable m := by
  cases p <;> cases q <;>
    simp only [sameShape, Bool.and_eq_true, beq_iff_eq, Bool.false_eq_true] at same
  case member.member =>
    obtain ⟨rfl, same⟩ := same
    intro reads
    obtain ⟨⟨x, rfl⟩, column⟩ := fine ((dependsOnParameter_eq_of_sameShape same).trans reads)
    refine ⟨?_, column⟩
    cases ‹Expr› <;> simp only [sameShape, Bool.false_eq_true] at same
    exact ⟨_, rfl⟩
  case call.call =>
    obtain ⟨rfl, -⟩ := same
    exact fine
  case invoke.invoke =>
    obtain ⟨⟨rfl, -⟩, -⟩ := same
    exact fine
  all_goals trivial

end Expr

namespace Evaluation

open RelMap.Expr

lemma checkMethod_eq_error {method : Method} {fault : Fault} :
    checkMethod method = .error fault ↔
      ∃ name, method = .named name ∧ fault = .unsupported (.method name) := by
  cases method <;> simp [checkMethod, eq_comm]

mutual

/-- An expression that has no program calls a method by name, or has no value for another reason. -/
theorem refused_of_ofExpr {m : EntityMapping} {e : Expr} {fault : Fault}
    (h : Program.ofExpr e = .error fault) (untranslatable : fault.isUntranslatable = true) :
    ∃ p ∈ e.parts, p.Refused m fault := by
  cases e <;> simp only [Program.ofExpr, bind_eq_error, pure_eq_ok, reduceCtorEq, and_false,
    exists_false, or_false, checkMethod_eq_error] at h
  case parameter name =>
    cases h
    cases untranslatable
  case member target name =>
    obtain ⟨p, hp, refused⟩ := refused_of_ofExpr (m := m) h untranslatable
    exact ⟨p, by simp [hp], refused⟩
  case binary op left right =>
    obtain h | ⟨_, _, h⟩ := h
    all_goals
      obtain ⟨p, hp, refused⟩ := refused_of_ofExpr (m := m) h untranslatable
      exact ⟨p, by simp [hp], refused⟩
  case not operand =>
    obtain ⟨p, hp, refused⟩ := refused_of_ofExpr (m := m) h untranslatable
    exact ⟨p, by simp [hp], refused⟩
  case negate operand =>
    obtain ⟨p, hp, refused⟩ := refused_of_ofExpr (m := m) h untranslatable
    exact ⟨p, by simp [hp], refused⟩
  case convert kind operand =>
    obtain ⟨p, hp, refused⟩ := refused_of_ofExpr (m := m) h untranslatable
    exact ⟨p, by simp [hp], refused⟩
  case call method args =>
    obtain ⟨name, rfl, rfl⟩ | ⟨_, _, h⟩ := h
    · exact ⟨_, mem_parts_self, .call⟩
    · obtain ⟨p, hp, refused⟩ := refused_of_ofAll (m := m) h untranslatable
      exact ⟨p, by simp [hp], refused⟩
  case invoke target method args =>
    obtain ⟨name, rfl, rfl⟩ | ⟨_, _, h | ⟨_, _, h⟩⟩ := h
    · exact ⟨_, mem_parts_self, .invoke⟩
    · obtain ⟨p, hp, refused⟩ := refused_of_ofExpr (m := m) h untranslatable
      exact ⟨p, by simp [hp], refused⟩
    · obtain ⟨p, hp, refused⟩ := refused_of_ofAll (m := m) h untranslatable
      exact ⟨p, by simp [hp], refused⟩
  case list items =>
    obtain ⟨p, hp, refused⟩ := refused_of_ofAll (m := m) h untranslatable
    exact ⟨p, by simp [hp], refused⟩

/-- The same for several expressions. -/
theorem refused_of_ofAll {m : EntityMapping} {es : List Expr} {fault : Fault}
    (h : Program.ofAll es = .error fault) (untranslatable : fault.isUntranslatable = true) :
    ∃ p ∈ partsOfAll es, p.Refused m fault := by
  cases es with
  | nil => cases h
  | cons e es =>
    simp only [Program.ofAll, bind_eq_error, pure_eq_ok, reduceCtorEq, and_false, exists_false,
      or_false] at h
    obtain h | ⟨_, _, h⟩ := h
    · obtain ⟨p, hp, refused⟩ := refused_of_ofExpr (m := m) h untranslatable
      exact ⟨p, by simp [hp], refused⟩
    · obtain ⟨p, hp, refused⟩ := refused_of_ofAll (m := m) h untranslatable
      exact ⟨p, by simp [hp], refused⟩

end

variable {m : EntityMapping} {e p : Expr} {v : Value} {fault : Fault}

/-- A node that neither reads the entity nor calls a method by name can be expressed. -/
lemma translatable_of_closed (free : p.dependsOnParameter = false) (known : p.callsNamed = false) :
    p.Translatable m := by
  cases p with
  | member target name => exact fun reads => nomatch free.symm.trans reads
  | call method args => exact (Bool.or_eq_false_iff.1 known).1
  | invoke target method args =>
    exact (Bool.or_eq_false_iff.1 (Bool.or_eq_false_iff.1 known).1).1
  | _ => trivial

lemma translatable_of_value (h : value e = .ok v) (hp : p ∈ e.parts) : p.Translatable m := by
  unfold value at h
  cases program : Program.ofExpr e with
  | error fault => simp [program] at h
  | ok program' =>
    obtain ⟨part, hpart⟩ := ofExpr_of_mem_parts program hp
    exact translatable_of_closed (closed_of_ofExpr hpart).1 (closed_of_ofExpr hpart).2

/-- An expression without a value because of a part has such a part. -/
lemma refused_of_value (h : value e = .error fault) (untranslatable : fault.isUntranslatable = true) :
    ∃ p ∈ e.parts, p.Refused m fault := by
  unfold value at h
  cases program : Program.ofExpr e with
  | ok program' =>
    rw [program] at h
    dsimp only at h
    split at h
    · cases h
    · cases h
      cases untranslatable
  | error fault' =>
    rw [program] at h
    cases h
    exact refused_of_ofExpr program untranslatable

end Evaluation

namespace Filter

variable {σ α β : Type}

/--
All of some parts are in order where there is a result, and where a part that no statement can
express is the fault, it is one of some other parts.
-/
def Screened (m : EntityMapping) (found blamed : List Expr) : Except Fault α → Prop
  | .ok _ => ∀ p ∈ found, p.Translatable m
  | .error fault => fault.isUntranslatable = true → ∃ p ∈ blamed, p.Refused m fault

/-- A compilation that ends so from every good state of the evaluator, and leads to a good one. -/
def Screens (s : Setting σ) (good : σ → Prop) (m : Compile σ α) (found blamed : List Expr) : Prop :=
  ∀ p, good p.evaluators →
    good (m.run.run p).2.evaluators ∧ Screened s.mapping found blamed (m.run.run p).1

variable {s : Setting σ} {good : σ → Prop} {m : Compile σ α} {f : α → Compile σ β}
variable {found found' blamed blamed' : List Expr}

lemma Screened.mono {r : Except Fault α} (h : Screened s.mapping found blamed r)
    (fewer : found' ⊆ found) (more : blamed ⊆ blamed') : Screened s.mapping found' blamed' r := by
  cases r with
  | ok a => exact fun q hq => h q (fewer hq)
  | error fault =>
    intro untranslatable
    obtain ⟨q, hq, refused⟩ := h untranslatable
    exact ⟨q, more hq, refused⟩

lemma Screened.after {r : Except Fault α} (h : Screened s.mapping found blamed r)
    (before : ∀ p ∈ found', p.Translatable s.mapping) :
    Screened s.mapping (found' ++ found) blamed r := by
  cases r with
  | ok a => exact fun p hp => (List.mem_append.1 hp).elim (before p) (h p)
  | error fault => exact h

namespace Screens

/-- Fewer parts may be found in order, and more blamed. -/
lemma mono (h : Screens s good m found blamed) (fewer : found' ⊆ found) (more : blamed ⊆ blamed') :
    Screens s good m found' blamed' :=
  fun p hp => ⟨(h p hp).1, (h p hp).2.mono fewer more⟩

lemma pure {a : α} (h : ∀ q ∈ found, q.Translatable s.mapping) :
    Screens s good (Pure.pure a) found blamed :=
  fun _ hp => ⟨hp, h⟩

lemma throw {fault : Fault}
    (h : fault.isUntranslatable = true → ∃ q ∈ blamed, q.Refused s.mapping fault) :
    Screens s good (MonadExcept.throw fault : Compile σ α) found blamed :=
  fun _ hp => ⟨hp, h⟩

/-- A failure for another reason than what a part is. -/
lemma other {fault : Fault} (h : fault.isUntranslatable = false) :
    Screens s good (MonadExcept.throw fault : Compile σ α) found blamed :=
  throw fun untranslatable => nomatch h.symm.trans untranslatable

lemma ite {c : Prop} [Decidable c] {m' : Compile σ α} (h : Screens s good m found blamed)
    (h' : Screens s good m' found blamed) : Screens s good (if c then m else m') found blamed := by
  split
  · exact h
  · exact h'

/-- Two steps, one after the other, find what each of them does. -/
lemma bind (hm : Screens s good m found blamed)
    (hf : ∀ a, Screens s good (f a) found' blamed') :
    Screens s good (m >>= f) (found ++ found') (blamed ++ blamed') := by
  intro p hp
  obtain ⟨next, first⟩ := hm p hp
  rw [run_bind]
  rcases run : m.run.run p with ⟨fault | a, q⟩
  · rw [run] at next first
    exact ⟨next, Screened.mono (r := (.error fault : Except Fault α)) first
      (List.Subset.refl _) (List.subset_append_left ..)⟩
  · rw [run] at next first
    obtain ⟨last, second⟩ := hf a q next
    exact ⟨last, (second.after first).mono (List.Subset.refl _) (List.subset_append_right ..)⟩

/-- A first step finds all there is to be found, and what comes after it blames nothing else. -/
lemma first (hm : Screens s good m found blamed) (hf : ∀ a, Screens s good (f a) [] blamed) :
    Screens s good (m >>= f) found blamed :=
  (hm.bind hf).mono (List.subset_append_left ..)
    (List.append_subset.2 ⟨List.Subset.refl _, List.Subset.refl _⟩)

lemma map (hm : Screens s good m found blamed) {g : α → β} :
    Screens s good (m >>= fun a => Pure.pure (g a)) found blamed :=
  hm.first fun _ => pure nofun

lemma bound {f : Nat → Compile σ β} (v : Value) (hf : ∀ index, Screens s good (f index) found blamed) :
    Screens s good (Filter.bind v >>= f) found blamed := by
  intro p hp
  exact hf p.bound.length { p with bound := p.bound ++ [v] } hp

lemma boundAll {f : List Nat → Compile σ β} (values : List Value)
    (hf : ∀ items, Screens s good (f items) found blamed) :
    Screens s good (bindAll values >>= f) found blamed := by
  induction values generalizing f with
  | nil => exact hf []
  | cons v values ih =>
    rw [bindAll, bind_assoc]
    refine bound v fun index => ?_
    rw [bind_assoc]
    exact ih fun items => hf (index :: items)

/-- A captured expression is evaluated, and all its parts are in order if it has a value. -/
lemma evaluate (hs : s.Faithful good) {e : Expr} {f : Value → Compile σ β}
    (hf : ∀ v, Evaluation.value e = .ok v → Screens s good (f v) found blamed) :
    Screens s good (Filter.evaluate s e >>= f) (e.parts ++ found) (e.parts ++ blamed) := by
  intro p hp
  obtain ⟨q, hq, -, run⟩ := hs.run_evaluate e hp
  rw [run_bind, run]
  cases he : Evaluation.value e with
  | error fault =>
    refine ⟨hq, fun untranslatable => ?_⟩
    obtain ⟨part, hpart, refused⟩ := Evaluation.refused_of_value he untranslatable
    exact ⟨part, List.mem_append_left _ hpart, refused⟩
  | ok v =>
    obtain ⟨next, result⟩ := hf v he q hq
    exact ⟨next, (result.after fun part hpart => Evaluation.translatable_of_value he hpart).mono
      (List.Subset.refl _) (List.subset_append_right ..)⟩

/-- The same where nothing but the captured expression is to be found. -/
lemma evaluated (hs : s.Faithful good) {e : Expr} {f : Value → Compile σ β}
    (hf : ∀ v, Evaluation.value e = .ok v → Screens s good (f v) [] []) :
    Screens s good (Filter.evaluate s e >>= f) e.parts e.parts :=
  (evaluate hs hf).mono (List.subset_append_left ..) (by rw [List.append_nil]; exact .refl _)

end Screens

end Filter

end RelMap
