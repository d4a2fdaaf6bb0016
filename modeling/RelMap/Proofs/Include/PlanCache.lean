import RelMap.Include.PlanCache
import RelMap.Proofs.Except

/-!
# What a plan cache holds

A property that holds of every plan when it is inserted holds of every plan that is found.
-/

namespace RelMap.PlanCache

variable {π ε : Type} {P : String → IncludeTree → π → Prop} {c : PlanCache π}
variable {fingerprint : String → IncludeTree → UInt64} {choice : Nat → Nat}

/-- Every cached plan fits what it was built for. -/
def Holds (P : String → IncludeTree → π → Prop) (c : PlanCache π) : Prop :=
  ∀ entry ∈ c.entries, P entry.dialect entry.tree entry.plan

lemma Holds.empty (capacity : Nat) : Holds P (PlanCache.empty capacity) := by
  intro entry h
  cases h

lemma Holds.clear (c : PlanCache π) : Holds P c.clear := by
  intro entry h
  cases h

lemma Holds.invalidate (h : Holds P c) (root : String) : Holds P (c.invalidate root).2 := by
  intro entry he
  exact h entry (List.mem_filter.1 he).1

/-- A cache that counts a hit holds what it held. -/
lemma Holds.countHit {entries : List (CachedPlan π)} (f : UInt64)
    (h : ∀ entry ∈ entries, P entry.dialect entry.tree entry.plan) :
    ∀ entry ∈ PlanCache.countHit f entries, P entry.dialect entry.tree entry.plan := by
  intro entry he
  obtain ⟨old, hold, rfl⟩ := List.mem_map.1 he
  split
  · exact h old hold
  · exact h old hold

/-- Whatever is found fits what is asked for, and the cache holds what it held. -/
lemma Holds.get (h : Holds P c) (dialect : String) (tree : IncludeTree) :
    (∀ plan, (c.get fingerprint dialect tree).1 = some plan → P dialect tree plan) ∧
      Holds P (c.get fingerprint dialect tree).2 := by
  unfold PlanCache.get
  dsimp only
  split
  next entry found =>
    split
    next same =>
      simp only [CachedPlan.isFor, Bool.and_eq_true, beq_iff_eq, decide_eq_true_eq] at same
      refine ⟨fun plan hp => ?_, Holds.countHit _ h⟩
      cases hp
      rw [← same.1, ← same.2]
      exact h entry (List.mem_of_find?_eq_some found)
    next => exact ⟨fun _ found => (by cases found), h⟩
  next => exact ⟨fun _ found => (by cases found), h⟩

/-- What is left without one entry was there before, in the same order. -/
lemma dropTied_sublist (hits passed : Nat) (entries : List (CachedPlan π)) :
    (dropTied hits passed entries).Sublist entries := by
  induction entries generalizing passed with
  | nil => exact .slnil
  | cons e es ih =>
    unfold dropTied
    split
    · cases passed with
      | zero => exact List.sublist_cons_self e es
      | succ more => exact (ih more).cons_cons e
    · exact (ih passed).cons_cons e

/-- What is there after an entry was put was there before, or is that entry. -/
lemma mem_of_mem_put {e entry : CachedPlan π} {entries : List (CachedPlan π)}
    (h : entry ∈ put e entries) : entry = e ∨ entry ∈ entries := by
  induction entries with
  | nil => exact .inl (List.mem_singleton.1 h)
  | cons f fs ih =>
    unfold put at h
    split at h
    · rcases List.mem_cons.1 h with rfl | h
      · exact .inl rfl
      · exact .inr (List.mem_cons_of_mem f h)
    · rcases List.mem_cons.1 h with rfl | h
      · exact .inr (List.mem_cons_self ..)
      · exact (ih h).imp_right (List.mem_cons_of_mem f)

/-- An evicting cache holds nothing new. -/
lemma Holds.evict (h : Holds P c) (choice : Nat → Nat) : Holds P (c.evict choice) := by
  unfold PlanCache.evict
  split
  next => exact fun entry he => h entry ((dropTied_sublist ..).subset he)
  next => exact h

/-- A cache holds what it held and the plan that is inserted. -/
lemma Holds.insert (h : Holds P c) {dialect : String} {tree : IncludeTree} {plan : π}
    (hp : P dialect tree plan) : Holds P (c.insert fingerprint choice dialect tree plan) := by
  have roomy : Holds P (if c.capacity ≤ c.size ∧ (c.entry? (fingerprint dialect tree)).isNone
      then c.evict choice else c) := by
    split
    · exact h.evict choice
    · exact h
  intro entry he
  rcases mem_of_mem_put he with rfl | he
  · exact hp
  · exact roomy entry he

/-- The plan that is found or built fits what is asked for, and so does all that is cached. -/
lemma Holds.getOrBuild (h : Holds P c) {dialect : String} {tree : IncludeTree}
    {build : Unit → Except ε π} (hb : ∀ plan, build () = .ok plan → P dialect tree plan) :
    (∀ plan, (c.getOrBuild fingerprint choice dialect tree build).1 = .ok plan →
        P dialect tree plan) ∧
      Holds P (c.getOrBuild fingerprint choice dialect tree build).2 := by
  obtain ⟨found, next⟩ := @Holds.get _ _ _ fingerprint h dialect tree
  unfold PlanCache.getOrBuild
  rcases hget : c.get fingerprint dialect tree with ⟨_ | plan, c'⟩
  · rw [hget] at next
    cases hplan : build () with
    | error e => exact ⟨nofun, next⟩
    | ok plan =>
      refine ⟨fun plan' h' => ?_, next.insert (hb plan hplan)⟩
      cases h'
      exact hb plan hplan
  · rw [hget] at found next
    refine ⟨fun plan' h' => ?_, next⟩
    cases h'
    exact found plan rfl

/--
A cache answers as building does, if what fits the dialect and the tree says the same as what is
built for them.
-/
lemma Holds.getOrBuild_eq {β : Type} {f : π → β} (h : Holds P c) {dialect : String}
    {tree : IncludeTree} {build : Unit → Except ε π}
    (determined : ∀ plan, P dialect tree plan → (build ()).map f = .ok (f plan)) :
    (c.getOrBuild fingerprint choice dialect tree build).1.map f = (build ()).map f := by
  obtain ⟨found, _⟩ := @Holds.get _ _ _ fingerprint h dialect tree
  unfold PlanCache.getOrBuild
  rcases hget : c.get fingerprint dialect tree with ⟨_ | plan, next⟩
  · cases build () <;> rfl
  · rw [hget] at found
    exact (determined plan (found plan rfl)).symm

end RelMap.PlanCache
