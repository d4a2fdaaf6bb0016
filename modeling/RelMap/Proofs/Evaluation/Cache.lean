import RelMap.Evaluation.Cache
import RelMap.Proofs.Evaluation.Program

/-!
# Cached evaluators

Whatever was asked of a cache before, and whatever hash it uses, it evaluates an expression to the
value that a program compiled for this expression alone gives.
-/

namespace RelMap.Evaluation

/-- The value of an expression by a program of its own. -/
def value (e : Expr) : Except Fault Value :=
  match Program.ofExpr e with
  | .ok p =>
    match p.run e with
    | .ok v => .ok v
    | .error f => .error (.evaluation f)
  | .error f => .error f

namespace EvaluatorCache

/-- The caches that requests lead to, from any empty one. -/
inductive Reachable (hash : Expr → UInt64) : EvaluatorCache → Prop where
  | empty (capacity : Nat) :
    Reachable hash (.empty capacity)
  | programFor {c} (e : Expr) :
    Reachable hash c →
    Reachable hash (c.programFor hash e).2
  | evaluate {c} (e : Expr) :
    Reachable hash c →
    Reachable hash (c.evaluate hash e).2
  | clear {c} :
    Reachable hash c →
    Reachable hash c.clear

/-- The programs of a cache, one bucket after the other. -/
def programs (c : EvaluatorCache) : List CachedProgram := c.buckets.flatMap (·.programs)

variable {hash : Expr → UInt64} {c : EvaluatorCache} {e : Expr}

/-- The programs of a bucket stand together, and so does what is put in their place. -/
lemma exists_programs_put (h : UInt64) (bs : List Bucket) :
    ∃ before after, bs.flatMap (·.programs) = before ++ bucket h bs ++ after ∧
      ∀ ps, (put h ps bs).flatMap (·.programs) = before ++ ps ++ after := by
  induction bs with
  | nil => exact ⟨[], [], rfl, fun ps => rfl⟩
  | cons b bs ih =>
    by_cases same : b.hash = h
    · refine ⟨[], bs.flatMap (·.programs), ?_, fun ps => ?_⟩
      · rw [bucket, if_pos same, List.flatMap_cons, List.nil_append]
      · rw [put, if_pos same, List.flatMap_cons, List.nil_append]
    · obtain ⟨before, after, eq, puts⟩ := ih
      refine ⟨b.programs ++ before, after, ?_, fun ps => ?_⟩
      · rw [bucket, if_neg same, List.flatMap_cons, eq]
        simp only [List.append_assoc]
      · rw [put, if_neg same, List.flatMap_cons, puts]
        simp only [List.append_assoc]

/-- The bucket of an expression is among the programs, before it is put in its place and after. -/
lemma exists_programs_insert (hash : Expr → UInt64) (c : EvaluatorCache) (e : Expr) :
    ∃ before after, c.programs = before ++ bucket (hash e) c.buckets ++ after ∧
      (c.withBucket hash e).programs = c.programs ∧
      ∀ p, (c.insert hash e p).programs =
        before ++ (bucket (hash e) c.buckets ++ [⟨e, p⟩]) ++ after := by
  obtain ⟨before, after, eq, puts⟩ := exists_programs_put (hash e) c.buckets
  exact ⟨before, after, eq, (puts _).trans eq.symm, fun p => puts _⟩

lemma mem_programs_of_mem_bucket {entry : CachedProgram} (h : entry ∈ bucket (hash e) c.buckets) :
    entry ∈ c.programs := by
  obtain ⟨before, after, eq, -⟩ := exists_programs_insert hash c e
  rw [eq]
  exact List.mem_append_left _ (List.mem_append_right _ h)

/-- What is found is the program of an expression of the same shape, of those in the cache. -/
lemma exists_of_find? {p : Program} (h : c.find? hash e = some p) :
    ∃ entry ∈ c.programs, entry.shape.sameShape e = true ∧ entry.program = p := by
  obtain ⟨entry, found, rfl⟩ := Option.map_eq_some_iff.1 h
  exact ⟨entry, mem_programs_of_mem_bucket (List.mem_of_find?_eq_some found),
    List.find?_some (p := fun s : CachedProgram => s.shape.sameShape e) found, rfl⟩

/-- A cache that makes room is cleared or stays as it is. -/
lemma withRoom_cases (c : EvaluatorCache) :
    c.capacity ≤ c.size ∧ c.withRoom = c.clear ∨ c.size < c.capacity ∧ c.withRoom = c := by
  unfold withRoom
  split
  next full => exact .inl ⟨full, rfl⟩
  next room => exact .inr ⟨Nat.lt_of_not_le room, rfl⟩

/-- What is not found is not found either when room has been made. -/
lemma find?_withRoom (h : c.find? hash e = none) : c.withRoom.find? hash e = none := by
  obtain ⟨-, eq⟩ | ⟨-, eq⟩ := c.withRoom_cases
  · rw [eq]
    rfl
  · rw [eq]
    exact h

/-- What comes of a request for the program of an expression, and the cache after it. -/
inductive Gives (hash : Expr → UInt64) (c : EvaluatorCache) (e : Expr) :
    Except Fault Program × EvaluatorCache → Prop where
  | found {p} :
    c.find? hash e = some p →
    Gives hash c e (.ok p, { c with stats := c.stats.hit })
  | compiled {p} :
    c.find? hash e = none →
    Program.ofExpr e = .ok p →
    Gives hash c e (.ok p, c.withRoom.insert hash e p)
  | failed {f} :
    c.find? hash e = none →
    Program.ofExpr e = .error f →
    Gives hash c e (.error f, c.withRoom.withBucket hash e)

/-- A bucket that is looked through a second time still lacks what it lacked before. -/
lemma gives_programFor (hash : Expr → UInt64) (c : EvaluatorCache) (e : Expr) :
    c.Gives hash e (c.programFor hash e) := by
  unfold EvaluatorCache.programFor
  cases found : c.find? hash e with
  | some p => exact .found found
  | none =>
    dsimp only
    rw [find?_withRoom found]
    cases hp : Program.ofExpr e with
    | ok p => exact .compiled found hp
    | error f => exact .failed found hp

/-- The evaluation of an expression needs its program and nothing else of the cache. -/
lemma evaluate_snd (hash : Expr → UInt64) (c : EvaluatorCache) (e : Expr) :
    (c.evaluate hash e).2 = (c.programFor hash e).2 := by
  unfold EvaluatorCache.evaluate
  split
  next p next eq =>
    rw [eq]
    cases p.run e <;> rfl
  next f next eq => rw [eq]

/-- Every program of a cache is that of the shape it is kept for. -/
def Sound (c : EvaluatorCache) : Prop :=
  ∀ entry ∈ c.programs, Program.ofExpr entry.shape = .ok entry.program

lemma Sound.empty (capacity : Nat) : (EvaluatorCache.empty capacity).Sound := by
  intro entry h
  cases h

lemma Sound.clear (c : EvaluatorCache) : c.clear.Sound := by
  intro entry h
  cases h

/-- A cache stays sound when it makes room. -/
lemma Sound.withRoom (sound : Sound c) : c.withRoom.Sound := by
  obtain ⟨-, eq⟩ | ⟨-, eq⟩ := c.withRoom_cases
  · rw [eq]
    exact Sound.clear c
  · rw [eq]
    exact sound

lemma Sound.withBucket (sound : Sound c) : (c.withBucket hash e).Sound := by
  obtain ⟨before, after, -, same, -⟩ := exists_programs_insert hash c e
  rw [Sound, same]
  exact sound

/-- A cache stays sound when the program of an expression is inserted. -/
lemma Sound.insert {p} (sound : Sound c) (hp : Program.ofExpr e = .ok p) :
    (c.insert hash e p).Sound := by
  obtain ⟨before, after, eq, -, inserted⟩ := exists_programs_insert hash c e
  rw [Sound, eq] at sound
  rw [Sound, inserted]
  simp only [List.forall_mem_append, List.forall_mem_singleton] at sound ⊢
  exact ⟨⟨sound.1.1, sound.1.2, hp⟩, sound.2⟩

lemma Sound.find? {p} (sound : Sound c) (h : c.find? hash e = some p) :
    Program.ofExpr e = .ok p := by
  obtain ⟨entry, hentry, same, rfl⟩ := exists_of_find? h
  exact ofExpr_of_sameShape (sound entry hentry) same

/-- A sound cache gives the program of an expression, or the fault that it has none. -/
lemma Sound.programFor (sound : Sound c) (e : Expr) :
    (c.programFor hash e).1 = Program.ofExpr e ∧ (c.programFor hash e).2.Sound := by
  have gives := c.gives_programFor hash e
  generalize c.programFor hash e = answer at gives ⊢
  cases gives with
  | found found => exact ⟨(sound.find? found).symm, sound⟩
  | compiled _ hp => exact ⟨hp.symm, sound.withRoom.insert hp⟩
  | failed _ hf => exact ⟨hf.symm, sound.withRoom.withBucket⟩

/-- A sound cache evaluates an expression as a program of its own does. -/
lemma Sound.evaluate (sound : Sound c) (e : Expr) :
    (c.evaluate hash e).1 = value e ∧ (c.evaluate hash e).2.Sound := by
  obtain ⟨hp, sound'⟩ := @Sound.programFor hash c sound e
  rw [evaluate_snd]
  refine ⟨?_, sound'⟩
  unfold EvaluatorCache.evaluate value
  rw [← hp]
  rcases c.programFor hash e with ⟨f | p, next⟩
  · rfl
  · dsimp only
    cases p.run e <;> rfl

/-- Every cache that requests lead to is sound. -/
lemma Reachable.sound {hash c} (h : Reachable hash c) : Sound c := by
  induction h with
  | empty capacity => exact Sound.empty capacity
  | programFor e _ ih => exact (ih.programFor e).2
  | evaluate e _ ih => exact (ih.evaluate e).2
  | clear _ _ => exact Sound.clear _

end EvaluatorCache

end RelMap.Evaluation
