import Mathlib.Data.List.Perm.Basic
import RelMap.Proofs.Evaluation.Cache
import RelMap.Proofs.Expr.ShapeCode
import RelMap.Proofs.Lists

/-!
# What a cache of evaluators holds

A cache behaves as a list does of the shapes that it was asked for since it was last cleared: a
request finds something exactly when its shape is in the list, and a shape that is not there when
the list is full clears it first. Which hash is used does not matter, as long as expressions of one
shape have one hash. A request that fails adds nothing, but it clears a full cache all the same.
-/

namespace RelMap.Evaluation

/-- What is asked of a cache of evaluators. -/
inductive EvaluatorRequest where
  | evaluate (e : Expr)
  | programFor (e : Expr)
  | clear

namespace EvaluatorRequest

/-- The expression whose evaluator is asked for. -/
def expr? : EvaluatorRequest → Option Expr
  | evaluate e | programFor e => some e
  | clear => none

/-- What is asked for has a program. -/
def Compiles (q : EvaluatorRequest) : Prop :=
  ∀ e, q.expr? = some e → ∃ p, Program.ofExpr e = .ok p

end EvaluatorRequest

/-- Whether the shape of an expression is among those that were asked for. -/
def knows (asked : List Expr) (e : Expr) : Bool := asked.any fun a => e.sameShape a

/-- Expressions of the shapes that were asked for, the first one of each shape. -/
def distinctShapes (asked : List Expr) : List Expr := asked.eraseDupsBy Expr.sameShape

/-- What has been asked for since the last clear, after one more request. -/
def askedNext (capacity : Nat) (asked : List Expr) (q : EvaluatorRequest) : List Expr :=
  match q.expr? with
  | none => []
  | some e =>
    if !knows asked e && capacity ≤ (distinctShapes asked).length then [e] else asked ++ [e]

/-- What has been asked for since the last clear, be it a request or for want of room. -/
def askedSinceClear (capacity : Nat) (requests : List EvaluatorRequest) : List Expr :=
  requests.foldl (askedNext capacity) []

variable {asked : List Expr} {e : Expr}

/-- A shape is known if it is that of one of the distinct ones. -/
lemma knows_distinctShapes (asked : List Expr) (e : Expr) :
    knows (distinctShapes asked) e = knows asked e := by
  rw [Bool.eq_iff_iff, knows, knows, List.any_eq_true, List.any_eq_true]
  exact exists_eraseDupsBy fun _ _ _ => Expr.sameShape_equivalence.trans

lemma distinctShapes_concat_of_known (h : knows asked e = true) :
    distinctShapes (asked ++ [e]) = distinctShapes asked := by
  rw [← knows_distinctShapes] at h
  exact (eraseDupsBy_concat ..).trans (if_pos h)

lemma distinctShapes_concat_of_new (h : knows asked e = false) :
    distinctShapes (asked ++ [e]) = distinctShapes asked ++ [e] := by
  rw [← knows_distinctShapes] at h
  exact (eraseDupsBy_concat ..).trans (if_neg (Bool.eq_false_iff.1 h))

section
variable {capacity : Nat} {q : EvaluatorRequest} (he : q.expr? = some e)
include he

lemma askedNext_of_known (known : knows asked e = true) :
    askedNext capacity asked q = asked ++ [e] := by
  simp [askedNext, he, known]

lemma askedNext_of_full (new : knows asked e = false)
    (full : capacity ≤ (distinctShapes asked).length) : askedNext capacity asked q = [e] := by
  simp [askedNext, he, new, full]

lemma askedNext_of_room (room : (distinctShapes asked).length < capacity) :
    askedNext capacity asked q = asked ++ [e] := by
  simp [askedNext, he, Nat.not_le_of_lt room]

end

namespace EvaluatorCache

/-- The expressions for which a cache has programs. -/
def shapes (c : EvaluatorCache) : List Expr := c.programs.map (·.shape)

/-- The cache after a request. -/
def serve (hash : Expr → UInt64) (c : EvaluatorCache) : EvaluatorRequest → EvaluatorCache
  | .evaluate e => (c.evaluate hash e).2
  | .programFor e => (c.programFor hash e).2
  | .clear => c.clear

/-- The cache after some requests. -/
def run (hash : Expr → UInt64) (c : EvaluatorCache) (requests : List EvaluatorRequest) :
    EvaluatorCache :=
  requests.foldl (serve hash) c

/--
What a request for an expression makes of a cache, given what was asked for since it was cleared.
-/
def Follows (asked : List Expr) (c : EvaluatorCache) (e : Expr) (next : EvaluatorCache) : Prop :=
  if knows asked e then next = { c with stats := c.stats.hit }
  else if c.capacity ≤ c.size then
    next.shapes = [e] ∧ next.stats = (c.stats.evicted c.size).miss
  else next.shapes.Perm (e :: c.shapes) ∧ next.stats = c.stats.miss

variable {hash : Expr → UInt64} {c : EvaluatorCache}

lemma serve_of_expr? {q : EvaluatorRequest} (h : q.expr? = some e) :
    c.serve hash q = (c.programFor hash e).2 := by
  cases q with
  | evaluate e' =>
    cases h
    exact c.evaluate_snd hash e
  | programFor e' =>
    cases h
    rfl
  | clear => cases h

/-- After one bucket is filled, there are that one and others. -/
lemma mem_put {b : Bucket} {h : UInt64} {ps : List CachedProgram} {bs : List Bucket}
    (hb : b ∈ put h ps bs) : b = ⟨h, ps⟩ ∨ b ∈ bs := by
  induction bs with
  | nil => exact .inl (List.mem_singleton.1 hb)
  | cons b' bs ih =>
    unfold put at hb
    split at hb
    · exact (List.mem_cons.1 hb).imp_right (List.mem_cons_of_mem _)
    · rcases List.mem_cons.1 hb with rfl | hb
      · exact .inr (List.mem_cons_self ..)
      · exact (ih hb).imp_right (List.mem_cons_of_mem _)

/-- The hashes of buckets stay apart when one of them is filled. -/
lemma nodup_put {h : UInt64} {ps : List CachedProgram} {bs : List Bucket}
    (nodup : (bs.map (·.hash)).Nodup) : ((put h ps bs).map (·.hash)).Nodup := by
  induction bs with
  | nil => exact List.nodup_singleton h
  | cons b bs ih =>
    obtain ⟨new, nodup⟩ := List.nodup_cons.1 nodup
    unfold put
    split
    next same => exact List.nodup_cons.2 ⟨same ▸ new, nodup⟩
    next other =>
      refine List.nodup_cons.2 ⟨fun hm => ?_, ih nodup⟩
      obtain ⟨b', hb', same⟩ := List.mem_map.1 hm
      rcases mem_put hb' with rfl | hb'
      · exact other same.symm
      · exact new (List.mem_map.2 ⟨b', hb', same⟩)

/-- What is in the bucket of a hash is in a bucket with that hash. -/
lemma exists_of_mem_bucket {entry : CachedProgram} {h : UInt64} {bs : List Bucket}
    (he : entry ∈ bucket h bs) : ∃ b ∈ bs, b.hash = h ∧ entry ∈ b.programs := by
  induction bs with
  | nil => cases he
  | cons b bs ih =>
    unfold bucket at he
    split at he
    next same => exact ⟨b, List.mem_cons_self .., same, he⟩
    next =>
      obtain ⟨b', hb, same, he⟩ := ih he
      exact ⟨b', List.mem_cons_of_mem _ hb, same, he⟩

/-- The bucket of a hash that no two buckets have. -/
lemma bucket_of_mem {b : Bucket} {bs : List Bucket} (nodup : (bs.map (·.hash)).Nodup)
    (hb : b ∈ bs) : bucket b.hash bs = b.programs := by
  induction bs with
  | nil => cases hb
  | cons b' bs ih =>
    obtain ⟨new, nodup⟩ := List.nodup_cons.1 nodup
    unfold bucket
    rcases List.mem_cons.1 hb with rfl | hb
    · exact if_pos rfl
    · rw [if_neg fun same => new (List.mem_map.2 ⟨b, hb, same.symm⟩)]
      exact ih nodup hb

/-- Nothing is found otherwise when a bucket is put in its own place. -/
lemma bucket_put_bucket (h h' : UInt64) (bs : List Bucket) :
    bucket h' (put h (bucket h bs) bs) = bucket h' bs := by
  induction bs with
  | nil => exact ite_self []
  | cons b bs ih =>
    by_cases same : b.hash = h
    · subst same
      rw [bucket, if_pos rfl, put, if_pos rfl]
    · rw [put, if_neg same, bucket, bucket, bucket, if_neg same, ih]

/-- How programs lie in their buckets. -/
structure Tidy (hash : Expr → UInt64) (c : EvaluatorCache) : Prop where
  nodup : (c.buckets.map (·.hash)).Nodup
  placed : ∀ b ∈ c.buckets, ∀ entry ∈ b.programs, hash entry.shape = b.hash
  counted : c.size = c.shapes.length

namespace Tidy

/-- A cache without programs is tidy. -/
lemma of_empty (buckets : c.buckets = []) (size : c.size = 0) : Tidy hash c where
  nodup := by
    rw [buckets]
    exact .nil
  placed := by
    rw [buckets]
    exact fun _ hb => nomatch hb
  counted := by
    rw [size, shapes, programs, buckets]
    rfl

/-- Making room leaves a tidy cache. -/
lemma withRoom (tidy : Tidy hash c) : Tidy hash c.withRoom := by
  obtain ⟨-, eq⟩ | ⟨-, eq⟩ := c.withRoom_cases <;> rw [eq]
  · exact .of_empty rfl rfl
  · exact tidy

/-- One program more leaves a tidy cache. -/
lemma insert (tidy : Tidy hash c) {p : Program} :
    Tidy hash (c.insert hash e p) ∧ (c.insert hash e p).shapes.Perm (e :: c.shapes) := by
  have perm : (c.insert hash e p).shapes.Perm (e :: c.shapes) := by
    obtain ⟨before, after, eq, -, inserted⟩ := exists_programs_insert hash c e
    rw [shapes, shapes, inserted, eq,
      ← List.map_cons (f := (·.shape)) (a := (⟨e, p⟩ : CachedProgram))]
    apply List.Perm.map
    rw [← List.append_assoc, List.append_assoc _ [_]]
    exact List.perm_middle
  refine ⟨⟨nodup_put tidy.nodup, fun b hb entry he => ?_, ?_⟩, perm⟩
  · rcases mem_put hb with rfl | hb
    · rcases List.mem_append.1 he with he | he
      · obtain ⟨b, hb, same, he⟩ := exists_of_mem_bucket he
        exact (tidy.placed b hb entry he).trans same
      · cases List.mem_singleton.1 he
        rfl
    · exact tidy.placed b hb entry he
  · rw [perm.length_eq, List.length_cons, ← tidy.counted]
    rfl

/-- A bucket for an expression leaves a tidy cache, and what is found in it. -/
lemma withBucket (tidy : Tidy hash c) (e : Expr) :
    Tidy hash (c.withBucket hash e) ∧ (c.withBucket hash e).shapes = c.shapes ∧
      ∀ t, (c.withBucket hash e).find? hash t = c.find? hash t := by
  have same : (c.withBucket hash e).shapes = c.shapes := by
    obtain ⟨_, _, -, same, -⟩ := exists_programs_insert hash c e
    exact congrArg (List.map (·.shape)) same
  refine ⟨⟨nodup_put tidy.nodup, fun b hb entry he => ?_, ?_⟩, same, fun t => ?_⟩
  · rcases mem_put hb with rfl | hb
    · obtain ⟨b, hb, eq, he⟩ := exists_of_mem_bucket he
      exact (tidy.placed b hb entry he).trans eq
    · exact tidy.placed b hb entry he
  · rw [same]
    exact tidy.counted
  · rw [EvaluatorCache.find?, EvaluatorCache.withBucket, bucket_put_bucket, EvaluatorCache.find?]

/-- A tidy cache finds something for an expression exactly when it has a program of its shape. -/
lemma isSome_find? (tidy : Tidy hash c)
    (lawful : ∀ a b : Expr, a.sameShape b = true → hash a = hash b) :
    (c.find? hash e).isSome = knows c.shapes e := by
  have symm {a b : Expr} : a.sameShape b = true → b.sameShape a = true :=
    Expr.sameShape_equivalence.symm
  rw [Bool.eq_iff_iff, knows, List.any_eq_true]
  constructor
  · intro found
    obtain ⟨p, hp⟩ := Option.isSome_iff_exists.1 found
    obtain ⟨entry, hentry, same, -⟩ := exists_of_find? hp
    exact ⟨_, List.mem_map.2 ⟨entry, hentry, rfl⟩, symm same⟩
  · rintro ⟨_, hs, same⟩
    obtain ⟨entry, hentry, rfl⟩ := List.mem_map.1 hs
    obtain ⟨b, hb, he⟩ := List.mem_flatMap.1 hentry
    have here : bucket (hash e) c.buckets = b.programs := by
      rw [lawful e _ same, tidy.placed b hb entry he]
      exact bucket_of_mem tidy.nodup hb
    rw [EvaluatorCache.find?, Option.isSome_map, here, List.find?_isSome]
    exact ⟨entry, he, symm same⟩

end Tidy

/--
A cache that has programs of the distinct shapes asked for since it was last cleared, and the
counters that so many requests lead to.
-/
structure Mirrors (hash : Expr → UInt64) (capacity : Nat) (c : EvaluatorCache) (asked : List Expr)
    (requests : Nat) : Prop where
  tidy : Tidy hash c
  capacity_eq : c.capacity = capacity
  shapes : c.shapes.Perm (distinctShapes asked)
  bounded : c.size ≤ max capacity 1
  lookups : c.stats.hits + c.stats.misses = requests
  additions : c.stats.misses = c.stats.evictions + c.size

namespace Mirrors

variable {capacity n : Nat}

lemma size_eq (h : Mirrors hash capacity c asked n) : c.size = (distinctShapes asked).length := by
  rw [h.tidy.counted, h.shapes.length_eq]

/-- A new cache has not been asked for anything. -/
lemma empty (hash : Expr → UInt64) (capacity : Nat) :
    Mirrors hash capacity (.empty capacity) [] 0 where
  tidy := .of_empty rfl rfl
  capacity_eq := rfl
  shapes := .nil
  bounded := Nat.zero_le _
  lookups := rfl
  additions := rfl

/-- After a clear, a cache has not been asked for anything. -/
lemma clear (h : Mirrors hash capacity c asked n) : Mirrors hash capacity c.clear [] n where
  tidy := .of_empty rfl rfl
  capacity_eq := h.capacity_eq
  shapes := .nil
  bounded := Nat.zero_le _
  lookups := h.lookups
  additions := h.additions

lemma find?_eq_none (h : Mirrors hash capacity c asked n)
    (lawful : ∀ a b : Expr, a.sameShape b = true → hash a = hash b) :
    c.find? hash e = none ↔ knows asked e = false := by
  rw [← Option.not_isSome_iff_eq_none, Bool.not_eq_true, h.tidy.isSome_find? lawful,
    ← knows_distinctShapes asked, knows, knows, h.shapes.any_eq]

/-- A shape that was asked for is a hit. -/
lemma hit (h : Mirrors hash capacity c asked n) (known : knows asked e = true) :
    Mirrors hash capacity { c with stats := c.stats.hit } (asked ++ [e]) (n + 1) where
  tidy := ⟨h.tidy.nodup, h.tidy.placed, h.tidy.counted⟩
  capacity_eq := h.capacity_eq
  shapes := by
    rw [distinctShapes_concat_of_known known]
    exact h.shapes
  bounded := h.bounded
  lookups := by
    rw [← h.lookups]
    exact Nat.add_right_comm ..
  additions := h.additions

/-- Another shape is added if there is room for it. -/
lemma insert (h : Mirrors hash capacity c asked n) (new : knows asked e = false)
    (room : c.size < max capacity 1) (p : Program) :
    Mirrors hash capacity (c.insert hash e p) (asked ++ [e]) (n + 1) where
  tidy := h.tidy.insert.1
  capacity_eq := h.capacity_eq
  shapes := by
    rw [distinctShapes_concat_of_new new]
    exact (h.tidy.insert.2.trans (h.shapes.cons e)).trans (List.perm_append_singleton ..).symm
  bounded := room
  lookups := by
    rw [← h.lookups]
    rfl
  additions := congrArg (· + 1) h.additions

/-- What a request for a program makes of the cache, and what it has been asked for afterwards. -/
lemma request (h : Mirrors hash capacity c asked n)
    (lawful : ∀ a b : Expr, a.sameShape b = true → hash a = hash b) {q : EvaluatorRequest}
    (he : q.expr? = some e) {p : Program} (hp : Program.ofExpr e = .ok p) :
    Follows asked c e (c.serve hash q) ∧
      Mirrors hash capacity (c.serve hash q) (askedNext capacity asked q) (n + 1) := by
  obtain rfl := h.capacity_eq
  have gives := c.gives_programFor hash e
  rw [serve_of_expr? he]
  generalize c.programFor hash e = answer at gives ⊢
  unfold Follows
  cases gives with
  | found found =>
    have known : knows asked e = true := by
      rw [← Bool.not_eq_false, ← h.find?_eq_none lawful, found]
      exact nofun
    rw [if_pos known, askedNext_of_known he known]
    exact ⟨rfl, h.hit known⟩
  | failed _ hf => exact nomatch hp.symm.trans hf
  | compiled absent _ =>
    have new : knows asked e = false := (h.find?_eq_none lawful).1 absent
    rw [if_neg (Bool.eq_false_iff.1 new)]
    obtain ⟨full, eq⟩ | ⟨room, eq⟩ := c.withRoom_cases
    · have pos : 0 < max c.capacity 1 := Nat.lt_of_lt_of_le Nat.one_pos (Nat.le_max_right ..)
      rw [if_pos full, askedNext_of_full he new (h.size_eq ▸ full), eq]
      exact ⟨⟨rfl, rfl⟩, h.clear.insert rfl pos _⟩
    · have fits : c.size < max c.capacity 1 := Nat.lt_of_lt_of_le room (Nat.le_max_left ..)
      rw [if_neg (Nat.not_le_of_lt room), askedNext_of_room he (h.size_eq ▸ room), eq]
      exact ⟨⟨h.tidy.insert.2, rfl⟩, h.insert new fits _⟩

/-- What a request makes of the cache, be it for an expression or to clear it. -/
lemma serve (h : Mirrors hash capacity c asked n)
    (lawful : ∀ a b : Expr, a.sameShape b = true → hash a = hash b) {q : EvaluatorRequest}
    (hq : q.Compiles) :
    Mirrors hash capacity (c.serve hash q) (askedNext capacity asked q)
      (n + if q.expr?.isSome then 1 else 0) := by
  cases he : q.expr? with
  | some e =>
    obtain ⟨p, hp⟩ := hq e he
    exact (h.request lawful he hp).2
  | none =>
    cases q with
    | clear => exact h.clear
    | _ => cases he

end Mirrors

/-- After some requests, a cache has what was asked for since it was last cleared. -/
lemma mirrors_run (lawful : ∀ a b : Expr, a.sameShape b = true → hash a = hash b) (capacity : Nat)
    {requests : List EvaluatorRequest} (compile : ∀ q ∈ requests, q.Compiles) :
    Mirrors hash capacity ((empty capacity).run hash requests)
      (askedSinceClear capacity requests) (requests.countP (·.expr?.isSome)) := by
  induction requests using List.reverseRecOn with
  | nil => exact .empty hash capacity
  | append_singleton requests q ih =>
    obtain ⟨before, last⟩ := List.forall_mem_append.1 compile
    have step := (ih before).serve lawful (last q (List.mem_singleton_self q))
    rw [run, askedSinceClear, List.foldl_append, List.foldl_append, List.countP_append,
      List.countP_singleton]
    exact step

/--
A cache with any hash that does not tell expressions of one shape apart is like a list of the shapes
that were asked for since it was last cleared. It has a program for each of them and for no other
shape, counts them right and keeps within its capacity. Every request counts as a hit or a miss, and
what was a miss is there or was evicted. The next request is a hit exactly when its shape was asked
for since the last clear; if it was not, the cache is cleared first exactly when it is full.
-/
theorem run_contents (lawful : ∀ a b : Expr, a.sameShape b = true → hash a = hash b)
    (capacity : Nat) {requests : List EvaluatorRequest} (compile : ∀ q ∈ requests, q.Compiles) :
    let c := (empty capacity).run hash requests
    let asked := askedSinceClear capacity requests
    c.shapes.Perm (distinctShapes asked) ∧
      (c.shapes.Pairwise fun a b => a.sameShape b = false) ∧
      c.size = (distinctShapes asked).length ∧ c.size ≤ max capacity 1 ∧
      c.stats.hits + c.stats.misses = requests.countP (·.expr?.isSome) ∧
      c.stats.misses = c.stats.evictions + c.size ∧
      ∀ q e, q.Compiles → q.expr? = some e → Follows asked c e (c.serve hash q) := by
  intro c asked
  have mirrors : Mirrors hash capacity c asked _ := mirrors_run lawful capacity compile
  refine ⟨mirrors.shapes, ?_, mirrors.size_eq, mirrors.bounded, mirrors.lookups, mirrors.additions,
    fun q e hq he => ?_⟩
  rotate_left
  · obtain ⟨p, hp⟩ := hq e he
    exact (mirrors.request lawful he hp).1
  have symm {a b : Expr} (h : a.sameShape b = false) : b.sameShape a = false := by
    rw [← Bool.not_eq_true] at h ⊢
    exact mt Expr.sameShape_equivalence.symm h
  exact (mirrors.shapes.pairwise_iff symm).2 ((pairwise_eraseDupsBy _ asked).imp symm)

/-- With one hash for all, and room for two, the third shape clears the other two. -/
theorem run_contents_collisions :
    let requests : List EvaluatorRequest :=
      [.evaluate (.constant (.int32 5)), .programFor (.constant (.bool true)),
        .evaluate (.constant (.int32 7)), .evaluate (.not (.constant (.bool true)))]
    let c := (empty 2).run (fun _ => 0) requests
    let again : EvaluatorRequest := .programFor (.not (.constant (.bool false)))
    (∀ q ∈ requests, q.Compiles) ∧ again.Compiles ∧
      c.size = 1 ∧ c.stats = { hits := 1, misses := 3, evictions := 2 } ∧
      c.shapes.Perm [.not (.constant (.bool true))] ∧
      c.serve (fun _ => 0) again = { c with stats := c.stats.hit } := by
  intro requests c again
  have compile : ∀ q ∈ requests, q.Compiles := by
    simp only [requests, List.forall_mem_cons, List.not_mem_nil, false_implies, implies_true,
      and_true]
    refine ⟨?_, ?_, ?_, ?_⟩ <;> exact fun e he => Option.some.inj he ▸ ⟨_, rfl⟩
  have last : again.Compiles := fun e he => Option.some.inj he ▸ ⟨_, rfl⟩
  obtain ⟨shapes, -, -, -, -, -, next⟩ :=
    @run_contents (fun _ => 0) (fun _ _ _ => rfl) 2 requests compile
  exact ⟨compile, last, rfl, rfl, shapes, next again _ last rfl⟩

/-- Every cache that requests lead to is tidy. -/
lemma Reachable.tidy (h : Reachable hash c) : Tidy hash c := by
  have next {c : EvaluatorCache} (tidy : Tidy hash c) (e : Expr) :
      Tidy hash (c.programFor hash e).2 := by
    have gives := c.gives_programFor hash e
    generalize c.programFor hash e = answer at gives ⊢
    cases gives with
    | found _ => exact ⟨tidy.nodup, tidy.placed, tidy.counted⟩
    | compiled _ _ => exact tidy.withRoom.insert.1
    | failed _ _ => exact (tidy.withRoom.withBucket e).1
  induction h with
  | empty capacity => exact .of_empty rfl rfl
  | programFor e _ ih => exact next ih e
  | evaluate e _ ih => exact evaluate_snd hash _ e ▸ next ih e
  | clear _ _ => exact .of_empty rfl rfl

/-- A cache that holds and finds what another one does, and counts the same. -/
structure Keeps (hash : Expr → UInt64) (c next : EvaluatorCache) : Prop where
  shapes : next.shapes = c.shapes
  size : next.size = c.size
  stats : next.stats = c.stats
  finds : ∀ e, next.find? hash e = c.find? hash e

/-- A bucket for an expression changes nothing that a cache holds. -/
lemma Tidy.keeps_withBucket_iff {c' : EvaluatorCache} (tidy : Tidy hash c') (e : Expr) :
    Keeps hash c (c'.withBucket hash e) ↔ Keeps hash c c' := by
  obtain ⟨-, shapes, finds⟩ := tidy.withBucket e
  constructor
  · intro keeps
    exact ⟨shapes ▸ keeps.shapes, keeps.size, keeps.stats,
      fun t => (finds t).symm.trans (keeps.finds t)⟩
  · intro keeps
    exact ⟨shapes.trans keeps.shapes, keeps.size, keeps.stats,
      fun t => (finds t).trans (keeps.finds t)⟩

/-- A cache that made room keeps what it held if it had room before, or held nothing. -/
lemma Tidy.keeps_withRoom_iff (tidy : Tidy hash c) :
    Keeps hash c c.withRoom ↔ c.size < c.capacity ∨ c.size = 0 := by
  obtain ⟨full, eq⟩ | ⟨room, eq⟩ := c.withRoom_cases
  · rw [eq]
    refine ⟨fun keeps => .inr keeps.size.symm, fun either => ?_⟩
    have size : c.size = 0 := either.resolve_left (Nat.not_lt_of_le full)
    have bare : c.shapes = [] := List.length_eq_zero_iff.1 (tidy.counted ▸ size)
    refine ⟨bare.symm, size.symm, ?_, fun e => ?_⟩
    · rw [clear, size]
      rfl
    · cases found : c.find? hash e with
      | none => rfl
      | some p =>
        obtain ⟨entry, hentry, -⟩ := exists_of_find? found
        rw [List.map_eq_nil_iff.1 bare] at hentry
        cases hentry
  · rw [eq]
    exact iff_of_true ⟨rfl, rfl, rfl, fun _ => rfl⟩ (.inl room)

/-- Making room counts neither a hit nor a miss, and drops everything or nothing. -/
lemma withRoom_dropped (c : EvaluatorCache) :
    c.withRoom.stats.hits = c.stats.hits ∧ c.withRoom.stats.misses = c.stats.misses ∧
      (c.capacity ≤ c.size → c.withRoom = c.clear) := by
  obtain ⟨-, eq⟩ | ⟨room, eq⟩ := c.withRoom_cases
  · rw [eq]
    exact ⟨rfl, rfl, fun _ => rfl⟩
  · rw [eq]
    exact ⟨rfl, rfl, fun full => absurd room (Nat.not_lt_of_le full)⟩

/--
A request for an expression that has no program fails with the fault of its compilation, and counts
as neither a hit nor a miss. The cache keeps what it held exactly if it had room or held nothing;
otherwise it is empty afterwards, and what it held counts as evicted.
-/
theorem serve_uncompilable (reachable : c.Reachable hash) {f : Fault}
    (hf : Program.ofExpr e = .error f) :
    (c.programFor hash e).1 = .error f ∧ (c.evaluate hash e).1 = .error f ∧
      ∀ q : EvaluatorRequest, q.expr? = some e →
        let next := c.serve hash q
        next.stats.hits = c.stats.hits ∧ next.stats.misses = c.stats.misses ∧
          (Keeps hash c next ↔ c.size < c.capacity ∨ c.size = 0) ∧
          (c.capacity ≤ c.size → next.shapes = [] ∧ next.size = 0 ∧
            next.stats = c.stats.evicted c.size) := by
  have sound := reachable.sound
  have tidy := reachable.tidy
  refine ⟨(sound.programFor e).1.trans hf, ?_, fun q hq => ?_⟩
  · rw [(sound.evaluate e).1, value, hf]
  have gives := c.gives_programFor hash e
  rw [serve_of_expr? hq]
  generalize c.programFor hash e = answer at gives ⊢
  cases gives with
  | found found => exact nomatch hf.symm.trans (sound.find? found)
  | compiled _ hp => exact nomatch hf.symm.trans hp
  | failed _ _ =>
    have roomy : Tidy hash c.withRoom := tidy.withRoom
    obtain ⟨hits, misses, dropped⟩ := c.withRoom_dropped
    refine ⟨hits, misses, (roomy.keeps_withBucket_iff e).trans tidy.keeps_withRoom_iff, ?_⟩
    intro full
    obtain ⟨-, shapes, -⟩ := roomy.withBucket e
    have cleared := dropped full
    exact ⟨shapes.trans (cleared ▸ rfl), congrArg (·.size) cleared, congrArg (·.stats) cleared⟩

/-- A cache of two that holds one program keeps it when the next request fails. -/
theorem serve_uncompilable_room :
    let c := ((empty 2).evaluate Expr.shapeHash (.constant (.int32 5))).2
    Reachable Expr.shapeHash c ∧ Program.ofExpr (.parameter "x") =
        .error (.unsupported (.clientParameter "x")) ∧
      c.shapes = [.constant (.int32 5)] ∧
      Keeps Expr.shapeHash c (c.serve Expr.shapeHash (.evaluate (.parameter "x"))) := by
  intro c
  have reachable : Reachable Expr.shapeHash c := .evaluate _ (.empty 2)
  have result := serve_uncompilable reachable (rfl : Program.ofExpr (.parameter "x") = .error _)
  obtain ⟨-, -, keeps, -⟩ := result.2.2 (.evaluate (.parameter "x")) rfl
  exact ⟨reachable, rfl, rfl, keeps.2 (.inl (by decide))⟩

/-- A full cache loses its program when the next request fails, and has to compile it again. -/
theorem lost_to_failing_request :
    let c := ((empty 1).evaluate Expr.shapeHash (.constant (.int32 5))).2
    let failed := c.evaluate Expr.shapeHash (.parameter "x")
    Reachable Expr.shapeHash c ∧ failed.1 = .error (.unsupported (.clientParameter "x")) ∧
      c.size = 1 ∧ c.stats = { misses := 1 } ∧
      failed.2.size = 0 ∧ failed.2.stats = { misses := 1, evictions := 1 } ∧
      (c.find? Expr.shapeHash (.constant (.int32 5))).isSome = true ∧
      (failed.2.find? Expr.shapeHash (.constant (.int32 5))).isSome = false :=
  ⟨.evaluate _ (.empty 1), rfl, rfl, rfl, rfl, rfl, by decide +kernel, by decide +kernel⟩

end EvaluatorCache

end RelMap.Evaluation
