import RelMap.Proofs.Include.PlanCache
import RelMap.Proofs.Lists

/-!
# What becomes of a cached plan

A cache of plans is what the log of its events makes of an empty one. A plan is found as long as
nothing in the log after its insertion put an end to it: another plan under its fingerprint, an
eviction, the invalidation of its root type, or a clear. Only an insertion under a new fingerprint
evicts, and only from a full cache. All this holds whichever of the entries with the fewest hits an
eviction drops, and each of them is dropped under some choice.
-/

namespace RelMap

/-- What is asked of a cache of plans. -/
inductive PlanRequest (π ε : Type) where
  | get (dialect : String) (tree : IncludeTree)
  | insert (dialect : String) (tree : IncludeTree) (plan : π)
  | getOrBuild (dialect : String) (tree : IncludeTree) (result : Except ε π)
  | invalidate (root : String)
  | clear

/-- What happens in a cache of plans. -/
inductive PlanEvent (π : Type) where
  | found (fingerprint : UInt64)
  | missed
  | evicted (fingerprint : UInt64)
  | inserted (fingerprint : UInt64) (dialect : String) (tree : IncludeTree) (plan : π)
  | invalidated (root : String)
  | cleared

variable {π ε : Type}

/-- Whether a request looks for a plan. -/
def PlanRequest.looksUp : PlanRequest π ε → Bool
  | get .. | getOrBuild .. => true
  | insert .. | invalidate .. | clear => false

namespace PlanEvent

/-- Whether a plan was looked for. -/
def isLookup : PlanEvent π → Bool
  | found _ | missed => true
  | _ => false

/-- Whether a plan was dropped to make room. -/
def isEviction : PlanEvent π → Bool
  | evicted _ => true
  | _ => false

/-- Whether the plan of a fingerprint was found. -/
def finds (fingerprint : UInt64) : PlanEvent π → Bool
  | found f => f == fingerprint
  | _ => false

/-- An entry is not there any more after an event. -/
def Ends (entry : CachedPlan π) : PlanEvent π → Prop
  | found _ | missed => False
  | evicted f | inserted f .. => f = entry.fingerprint
  | invalidated root => root = entry.tree.root
  | cleared => True

/-- What an event makes of a cache. -/
def apply (c : PlanCache π) : PlanEvent π → PlanCache π
  | found f => { c with entries := PlanCache.countHit f c.entries, stats := c.stats.hit }
  | missed => { c with stats := c.stats.miss }
  | evicted f =>
    { c with entries := c.entries.filter (·.fingerprint != f), stats := c.stats.evicted 1 }
  | inserted f dialect tree plan =>
    { c with entries := PlanCache.put ⟨f, dialect, tree, plan, 0⟩ c.entries }
  | invalidated root => (c.invalidate root).2
  | cleared => c.clear

end PlanEvent

/--
An entry that stands at the end of a log: it was inserted, nothing after that put an end to it, and
its hits are the times that it has been found since.
-/
def Stands (log : List (PlanEvent π)) (entry : CachedPlan π) : Prop :=
  ∃ before after, log = before ++
      .inserted entry.fingerprint entry.dialect entry.tree entry.plan :: after ∧
    (∀ event ∈ after, ¬ event.Ends entry) ∧
      entry.hits = after.countP (PlanEvent.finds entry.fingerprint)

namespace PlanCache

/--
How a cache takes in an entry: in the place of the one with its fingerprint, behind the others if
there is room, or behind the others once one of those with the fewest hits is dropped.
-/
inductive Takes (entry : CachedPlan π) (c : PlanCache π) : PlanCache π → Prop where
  | replaced {before after : List (CachedPlan π)} {old : CachedPlan π}
      (was : c.entries = before ++ old :: after) (same : old.fingerprint = entry.fingerprint) :
      Takes entry c { c with entries := before ++ entry :: after }
  | added (room : c.size < c.capacity) (new : ∀ e ∈ c.entries, e.fingerprint ≠ entry.fingerprint) :
      Takes entry c { c with entries := c.entries ++ [entry] }
  | evicted {before after : List (CachedPlan π)} {victim : CachedPlan π}
      (full : c.size = c.capacity) (new : ∀ e ∈ c.entries, e.fingerprint ≠ entry.fingerprint)
      (was : c.entries = before ++ victim :: after)
      (least : ∀ e ∈ c.entries, victim.hits ≤ e.hits) :
      Takes entry c
        { c with entries := before ++ after ++ [entry], stats := c.stats.evicted 1 }

/-- The events of an insertion: an entry of which no trace is left was evicted. -/
def insertion (fingerprint : String → IncludeTree → UInt64) (choice : Nat → Nat) (c : PlanCache π)
    (dialect : String) (tree : IncludeTree) (plan : π) : List (PlanEvent π) :=
  let next := c.insert fingerprint choice dialect tree plan
  let gone := c.entries.filter fun e => (next.entry? e.fingerprint).isNone
  gone.map (.evicted ·.fingerprint) ++ [.inserted (fingerprint dialect tree) dialect tree plan]

/-- The events of a request. -/
def events (fingerprint : String → IncludeTree → UInt64) (choice : Nat → Nat) (c : PlanCache π) :
    PlanRequest π ε → List (PlanEvent π)
  | .get dialect tree =>
    match c.get fingerprint dialect tree with
    | (some _, _) => [.found (fingerprint dialect tree)]
    | (none, _) => [.missed]
  | .insert dialect tree plan => c.insertion fingerprint choice dialect tree plan
  | .getOrBuild dialect tree result =>
    match c.get fingerprint dialect tree, result with
    | (some _, _), _ => [.found (fingerprint dialect tree)]
    | (none, next), .ok plan => .missed :: next.insertion fingerprint choice dialect tree plan
    | (none, _), .error _ => [.missed]
  | .invalidate root => [.invalidated root]
  | .clear => [.cleared]

/-- The cache after a request. -/
def serve (fingerprint : String → IncludeTree → UInt64) (choice : Nat → Nat) (c : PlanCache π) :
    PlanRequest π ε → PlanCache π
  | .get dialect tree => (c.get fingerprint dialect tree).2
  | .insert dialect tree plan => c.insert fingerprint choice dialect tree plan
  | .getOrBuild dialect tree result =>
    (c.getOrBuild fingerprint choice dialect tree fun _ => result).2
  | .invalidate root => (c.invalidate root).2
  | .clear => c.clear

/-- The cache after some requests. -/
def run (fingerprint : String → IncludeTree → UInt64) (choice : Nat → Nat) (c : PlanCache π)
    (requests : List (PlanRequest π ε)) : PlanCache π :=
  requests.foldl (serve fingerprint choice) c

/-- The events of some requests. -/
def log (fingerprint : String → IncludeTree → UInt64) (choice : Nat → Nat) (c : PlanCache π) :
    List (PlanRequest π ε) → List (PlanEvent π)
  | [] => []
  | request :: requests =>
    c.events fingerprint choice request ++
      (c.serve fingerprint choice request).log fingerprint choice requests

/-- What events make of a cache. -/
def replay (c : PlanCache π) (log : List (PlanEvent π)) : PlanCache π :=
  log.foldl PlanEvent.apply c

variable {fingerprint : String → IncludeTree → UInt64} {c : PlanCache π} {f : UInt64}
variable {entry e : CachedPlan π} {es : List (CachedPlan π)}

/-- No two entries have one fingerprint. -/
def Keyed (es : List (CachedPlan π)) : Prop :=
  (es.map (·.fingerprint)).Nodup

/-- The only entry that has its fingerprint. -/
lemma Keyed.apart {before after : List (CachedPlan π)} (keyed : Keyed (before ++ e :: after)) :
    ∀ x ∈ before ++ after, x.fingerprint ≠ e.fingerprint := by
  rw [Keyed, List.map_append, List.map_cons] at keyed
  obtain ⟨new, -⟩ := List.nodup_cons.1 (List.nodup_middle.1 keyed)
  intro x hx same
  rw [← List.map_append] at new
  exact new (List.mem_map.2 ⟨x, hx, same⟩)

lemma Keyed.sublist {es' : List (CachedPlan π)} (keyed : Keyed es) (h : es'.Sublist es) :
    Keyed es' :=
  List.Nodup.sublist (h.map _) keyed

/-- The entry of a fingerprint is the one that has it. -/
lemma Keyed.entry?_eq_some (keyed : Keyed c.entries) :
    c.entry? f = some e ↔ e ∈ c.entries ∧ e.fingerprint = f := by
  constructor
  · intro found
    unfold entry? at found
    have same := List.find?_some found
    exact ⟨List.mem_of_find?_eq_some found, eq_of_beq same⟩
  · rintro ⟨he, rfl⟩
    obtain ⟨before, after, was⟩ := List.append_of_mem he
    rw [was] at keyed
    unfold entry?
    rw [was, List.find?_append, List.find?_eq_none.2, Option.none_or, List.find?_cons_of_pos]
    · exact beq_self_eq_true _
    · intro x hx same
      exact keyed.apart x (List.mem_append_left _ hx) (eq_of_beq same)

lemma entry?_isNone : (c.entry? f).isNone = true ↔ ∀ e ∈ c.entries, e.fingerprint ≠ f := by
  unfold entry?
  rw [Option.isNone_iff_eq_none, List.find?_eq_none]
  simp only [beq_iff_eq, ne_eq]

/-- An entry is put in the place of the one with its fingerprint, or behind all others. -/
lemma put_cases (entry : CachedPlan π) (es : List (CachedPlan π)) :
    (∃ before old after, es = before ++ old :: after ∧ old.fingerprint = entry.fingerprint ∧
        put entry es = before ++ entry :: after) ∨
      (∀ e ∈ es, e.fingerprint ≠ entry.fingerprint) ∧ put entry es = es ++ [entry] := by
  induction es with
  | nil => exact .inr ⟨nofun, rfl⟩
  | cons e es ih =>
    unfold put
    split
    next same => exact .inl ⟨[], e, es, rfl, same, rfl⟩
    next other =>
      rcases ih with ⟨before, old, after, rfl, same, eq⟩ | ⟨new, eq⟩
      · exact .inl ⟨e :: before, old, after, rfl, same, congrArg (e :: ·) eq⟩
      · exact .inr ⟨List.forall_mem_cons.2 ⟨other, new⟩, congrArg (e :: ·) eq⟩

lemma put_of_new (new : ∀ e ∈ es, e.fingerprint ≠ entry.fingerprint) :
    put entry es = es ++ [entry] := by
  obtain ⟨before, old, after, rfl, same, -⟩ | ⟨-, eq⟩ := put_cases entry es
  · exact absurd same (new old (by simp))
  · exact eq

lemma put_of_same {before after : List (CachedPlan π)} {old : CachedPlan π}
    (apart : ∀ e ∈ before, e.fingerprint ≠ entry.fingerprint)
    (same : old.fingerprint = entry.fingerprint) :
    put entry (before ++ old :: after) = before ++ entry :: after := by
  induction before with
  | nil => rw [List.nil_append, put, if_pos same, List.nil_append]
  | cons e before ih =>
    obtain ⟨other, apart⟩ := List.forall_mem_cons.1 apart
    rw [List.cons_append, put, if_neg other, ih apart, List.cons_append]

/-- Entries keep fingerprints of their own when one is put among them. -/
lemma Keyed.put (keyed : Keyed es) (entry : CachedPlan π) : Keyed (put entry es) := by
  obtain ⟨before, old, after, rfl, same, eq⟩ | ⟨new, eq⟩ := put_cases entry es
  · rw [eq, Keyed, List.map_append, List.map_cons, ← same, ← List.map_cons, ← List.map_append]
    exact keyed
  · rw [eq, Keyed, List.map_append, List.map_singleton]
    refine List.nodup_append.2 ⟨keyed, List.nodup_singleton _, fun a ha b hb => ?_⟩
    obtain ⟨x, hx, rfl⟩ := List.mem_map.1 ha
    rw [List.mem_singleton.1 hb]
    exact new x hx

lemma Keyed.mem_put (keyed : Keyed es) :
    e ∈ PlanCache.put entry es ↔ e = entry ∨ e ∈ es ∧ e.fingerprint ≠ entry.fingerprint := by
  obtain ⟨before, old, after, rfl, same, eq⟩ | ⟨new, eq⟩ := put_cases entry es
  · have apart := keyed.apart
    rw [same] at apart
    rw [eq, List.mem_append, List.mem_cons, List.mem_append, List.mem_cons, or_left_comm,
      ← List.mem_append]
    refine or_congr_right ⟨fun he => ⟨?_, apart e he⟩, fun ⟨he, other⟩ => ?_⟩
    · rw [or_left_comm, ← List.mem_append]
      exact .inr he
    · rw [or_left_comm, ← List.mem_append] at he
      exact he.resolve_left fun h => other (h ▸ same)
  · rw [eq, List.mem_append, List.mem_singleton, or_comm]
    exact or_congr_right ⟨fun he => ⟨he, new e he⟩, And.left⟩

lemma countHit_fingerprints (f : UInt64) (es : List (CachedPlan π)) :
    (countHit f es).map (·.fingerprint) = es.map (·.fingerprint) := by
  rw [countHit, List.map_map]
  refine List.map_congr_left fun e _ => ?_
  rw [Function.comp_apply]
  split <;> rfl

/-- No event makes two entries share a fingerprint. -/
lemma Keyed.apply (keyed : Keyed c.entries) (event : PlanEvent π) :
    Keyed (event.apply c).entries := by
  cases event with
  | found f =>
    rw [PlanEvent.apply, Keyed, countHit_fingerprints]
    exact keyed
  | missed => exact keyed
  | evicted f => exact keyed.sublist List.filter_sublist
  | inserted f dialect tree plan => exact keyed.put _
  | invalidated root => exact keyed.sublist List.filter_sublist
  | cleared => exact .nil

/-- The entry after an event that does not put an end to it. -/
def afterEvent (event : PlanEvent π) (e : CachedPlan π) : CachedPlan π :=
  { e with hits := e.hits + if event.finds e.fingerprint then 1 else 0 }

/-- What an event leaves: the entry that it inserts, and those to which it put no end. -/
lemma Keyed.mem_apply (keyed : Keyed c.entries) (event : PlanEvent π) :
    entry ∈ (event.apply c).entries ↔
      (event = .inserted entry.fingerprint entry.dialect entry.tree entry.plan ∧ entry.hits = 0) ∨
        ∃ old ∈ c.entries, ¬ event.Ends old ∧ afterEvent event old = entry := by
  cases event with
  | found f =>
    rw [or_iff_right (fun h => nomatch h.1), PlanEvent.apply, countHit, List.mem_map]
    refine exists_congr fun old => and_congr_right fun _ => ?_
    by_cases same : old.fingerprint = f
    · simp [PlanEvent.Ends, afterEvent, PlanEvent.finds, same]
    · simp [PlanEvent.Ends, afterEvent, PlanEvent.finds, same, Ne.symm same]
  | missed => simp [PlanEvent.apply, PlanEvent.Ends, afterEvent, PlanEvent.finds]
  | evicted f =>
    simp [PlanEvent.apply, PlanEvent.Ends, afterEvent, PlanEvent.finds, eq_comm (a := f)]
  | inserted f dialect tree plan =>
    rw [PlanEvent.apply, keyed.mem_put]
    refine or_congr ?_ ?_
    · obtain ⟨f', dialect', tree', plan', hits⟩ := entry
      simp only [CachedPlan.mk.injEq, PlanEvent.inserted.injEq, eq_comm, and_assoc]
    · simp [PlanEvent.Ends, afterEvent, PlanEvent.finds, eq_comm (a := f)]
  | invalidated root =>
    simp [PlanEvent.apply, invalidate, PlanEvent.Ends, afterEvent, PlanEvent.finds,
      eq_comm (a := root)]
  | cleared => simp [PlanEvent.apply, clear, PlanEvent.Ends]

/-- How often an entry was found does not decide what puts an end to it. -/
lemma ends_withHits {event : PlanEvent π} (n : Nat) :
    event.Ends { e with hits := n } ↔ event.Ends e := by
  cases event <;> rfl

/-- An entry stands after one more event just as it is there after the event. -/
lemma stands_concat {log : List (PlanEvent π)} {event : PlanEvent π} :
    Stands (log ++ [event]) entry ↔
      (event = .inserted entry.fingerprint entry.dialect entry.tree entry.plan ∧ entry.hits = 0) ∨
        ∃ old, Stands log old ∧ ¬ event.Ends old ∧ afterEvent event old = entry := by
  constructor
  -- Either the last event is the insertion, or the entry stood before it already.
  · rintro ⟨before, after, eq, lasting, hits⟩
    obtain rfl | ⟨after, last, rfl⟩ := after.eq_nil_or_concat'
    · exact .inl ⟨(List.append_singleton_inj.1 eq).2, hits⟩
    · rw [← List.cons_append, ← List.append_assoc] at eq
      obtain ⟨rfl, rfl⟩ := List.append_singleton_inj.1 eq
      rw [List.countP_append, List.countP_singleton] at hits
      refine .inr ⟨{ entry with hits := after.countP (PlanEvent.finds entry.fingerprint) },
        ⟨before, after, rfl, fun event he => ?_, rfl⟩, ?_, ?_⟩
      · rw [ends_withHits]
        exact lasting event (List.mem_append_left _ he)
      · rw [ends_withHits]
        exact lasting event (by simp)
      · rw [afterEvent, ← hits]
  · rintro (⟨rfl, hits⟩ | ⟨old, ⟨before, after, rfl, lasting, hits⟩, stays, rfl⟩)
    · exact ⟨log, [], rfl, nofun, hits⟩
    · refine ⟨before, after ++ [event], by simp [afterEvent], fun e' he => ?_, ?_⟩
      · rw [afterEvent, ends_withHits]
        rcases List.mem_append.1 he with he | he
        · exact lasting e' he
        · rw [List.mem_singleton.1 he]
          exact stays
      · rw [List.countP_append, List.countP_singleton, afterEvent, hits]

lemma replay_concat (c : PlanCache π) (log : List (PlanEvent π)) (event : PlanEvent π) :
    c.replay (log ++ [event]) = event.apply (c.replay log) :=
  List.foldl_concat ..

lemma replay_append (c : PlanCache π) (log log' : List (PlanEvent π)) :
    c.replay (log ++ log') = (c.replay log).replay log' :=
  List.foldl_append

lemma Keyed.replay (keyed : Keyed c.entries) (log : List (PlanEvent π)) :
    Keyed (c.replay log).entries := by
  induction log using List.reverseRecOn with
  | nil => exact keyed
  | append_singleton log event ih =>
    rw [replay_concat]
    exact ih.apply event

/-- The entries after some events are those that stand at the end of their log. -/
lemma mem_replay_empty (capacity : Nat) (log : List (PlanEvent π)) :
    entry ∈ ((empty capacity).replay log).entries ↔ Stands log entry := by
  induction log using List.reverseRecOn generalizing entry with
  | nil => exact iff_of_false nofun fun ⟨before, after, eq, _⟩ => by simp at eq
  | append_singleton log event ih =>
    have keyed : Keyed (empty capacity : PlanCache π).entries := .nil
    rw [replay_concat, (keyed.replay log).mem_apply, stands_concat]
    simp only [ih]

/-- Events are counted as what they are. -/
lemma replay_stats (c : PlanCache π) (log : List (PlanEvent π)) :
    let stats := (c.replay log).stats
    stats.hits + stats.misses = c.stats.hits + c.stats.misses + log.countP PlanEvent.isLookup ∧
      stats.evictions = c.stats.evictions + log.countP PlanEvent.isEviction := by
  induction log using List.reverseRecOn with
  | nil => exact ⟨rfl, rfl⟩
  | append_singleton log event ih =>
    dsimp only at ih ⊢
    rw [replay_concat, List.countP_append, List.countP_append, ← Nat.add_assoc, ← Nat.add_assoc,
      ← ih.1, ← ih.2]
    cases event with
    | found => exact ⟨Nat.add_right_comm .., rfl⟩
    | missed | evicted | inserted | invalidated | cleared => exact ⟨rfl, rfl⟩

/-- The least number of hits is that of some entry, and of none with fewer hits. -/
lemma exists_leastHits (h : es ≠ []) :
    ∃ n, leastHits es = some n ∧ (∃ e ∈ es, e.hits = n) ∧ ∀ e ∈ es, n ≤ e.hits := by
  induction es with
  | nil => exact absurd rfl h
  | cons e es ih =>
    unfold leastHits
    rcases es with _ | ⟨e', es⟩
    · exact ⟨e.hits, rfl, by simp, by simp⟩
    · obtain ⟨n, hn, ⟨least, hm, rfl⟩, le⟩ := ih nofun
      rw [hn]
      refine ⟨min e.hits least.hits, rfl, ?_, List.forall_mem_cons.2
        ⟨Nat.min_le_left .., fun x hx => Nat.le_trans (Nat.min_le_right ..) (le x hx)⟩⟩
      rcases Nat.le_total e.hits least.hits with lt | gt
      · exact ⟨e, List.mem_cons_self .., (Nat.min_eq_left lt).symm⟩
      · exact ⟨least, List.mem_cons_of_mem _ hm, (Nat.min_eq_right gt).symm⟩

/-- The entry that is dropped stands behind just those of its hits that are passed over. -/
lemma dropTied_append (before after : List (CachedPlan π)) (victim : CachedPlan π) :
    dropTied victim.hits (before.countP (·.hits == victim.hits)) (before ++ victim :: after) =
      before ++ after := by
  induction before with
  | nil => simp [dropTied]
  | cons e before ih =>
    by_cases same : e.hits = victim.hits
    · rw [List.countP_cons, if_pos (beq_iff_eq.2 same), List.cons_append, dropTied, if_pos same, ih,
        List.cons_append]
    · rw [List.countP_cons, if_neg (mt beq_iff_eq.1 same), List.cons_append, dropTied.eq_def]
      exact (if_neg same).trans (congrArg (e :: ·) ih)

/-- Any entry with the fewest hits may be the one that is dropped. -/
lemma evict_of_least {before after : List (CachedPlan π)} {victim : CachedPlan π}
    {choice : Nat → Nat} (was : c.entries = before ++ victim :: after)
    (least : ∀ e ∈ c.entries, victim.hits ≤ e.hits)
    (chosen : choice c.stats.evictions % c.entries.countP (·.hits == victim.hits) =
      before.countP (·.hits == victim.hits)) :
    c.evict choice = { c with entries := before ++ after, stats := c.stats.evicted 1 } := by
  have mem : victim ∈ c.entries := was ▸ List.mem_append_right _ (List.mem_cons_self ..)
  obtain ⟨n, hn, ⟨e, he, rfl⟩, le⟩ := exists_leastHits (List.ne_nil_of_mem mem)
  have same : e.hits = victim.hits := Nat.le_antisymm (le victim mem) (least e he)
  rw [evict, hn]
  simp only [same, chosen]
  rw [was, dropTied_append]

/-- A cache evicts one of the entries that were found least often, and nothing else. -/
lemma exists_evict (choice : Nat → Nat) (h : c.entries ≠ []) :
    ∃ before victim after, c.entries = before ++ victim :: after ∧
      (∀ e ∈ c.entries, victim.hits ≤ e.hits) ∧
      c.evict choice = { c with entries := before ++ after, stats := c.stats.evicted 1 } := by
  obtain ⟨n, -, ⟨e, he, rfl⟩, least⟩ := exists_leastHits h
  have some : 0 < c.entries.countP (·.hits == e.hits) :=
    List.countP_pos_iff.2 ⟨e, he, beq_self_eq_true _⟩
  obtain ⟨before, victim, after, was, same, passed⟩ :=
    exists_of_lt_countP (Nat.mod_lt (choice c.stats.evictions) some)
  rw [beq_iff_eq] at same
  rw [← same] at least passed
  exact ⟨before, victim, after, was, least, evict_of_least was least passed.symm⟩

/-- A cache within its capacity whose entries have fingerprints of their own. -/
structure Kept (c : PlanCache π) : Prop where
  positive : 0 < c.capacity
  bounded : c.size ≤ c.capacity
  keyed : Keyed c.entries

lemma Kept.empty (capacity : Nat) : Kept (empty capacity : PlanCache π) where
  positive := Nat.lt_of_lt_of_le Nat.one_pos (Nat.le_max_right ..)
  bounded := Nat.zero_le _
  keyed := .nil

section
variable (fingerprint : String → IncludeTree → UInt64) (choice : Nat → Nat) (dialect : String)
variable (tree : IncludeTree) (plan : π)

/-- An insertion puts its entry among the others, or drops one of them first if it has to. -/
lemma Kept.insert_cases (kept : Kept c) :
    let entry := ⟨fingerprint dialect tree, dialect, tree, plan, 0⟩
    let next := c.insert fingerprint choice dialect tree plan
    (((∃ e ∈ c.entries, e.fingerprint = entry.fingerprint) ∨ c.size < c.capacity) ∧
        next = { c with entries := put entry c.entries }) ∨
      c.size = c.capacity ∧ (∀ e ∈ c.entries, e.fingerprint ≠ entry.fingerprint) ∧
        ∃ before victim after, c.entries = before ++ victim :: after ∧
          (∀ e ∈ c.entries, victim.hits ≤ e.hits) ∧
          next = { c with entries := before ++ after ++ [entry], stats := c.stats.evicted 1 } := by
  intro entry next
  by_cases full : c.capacity ≤ c.size ∧ (c.entry? (fingerprint dialect tree)).isNone
  · have new := entry?_isNone.1 full.2
    have some : c.entries ≠ [] := by
      intro none
      have size := full.1
      rw [PlanCache.size, none] at size
      exact Nat.not_lt_of_le size kept.positive
    obtain ⟨before, victim, after, was, least, evicted⟩ := exists_evict choice some
    have others := forall_mem_others (was ▸ new)
    have inserted :
        next = { c.evict choice with entries := put entry (c.evict choice).entries } := by
      simp only [next, PlanCache.insert, if_pos full, entry]
    rw [inserted, evicted, put_of_new others]
    exact .inr ⟨Nat.le_antisymm kept.bounded full.1, new, before, victim, after, was, least, rfl⟩
  · have inserted : next = { c with entries := put entry c.entries } := by
      simp only [next, PlanCache.insert, if_neg full, entry]
    refine .inl ⟨?_, inserted⟩
    rw [not_and_or, Nat.not_le, entry?_isNone] at full
    push Not at full
    exact full.symm

/-- An insertion takes in its entry. -/
lemma Kept.takes_insert (kept : Kept c) :
    Takes ⟨fingerprint dialect tree, dialect, tree, plan, 0⟩ c
      (c.insert fingerprint choice dialect tree plan) := by
  obtain ⟨either, eq⟩ | ⟨full, new, before, victim, after, was, least, eq⟩ :=
    kept.insert_cases fingerprint choice dialect tree plan
  all_goals rw [eq]
  · obtain ⟨before, old, after, was, same, eq⟩ | ⟨new, eq⟩ := put_cases
      ⟨fingerprint dialect tree, dialect, tree, plan, 0⟩ c.entries
    all_goals rw [eq]
    · exact .replaced was same
    · exact .added (either.resolve_left fun ⟨e, he, same⟩ => new e he same) new
  · exact .evicted full new was least

/-- The ways to take in an entry are just those that an insertion has by some choice. -/
lemma Kept.exists_insert_iff (kept : Kept c) (next : PlanCache π) :
    (∃ choice, c.insert fingerprint choice dialect tree plan = next) ↔
      Takes ⟨fingerprint dialect tree, dialect, tree, plan, 0⟩ c next := by
  constructor
  · rintro ⟨choice, rfl⟩
    exact kept.takes_insert fingerprint choice dialect tree plan
  intro takes
  cases takes with
  | @replaced before after old was same =>
    have present : ¬ (c.capacity ≤ c.size ∧ (c.entry? (fingerprint dialect tree)).isNone) := by
      rw [entry?_isNone]
      exact fun full => full.2 old (was ▸ List.mem_append_right _ (List.mem_cons_self ..)) same
    have keyed := kept.keyed
    rw [was] at keyed
    refine ⟨fun _ => 0, ?_⟩
    simp only [PlanCache.insert, if_neg present]
    rw [was, put_of_same (same ▸ fun e he => keyed.apart e (List.mem_append_left _ he)) same]
  | added room new =>
    have roomy : ¬ (c.capacity ≤ c.size ∧ (c.entry? (fingerprint dialect tree)).isNone) :=
      fun full => Nat.not_lt_of_le full.1 room
    refine ⟨fun _ => 0, ?_⟩
    simp only [PlanCache.insert, if_neg roomy]
    rw [put_of_new new]
  | @evicted before after victim full new was least =>
    have drop : c.capacity ≤ c.size ∧ (c.entry? (fingerprint dialect tree)).isNone :=
      ⟨Nat.le_of_eq full.symm, entry?_isNone.2 new⟩
    refine ⟨fun _ => before.countP (·.hits == victim.hits), ?_⟩
    simp only [PlanCache.insert, if_pos drop]
    rw [evict_of_least was least, put_of_new (forall_mem_others (was ▸ new))]
    apply Nat.mod_eq_of_lt
    rw [was, List.countP_append, List.countP_cons, if_pos (beq_self_eq_true _)]
    omega

/-- An insertion leaves a cache within its capacity. -/
lemma Kept.size_insert_le (kept : Kept c) :
    (c.insert fingerprint choice dialect tree plan).capacity = c.capacity ∧
      (c.insert fingerprint choice dialect tree plan).size ≤ c.capacity := by
  have takes := kept.takes_insert fingerprint choice dialect tree plan
  have bounded := kept.bounded
  unfold size at bounded ⊢
  generalize c.insert fingerprint choice dialect tree plan = next at takes ⊢
  cases takes with
  | replaced was _ =>
    rw [was] at bounded
    simp only [List.length_append, List.length_cons] at bounded ⊢
    exact ⟨trivial, bounded⟩
  | added room _ =>
    rw [List.length_append]
    exact ⟨rfl, room⟩
  | evicted full _ was _ =>
    rw [was] at bounded
    simp only [List.length_append, List.length_cons, List.length_nil] at bounded ⊢
    exact ⟨trivial, by omega⟩

/-- An insertion leaves every entry findable under its fingerprint, or evicts one. -/
lemma Kept.insertion_cases (kept : Kept c) :
    let next := c.insert fingerprint choice dialect tree plan
    let inserted := .inserted (fingerprint dialect tree) dialect tree plan
    let events := c.insertion fingerprint choice dialect tree plan
    (events = [inserted] ∨ ∃ victim, events = [.evicted victim, inserted]) ∧
      c.replay events = next := by
  intro next inserted events
  obtain ⟨-, eq⟩ | ⟨-, new, before, victim, after, was, -, eq⟩ :=
    kept.insert_cases fingerprint choice dialect tree plan
  -- Every fingerprint is still there, be it under the new entry.
  · have gone : c.entries.filter (fun e => (next.entry? e.fingerprint).isNone) = [] := by
      rw [List.filter_eq_nil_iff]
      intro e he
      simp only [next, eq, entry?_isNone, kept.keyed.mem_put]
      push Not
      by_cases same : e.fingerprint = fingerprint dialect tree
      · exact ⟨_, .inl rfl, same.symm⟩
      · exact ⟨e, .inr ⟨he, same⟩, rfl⟩
    have only : events = [inserted] := by
      simp only [events, insertion]
      rw [gone]
      rfl
    refine ⟨.inl only, ?_⟩
    rw [only]
    exact eq.symm
  · have keyed := kept.keyed
    rw [was] at keyed
    have gone : c.entries.filter (fun e => (next.entry? e.fingerprint).isNone) = [victim] := by
      rw [was]
      apply filter_eq_singleton
      · simp only [next, eq, entry?_isNone, List.forall_mem_append, List.forall_mem_singleton]
        refine ⟨List.forall_mem_append.1 keyed.apart, fun same => new victim ?_ same.symm⟩
        rw [was]
        exact List.mem_append_right _ (List.mem_cons_self ..)
      · intro x hx
        rw [← Bool.not_eq_true, entry?_isNone]
        intro h
        apply h x _ rfl
        simp only [next, eq]
        exact List.mem_append_left _ hx
    have both : events = [.evicted victim.fingerprint, inserted] := by
      simp only [events, insertion]
      rw [gone]
      rfl
    have left : c.entries.filter (·.fingerprint != victim.fingerprint) = before ++ after := by
      rw [was]
      apply filter_eq_others
      · exact bne_self_eq_false _
      · exact fun x hx => bne_iff_ne.2 (keyed.apart x hx)
    have others := forall_mem_others (was ▸ new)
    refine ⟨.inr ⟨_, both⟩, ?_⟩
    rw [both]
    simp only [next, eq, replay, List.foldl, PlanEvent.apply, left, inserted]
    rw [put_of_new others]

/-- An insertion keeps a cache within its capacity and its entries apart. -/
lemma Kept.insert (kept : Kept c) : Kept (c.insert fingerprint choice dialect tree plan) := by
  obtain ⟨capacity, bounded⟩ := kept.size_insert_le fingerprint choice dialect tree plan
  refine ⟨capacity ▸ kept.positive, capacity ▸ bounded, ?_⟩
  rw [← (kept.insertion_cases fingerprint choice dialect tree plan).2]
  exact kept.keyed.replay _

/-- A lookup finds an entry for what is asked, or counts a miss. -/
lemma get_cases (c : PlanCache π) :
    (∃ plan, c.get fingerprint dialect tree =
        (some plan, PlanEvent.apply c (.found (fingerprint dialect tree)))) ∨
      c.get fingerprint dialect tree = (none, { c with stats := c.stats.miss }) := by
  unfold get
  dsimp only
  split
  · split
    · exact .inl ⟨_, rfl⟩
    · exact .inr rfl
  · exact .inr rfl

/-- A plan is found if it is that of an entry for just this dialect and this tree. -/
lemma Keyed.get_eq_some (keyed : Keyed c.entries) :
    (c.get fingerprint dialect tree).1 = some plan ↔
      ∃ hits, ⟨fingerprint dialect tree, dialect, tree, plan, hits⟩ ∈ c.entries := by
  unfold PlanCache.get
  dsimp only
  constructor
  · intro found
    split at found
    next entry some =>
      obtain ⟨mem, same⟩ := keyed.entry?_eq_some.1 some
      split at found
      next isFor =>
        simp only [CachedPlan.isFor, Bool.and_eq_true, beq_iff_eq, decide_eq_true_eq] at isFor
        obtain ⟨rfl, rfl⟩ := isFor
        cases found
        exact ⟨entry.hits, same ▸ mem⟩
      next => cases found
    next => cases found
  · rintro ⟨hits, mem⟩
    rw [keyed.entry?_eq_some.2 ⟨mem, rfl⟩]
    simp [CachedPlan.isFor]

end

/-- Events, with so many lookups among them, that lead from one cache to another of its capacity. -/
structure Leads (c : PlanCache π) (events : List (PlanEvent π)) (lookups : Nat)
    (next : PlanCache π) : Prop where
  kept : Kept next
  capacity_eq : next.capacity = c.capacity
  replay_eq : c.replay events = next
  countP_eq : events.countP PlanEvent.isLookup = lookups

namespace Leads

variable {next last : PlanCache π} {events events' : List (PlanEvent π)} {n n' : Nat}

lemma refl (kept : Kept c) : Leads c [] 0 c := ⟨kept, rfl, rfl, rfl⟩

lemma trans (h : Leads c events n next) (h' : Leads next events' n' last) :
    Leads c (events ++ events') (n + n') last where
  kept := h'.kept
  capacity_eq := h'.capacity_eq.trans h.capacity_eq
  replay_eq := by rw [replay_append, h.replay_eq, h'.replay_eq]
  countP_eq := by rw [List.countP_append, h.countP_eq, h'.countP_eq]

lemma found (kept : Kept c) (f : UInt64) :
    Leads c [.found f] 1 (PlanEvent.apply c (.found f)) where
  kept := ⟨kept.positive, Nat.le_trans (Nat.le_of_eq (List.length_map ..)) kept.bounded,
    kept.keyed.apply _⟩
  capacity_eq := rfl
  replay_eq := rfl
  countP_eq := rfl

lemma missed (kept : Kept c) : Leads c [.missed] 1 { c with stats := c.stats.miss } :=
  ⟨⟨kept.positive, kept.bounded, kept.keyed⟩, rfl, rfl, rfl⟩

lemma insertion (kept : Kept c) (fingerprint : String → IncludeTree → UInt64)
    (choice : Nat → Nat) (dialect : String) (tree : IncludeTree) (plan : π) :
    Leads c (c.insertion fingerprint choice dialect tree plan) 0
      (c.insert fingerprint choice dialect tree plan) where
  kept := kept.insert ..
  capacity_eq := (kept.size_insert_le ..).1
  replay_eq := (kept.insertion_cases ..).2
  countP_eq := by
    rcases (kept.insertion_cases fingerprint choice dialect tree plan).1 with eq | ⟨_, eq⟩
    all_goals
      rw [eq]
      rfl

/-- Entries are only taken away. -/
lemma removed (kept : Kept c) (event : PlanEvent π) {es : List (CachedPlan π)}
    (eq : event.apply c = { c with entries := es }) (fewer : es.Sublist c.entries)
    (other : event.isLookup = false) : Leads c [event] 0 (event.apply c) where
  kept := by
    rw [eq]
    exact ⟨kept.positive, Nat.le_trans fewer.length_le kept.bounded, kept.keyed.sublist fewer⟩
  capacity_eq := congrArg (·.capacity) eq
  replay_eq := rfl
  countP_eq := by rw [List.countP_singleton, other]; rfl

/-- A request does to a cache what its events say. -/
lemma serve (kept : Kept c) (fingerprint : String → IncludeTree → UInt64) (choice : Nat → Nat)
    (request : PlanRequest π ε) :
    Leads c (c.events fingerprint choice request) (if request.looksUp then 1 else 0)
      (c.serve fingerprint choice request) := by
  cases request with
  | get dialect tree =>
    unfold events PlanCache.serve
    obtain ⟨plan, eq⟩ | eq := c.get_cases fingerprint dialect tree
    all_goals simp only [eq]
    · exact found kept _
    · exact missed kept
  | insert dialect tree plan => exact insertion kept fingerprint choice dialect tree plan
  | getOrBuild dialect tree result =>
    unfold events PlanCache.serve getOrBuild
    obtain ⟨plan, eq⟩ | eq := c.get_cases fingerprint dialect tree
    all_goals simp only [eq]
    · exact found kept _
    · cases result with
      | ok plan =>
        exact (missed kept).trans 
          (insertion (missed kept).kept fingerprint choice dialect tree plan)
      | error e => exact missed kept
  | invalidate root => exact removed kept (.invalidated root) rfl List.filter_sublist rfl
  | clear => exact removed kept .cleared rfl (List.nil_sublist _) rfl

/-- Requests do to a cache what the log of their events says. -/
lemma run (kept : Kept c) (fingerprint : String → IncludeTree → UInt64) (choice : Nat → Nat)
    (requests : List (PlanRequest π ε)) :
    Leads c (c.log fingerprint choice requests) (requests.countP PlanRequest.looksUp)
      (c.run fingerprint choice requests) := by
  induction requests generalizing c with
  | nil => exact refl kept
  | cons request requests ih =>
    have step := serve kept fingerprint choice request
    rw [List.countP_cons, Nat.add_comm]
    exact step.trans (ih step.kept)

end Leads

/--
What a cache of plans does at the end of a log, for every dialect and every tree, whatever an
eviction chooses.
-/
structure Keeps (fingerprint : String → IncludeTree → UInt64) (maxEntries : Nat)
    (requests : List (PlanRequest π ε)) (log : List (PlanEvent π)) (c : PlanCache π) : Prop where
  /-- It may hold as many plans as was asked for, or one. -/
  capacity_eq : c.capacity = max maxEntries 1
  /-- It does not hold more. -/
  size_le : c.size ≤ c.capacity
  /-- Each lookup is a hit or a miss. -/
  lookups_eq : c.stats.hits + c.stats.misses = requests.countP PlanRequest.looksUp
  /-- What was dropped to make room is counted. -/
  evictions_eq : c.stats.evictions = log.countP PlanEvent.isEviction
  /-- The entries are those that stand at the end of the log. -/
  mem_iff : ∀ entry, entry ∈ c.entries ↔ Stands log entry
  /-- A plan is found exactly if it stands for just this dialect and this tree. -/
  get_iff : ∀ dialect tree plan, (c.get fingerprint dialect tree).1 = some plan ↔
    ∃ hits, Stands log ⟨fingerprint dialect tree, dialect, tree, plan, hits⟩
  /-- An insertion takes in its entry, in any way that there is by some choice. -/
  insert_iff : ∀ dialect tree plan next,
    (∃ choice, c.insert fingerprint choice dialect tree plan = next) ↔
      Takes ⟨fingerprint dialect tree, dialect, tree, plan, 0⟩ c next
  /-- What is found is not built. -/
  found : ∀ choice dialect tree plan (build : Unit → Except ε π),
    (c.get fingerprint dialect tree).1 = some plan →
    c.getOrBuild fingerprint choice dialect tree build =
      (.ok plan, (c.get fingerprint dialect tree).2)
  /-- What is built is taken in. -/
  built : ∀ choice dialect tree plan (build : Unit → Except ε π),
    (c.get fingerprint dialect tree).1 = none → build () = .ok plan →
    ∃ next, c.getOrBuild fingerprint choice dialect tree build = (.ok plan, next) ∧
      Takes ⟨fingerprint dialect tree, dialect, tree, plan, 0⟩ { c with stats := c.stats.miss } next
  /-- What fails to be built is not cached. -/
  failed : ∀ choice dialect tree e (build : Unit → Except ε π),
    (c.get fingerprint dialect tree).1 = none → build () = .error e →
    c.getOrBuild fingerprint choice dialect tree build =
      (.error e, { c with stats := c.stats.miss })

/--
A cache of plans keeps what its log says, whatever is asked of it, however often fingerprints
collide and whichever of the entries with the fewest hits its evictions drop.
-/
theorem run_keeps (fingerprint : String → IncludeTree → UInt64) (choice : Nat → Nat)
    (maxEntries : Nat) (requests : List (PlanRequest π ε)) :
    let start : PlanCache π := empty maxEntries
    Keeps fingerprint maxEntries requests (start.log fingerprint choice requests)
      (start.run fingerprint choice requests) := by
  intro start
  have leads : Leads start _ _ (start.run fingerprint choice requests) :=
    .run (.empty maxEntries) fingerprint choice requests
  generalize start.run fingerprint choice requests = c at leads ⊢
  generalize start.log fingerprint choice requests = log at leads ⊢
  have kept := leads.kept
  obtain ⟨lookups, evictions⟩ := replay_stats start log
  have stands (entry : CachedPlan π) : entry ∈ c.entries ↔ Stands log entry := by
    rw [← leads.replay_eq]
    exact mem_replay_empty maxEntries log
  rw [leads.replay_eq, leads.countP_eq] at lookups
  rw [leads.replay_eq] at evictions
  constructor
  case capacity_eq => exact leads.capacity_eq
  case size_le => exact kept.bounded
  case lookups_eq => exact lookups.trans (Nat.zero_add _)
  case evictions_eq => exact evictions.trans (Nat.zero_add _)
  case mem_iff => exact stands
  case get_iff =>
    intro dialect tree plan
    simp only [kept.keyed.get_eq_some, stands]
  case insert_iff => exact kept.exists_insert_iff fingerprint
  case found =>
    intro choice dialect tree plan build found
    obtain ⟨plan', eq⟩ | eq := c.get_cases fingerprint dialect tree
    all_goals
      rw [eq] at found
      cases found
    simp only [getOrBuild, eq]
  case built =>
    intro choice dialect tree plan build none built
    obtain ⟨plan', eq⟩ | eq := c.get_cases fingerprint dialect tree
    · rw [eq] at none
      cases none
    · have kept := (Leads.missed kept).kept
      refine ⟨_, ?_, kept.takes_insert fingerprint choice dialect tree plan⟩
      simp only [getOrBuild, eq, built]
  case failed =>
    intro choice dialect tree e build none failed
    obtain ⟨plan', eq⟩ | eq := c.get_cases fingerprint dialect tree
    · rw [eq] at none
      cases none
    · simp only [getOrBuild, eq, failed]

end PlanCache

end RelMap
