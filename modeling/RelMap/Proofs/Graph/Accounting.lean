import RelMap.Proofs.Graph.IdentityCache

/-!
# The accounts of an identity cache

Every request to a cache comes down to accesses: a lookup finds an instance or misses it, an
insertion adds one or replaces the one that its key has. The counters agree with the accesses, and
the capacity grows within its bounds only, which drops nothing.
-/

namespace RelMap

/-- What is asked of an identity cache. -/
inductive IdentityRequest (α : Type) where
  | get (key : IdentityKey)
  | insert (key : IdentityKey) (a : α)
  | getOrInsert (key : IdentityKey) (created : α)

namespace IdentityRequest

variable {α : Type}

/-- The key of a request. -/
def key : IdentityRequest α → IdentityKey
  | get key | insert key _ | getOrInsert key _ => key

/-- Whether a request looks an instance up. -/
def looksUp : IdentityRequest α → Bool
  | get _ | getOrInsert .. => true
  | insert .. => false

end IdentityRequest

/-- What an access to an identity cache comes to. -/
inductive IdentityEvent (α : Type) where
  | found (key : IdentityKey)
  | missed (key : IdentityKey)
  | added (key : IdentityKey) (a : α)
  | replaced (key : IdentityKey) (a : α)
  deriving DecidableEq

namespace IdentityEvent

variable {α : Type}

/-- The key of an access. -/
def key : IdentityEvent α → IdentityKey
  | found key | missed key | added key _ | replaced key _ => key

/-- Whether an instance was looked up. -/
def isLookup : IdentityEvent α → Bool
  | found _ | missed _ => true
  | added .. | replaced .. => false

/-- Whether an instance was inserted under a key that had none. -/
def isAddition : IdentityEvent α → Bool
  | added .. => true
  | found _ | missed _ | replaced .. => false

end IdentityEvent

namespace IdentityCache

open Lru (without)

variable {α : Type} {sizing : IdentitySizing} {c : IdentityCache α}

/-- The keys of a cache, the most recently used first. -/
def keys (c : IdentityCache α) : List IdentityKey := c.entries.map (·.1)

/-- What a lookup comes to. -/
def lookupEvent (c : IdentityCache α) (key : IdentityKey) : IdentityEvent α :=
  if (c.entries.lookup key).isSome then .found key else .missed key

/-- What an insertion comes to. -/
def insertEvent (c : IdentityCache α) (key : IdentityKey) (a : α) : IdentityEvent α :=
  if (c.entries.lookup key).isSome then .replaced key a else .added key a

lemma lookupEvent_of_lookup_none {key : IdentityKey} (h : c.entries.lookup key = none) :
    c.lookupEvent key = .missed key := by
  rw [lookupEvent, h]
  rfl

lemma insertEvent_of_lookup_none {key : IdentityKey} {a : α} (h : c.entries.lookup key = none) :
    c.insertEvent key a = .added key a := by
  rw [insertEvent, h]
  rfl

@[simp] lemma key_lookupEvent (c : IdentityCache α) (key : IdentityKey) :
    (c.lookupEvent key).key = key := by
  unfold lookupEvent
  split <;> rfl

@[simp] lemma key_insertEvent (c : IdentityCache α) (key : IdentityKey) (a : α) :
    (c.insertEvent key a).key = key := by
  unfold insertEvent
  split <;> rfl

@[simp] lemma isLookup_lookupEvent (c : IdentityCache α) (key : IdentityKey) :
    (c.lookupEvent key).isLookup = true := by
  unfold lookupEvent
  split <;> rfl

@[simp] lemma isLookup_insertEvent (c : IdentityCache α) (key : IdentityKey) (a : α) :
    (c.insertEvent key a).isLookup = false := by
  unfold insertEvent
  split <;> rfl

/-- The cache after a request. -/
def serve (c : IdentityCache α) : IdentityRequest α → IdentityCache α
  | .get key => (c.get key).2
  | .insert key a => c.insert key a
  | .getOrInsert key created => (c.getOrInsert key created).2.2

/-- What the accesses of a request come to. What is not found is inserted after that. -/
def events (c : IdentityCache α) : IdentityRequest α → List (IdentityEvent α)
  | .get key => [c.lookupEvent key]
  | .insert key a => [c.insertEvent key a]
  | .getOrInsert key created =>
    match c.get key with
    | (some _, _) => [c.lookupEvent key]
    | (none, next) => [c.lookupEvent key, next.insertEvent key created]

/-- The cache after some requests. -/
def run (c : IdentityCache α) (requests : List (IdentityRequest α)) : IdentityCache α :=
  requests.foldl serve c

/-- What the accesses of some requests come to. -/
def log : IdentityCache α → List (IdentityRequest α) → List (IdentityEvent α)
  | _, [] => []
  | c, q :: requests => c.events q ++ (c.serve q).log requests

lemma run_append (c : IdentityCache α) (requests later : List (IdentityRequest α)) :
    c.run (requests ++ later) = (c.run requests).run later :=
  List.foldl_append

/-- The cache that an access leaves to be settled. -/
inductive Access (c : IdentityCache α) : IdentityEvent α → IdentityCache α → Prop where
  | found {key a} (h : c.entries.lookup key = some a) :
    Access c (.found key)
      { c with
        entries := (key, a) :: without key c.entries
        windowAccesses := c.windowAccesses + 1
        stats := { c.stats with hits := c.stats.hits + 1 } }
  | missed {key} (h : c.entries.lookup key = none) :
    Access c (.missed key)
      { c with
        windowAccesses := c.windowAccesses + 1
        stats := { c.stats with misses := c.stats.misses + 1 } }
  | replaced {key a old} (h : c.entries.lookup key = some old) :
    Access c (.replaced key a)
      { c with
        entries := (key, a) :: without key c.entries
        windowAccesses := c.windowAccesses + 1 }
  | added {key a} (h : c.entries.lookup key = none) (room : c.size < c.capacity) :
    Access c (.added key a)
      { c with
        entries := (key, a) :: c.entries
        windowAccesses := c.windowAccesses + 1 }
  | evicted {key a kept last} (h : c.entries.lookup key = none) (full : c.capacity ≤ c.size)
      (entries : c.entries = kept ++ [last]) :
    Access c (.added key a)
      { c with
        entries := (key, a) :: kept
        windowAccesses := c.windowAccesses + 1
        windowEvictions := c.windowEvictions + 1
        stats := { c.stats with evictions := c.stats.evictions + 1 } }

/-- A lookup is an access. -/
lemma get_access (c : IdentityCache α) (key : IdentityKey) :
    ∃ mid, c.Access (c.lookupEvent key) mid ∧ c.get key = (c.entries.lookup key, mid.settle) := by
  unfold get lookupEvent
  cases h : c.entries.lookup key with
  | some a =>
    rw [Lru.get_of_lookup h]
    exact ⟨_, .found h, rfl⟩
  | none =>
    rw [Lru.get_of_lookup_none h]
    exact ⟨_, .missed h, rfl⟩

/-- An insertion into a cache that may hold something is an access. -/
lemma insert_access (pos : 0 < c.capacity) (key : IdentityKey) (a : α) :
    ∃ mid, c.Access (c.insertEvent key a) mid ∧ c.insert key a = mid.settle := by
  unfold insert insertEvent
  cases h : c.entries.lookup key with
  | some old =>
    rw [Lru.push_of_lookup h]
    exact ⟨_, .replaced h, by simp⟩
  | none =>
    rw [Option.isSome_none, if_neg Bool.false_ne_true]
    by_cases full : c.capacity ≤ c.size
    · have nonempty : c.entries ≠ [] := List.ne_nil_of_length_pos (Nat.lt_of_lt_of_le pos full)
      have split := (List.dropLast_concat_getLast nonempty).symm
      have other : (c.entries.getLast nonempty).1 ≠ key := fun same =>
        Lru.not_mem_keys h (same ▸ List.mem_map_of_mem (List.getLast_mem nonempty))
      rw [Lru.push_of_full h full split]
      exact ⟨_, .evicted h full split, if_pos (bne_iff_ne.2 other)⟩
    · rw [Lru.push_of_room h (Nat.lt_of_not_le full)]
      exact ⟨_, .added h (Nat.lt_of_not_le full), rfl⟩

@[simp] lemma hits_settle (c : IdentityCache α) : c.settle.stats.hits = c.stats.hits := by
  obtain eq | eq | ⟨-, eq⟩ := c.settle_cases <;> rw [eq]
  rfl

@[simp] lemma misses_settle (c : IdentityCache α) : c.settle.stats.misses = c.stats.misses := by
  obtain eq | eq | ⟨-, eq⟩ := c.settle_cases <;> rw [eq]
  rfl

@[simp] lemma evictions_settle (c : IdentityCache α) :
    c.settle.stats.evictions = c.stats.evictions := by
  obtain eq | eq | ⟨-, eq⟩ := c.settle_cases <;> rw [eq]
  rfl

/-- What is true of a cache of some sizing at any time. -/
structure Sound (sizing : IdentitySizing) (c : IdentityCache α) : Prop where
  sizing_eq : c.sizing = sizing
  nodup : c.keys.Nodup
  size_le : c.size ≤ c.capacity
  /-- The counters tell the capacity. -/
  stated : c.stats.capacity = c.capacity
  /-- The capacity is at least what it was at the start. -/
  start_le : max sizing.initialCapacity 1 ≤ c.capacity
  le_bound : c.capacity ≤ max (max sizing.initialCapacity 1) sizing.maxCapacity

namespace Sound

/-- A new cache is sound. -/
lemma empty (sizing : IdentitySizing) :
    Sound sizing (IdentityCache.empty sizing : IdentityCache α) where
  sizing_eq := rfl
  nodup := .nil
  size_le := Nat.zero_le _
  stated := rfl
  start_le := Nat.le_refl _
  le_bound := Nat.le_max_left ..

lemma pos (h : Sound sizing c) : 0 < c.capacity :=
  Nat.lt_of_lt_of_le (Nat.lt_of_lt_of_le Nat.one_pos (Nat.le_max_right ..)) h.start_le

/-- A sound cache is sound with other entries of distinct keys, as many as it may hold. -/
lemma of_entries {c' : IdentityCache α} (h : Sound sizing c) (eq : c'.sizing = c.sizing)
    (capacity : c'.capacity = c.capacity) (stats : c'.stats.capacity = c.stats.capacity)
    (nodup : c'.keys.Nodup) (size_le : c'.size ≤ c.capacity) : Sound sizing c' where
  sizing_eq := eq.trans h.sizing_eq
  nodup := nodup
  size_le := capacity ▸ size_le
  stated := by rw [stats, capacity, h.stated]
  start_le := capacity ▸ h.start_le
  le_bound := capacity ▸ h.le_bound

/-- A sound cache is sound when it has been settled. -/
lemma settle (h : Sound sizing c) : Sound sizing c.settle := by
  have le : c.capacity ≤ c.settle.capacity := le_capacity_settle (Nat.le_refl _)
  have entries : c.settle.entries = c.entries := entries_settle h.size_le
  obtain eq | eq | ⟨room, eq⟩ := c.settle_cases <;> rw [eq] at le entries ⊢
  · exact h
  · exact h.of_entries rfl rfl rfl h.nodup h.size_le
  · have capacity := capacity_grow h.pos room
    refine ⟨h.sizing_eq, ?_, ?_, capacity.symm, Nat.le_trans h.start_le le, ?_⟩
    · rw [keys, entries]
      exact h.nodup
    · rw [Lru.size, entries]
      exact Nat.le_trans h.size_le le
    · rw [← h.sizing_eq]
      exact capacity ▸ Nat.le_trans (Nat.min_le_right ..) (Nat.le_max_right ..)

/-- Every access leaves a sound cache. -/
lemma access {e : IdentityEvent α} {mid : IdentityCache α} (h : Sound sizing c)
    (access : c.Access e mid) : Sound sizing mid := by
  have moved {key : IdentityKey} {old : α} (a : α) (found : c.entries.lookup key = some old) :
      (((key, a) :: without key c.entries).map (·.1)).Nodup ∧
        ((key, a) :: without key c.entries).length ≤ c.capacity :=
    ⟨(Lru.perm_without h.nodup found).nodup_iff.2 h.nodup,
      (Lru.length_moved h.nodup found a).symm ▸ h.size_le⟩
  cases access with
  | found found => exact h.of_entries rfl rfl rfl (moved _ found).1 (moved _ found).2
  | missed _ => exact h.of_entries rfl rfl rfl h.nodup h.size_le
  | replaced found => exact h.of_entries rfl rfl rfl (moved _ found).1 (moved _ found).2
  | added absent room =>
    exact h.of_entries rfl rfl rfl (List.nodup_cons.2 ⟨Lru.not_mem_keys absent, h.nodup⟩) room
  | @evicted key a kept last absent _ entries =>
    have nodup : (key :: c.keys).Nodup := List.nodup_cons.2 ⟨Lru.not_mem_keys absent, h.nodup⟩
    have size_le := h.size_le
    rw [keys, entries, List.map_append, ← List.cons_append] at nodup
    rw [Lru.size, entries, List.length_append] at size_le
    exact h.of_entries rfl rfl rfl (List.nodup_append.1 nodup).1 size_le

end Sound

/-- An access, after which the cache is settled: it may grow then, and drops nothing. -/
structure Accessed (c : IdentityCache α) (e : IdentityEvent α) (mid c' : IdentityCache α) :
    Prop where
  access : c.Access e mid
  settled : c' = mid.settle
  entries : c'.entries = mid.entries
  evictions : c'.stats.evictions = mid.stats.evictions
  growth :
    c'.stats.growths = c.stats.growths ∧ c'.capacity = c.capacity ∨
    c'.stats.growths = c.stats.growths + 1 ∧ c.capacity < c'.capacity

namespace Accessed

variable {e : IdentityEvent α} {mid c' : IdentityCache α}

lemma sound (h : Accessed c e mid c') (start : Sound sizing c) : Sound sizing c' :=
  h.settled ▸ (start.access h.access).settle

lemma capacity_le (h : Accessed c e mid c') : c.capacity ≤ c'.capacity := by
  obtain ⟨-, same⟩ | ⟨-, grown⟩ := h.growth
  · exact Nat.le_of_eq same.symm
  · exact Nat.le_of_lt grown

/-- A lookup that misses drops nothing. -/
lemma of_missed {key : IdentityKey} (h : Accessed c (.missed key) mid c') :
    c'.entries = c.entries ∧ c'.stats.evictions = c.stats.evictions := by
  rw [h.entries, h.evictions]
  cases h.access
  exact ⟨rfl, rfl⟩

end Accessed

/-- A sound cache that grows can hold more than before. -/
lemma Sound.accessed {e : IdentityEvent α} {mid : IdentityCache α} (h : Sound sizing c)
    (access : c.Access e mid) : Accessed c e mid mid.settle where
  access := access
  settled := rfl
  entries := entries_settle (h.access access).size_le
  evictions := evictions_settle mid
  growth := by
    have capacity : mid.capacity = c.capacity := by cases access <;> rfl
    have growths : mid.stats.growths = c.stats.growths := by cases access <;> rfl
    rw [← capacity, ← growths]
    obtain eq | eq | ⟨room, eq⟩ := mid.settle_cases <;> rw [eq]
    · exact .inl ⟨rfl, rfl⟩
    · exact .inl ⟨rfl, rfl⟩
    · exact .inr ⟨rfl, lt_capacity_grow room⟩

/-- From one cache to another by accesses. -/
inductive Leads (c : IdentityCache α) : List (IdentityEvent α) → IdentityCache α → Prop where
  | refl : Leads c [] c
  | step {events e c' mid c''} :
    Leads c events c' →
    Accessed c' e mid c'' →
    Leads c (events ++ [e]) c''

namespace Leads

variable {c' c'' : IdentityCache α} {events more : List (IdentityEvent α)}

lemma trans (h : Leads c events c') (next : Leads c' more c'') : Leads c (events ++ more) c'' := by
  induction next with
  | refl => rwa [List.append_nil]
  | step _ accessed ih =>
    rw [← List.append_assoc]
    exact ih.step accessed

lemma sound (h : Leads c events c') (start : Sound sizing c) : Sound sizing c' := by
  induction h with
  | refl => exact start
  | step _ accessed ih => exact accessed.sound ih

lemma capacity_le (h : Leads c events c') : c.capacity ≤ c'.capacity := by
  induction h with
  | refl => exact Nat.le_refl _
  | step _ accessed ih => exact Nat.le_trans ih accessed.capacity_le

/-- Every lookup is a hit or a miss. -/
lemma lookups (h : Leads c events c') :
    c'.stats.hits + c'.stats.misses =
      c.stats.hits + c.stats.misses + events.countP (·.isLookup) := by
  induction h with
  | refl => rfl
  | step _ accessed ih =>
    rw [accessed.settled, hits_settle, misses_settle, List.countP_append, ← Nat.add_assoc, ← ih]
    cases accessed.access <;> simp [IdentityEvent.isLookup] <;> omega

/-- What has been added is there or was dropped. -/
lemma additions (h : Leads c events c') (start : Sound sizing c) :
    c'.stats.evictions + c'.size =
      c.stats.evictions + c.size + events.countP (·.isAddition) := by
  induction h with
  | refl => rfl
  | step leads accessed ih =>
    have nodup := (leads.sound start).nodup
    rw [accessed.evictions, Lru.size, accessed.entries, List.countP_append, ← Nat.add_assoc, ← ih]
    cases accessed.access with
    | found found => rw [Lru.length_moved nodup found]; rfl
    | missed _ => rfl
    | replaced found => rw [Lru.length_moved nodup found]; rfl
    | added _ _ => rfl
    | evicted _ _ entries =>
      rw [Lru.size, entries, List.length_append, List.length_cons, Nat.add_right_comm]
      rfl

end Leads

/-- A request is one access, or an insertion after a lookup that missed. -/
inductive Serves (c : IdentityCache α) :
    IdentityKey → List (IdentityEvent α) → IdentityCache α → Prop where
  | once {e mid c'} :
    Accessed c e mid c' →
    Serves c e.key [e] c'
  | missed {key a mid next mid' c'} :
    Accessed c (.missed key) mid next →
    Accessed next (.added key a) mid' c' →
    Serves c key [.missed key, .added key a] c'

lemma Serves.leads {key : IdentityKey} {events : List (IdentityEvent α)} {c' : IdentityCache α}
    (h : Serves c key events c') : c.Leads events c' := by
  cases h with
  | once accessed => exact Leads.refl.step accessed
  | missed first then_ => exact (Leads.refl.step first).step then_

/-- Every request is served by such accesses. -/
lemma Sound.serves (h : Sound sizing c) (q : IdentityRequest α) :
    c.Serves q.key (c.events q) (c.serve q) := by
  have once {e : IdentityEvent α} {mid : IdentityCache α} {key : IdentityKey}
      (access : c.Access e mid) (same : e.key = key) : c.Serves key [e] mid.settle :=
    same ▸ .once (h.accessed access)
  cases q with
  | get key =>
    obtain ⟨mid, access, eq⟩ := c.get_access key
    rw [events, serve, eq]
    exact once access (key_lookupEvent ..)
  | insert key a =>
    obtain ⟨mid, access, eq⟩ := insert_access h.pos key a
    rw [events, serve, eq]
    exact once access (key_insertEvent ..)
  | getOrInsert key created =>
    obtain ⟨mid, access, eq⟩ := c.get_access key
    rw [events, serve, getOrInsert, eq]
    cases absent : c.entries.lookup key with
    | some a => exact once access (key_lookupEvent ..)
    | none =>
      rw [lookupEvent_of_lookup_none absent] at access ⊢
      have first := h.accessed access
      obtain ⟨mid', access', eq'⟩ := insert_access (first.sound h).pos key created
      -- The lookup that missed leaves the entries, so that the key is absent still.
      dsimp only
      rw [insertEvent_of_lookup_none (first.of_missed.1 ▸ absent)] at access' ⊢
      rw [eq']
      exact .missed first ((first.sound h).accessed access')

/-- Requests come down to accesses. -/
lemma Sound.leads_run (h : Sound sizing c) (requests : List (IdentityRequest α)) :
    c.Leads (c.log requests) (c.run requests) := by
  induction requests generalizing c with
  | nil => exact .refl
  | cons q requests ih =>
    have leads := (h.serves q).leads
    exact leads.trans (ih (leads.sound h))

/-- A request looks an instance up once if at all. -/
lemma countP_isLookup_events (c : IdentityCache α) (q : IdentityRequest α) :
    (c.events q).countP (·.isLookup) = if q.looksUp then 1 else 0 := by
  cases q with
  | get key => simp [events, IdentityRequest.looksUp]
  | insert key a => simp [events, IdentityRequest.looksUp]
  | getOrInsert key created =>
    simp only [events]
    split <;> simp [IdentityRequest.looksUp]

/-- As many instances are looked up as there are requests that do so. -/
lemma countP_isLookup_log (c : IdentityCache α) (requests : List (IdentityRequest α)) :
    (c.log requests).countP (·.isLookup) = requests.countP (·.looksUp) := by
  induction requests generalizing c with
  | nil => rfl
  | cons q requests ih =>
    rw [log, List.countP_append, ih, countP_isLookup_events, List.countP_cons, Nat.add_comm]

/--
The accounts of a cache after any requests: it is sound, and its capacity stays as it is if the
bound is no larger. Requests after these lead on by accesses, of which each lets it grow once at
most and drops nothing thereby, and the capacity never falls. Every lookup is counted as a hit or
a miss, and what was added is there or was counted as an eviction.
-/
theorem run_accounts (sizing : IdentitySizing) (requests : List (IdentityRequest α)) :
    let c : IdentityCache α := (empty sizing).run requests
    Sound sizing c ∧
      (sizing.maxCapacity ≤ max sizing.initialCapacity 1 →
        c.capacity = max sizing.initialCapacity 1) ∧
      (∀ later, c.Leads (c.log later) (c.run later) ∧ c.capacity ≤ (c.run later).capacity) ∧
      c.stats.hits + c.stats.misses = requests.countP (·.looksUp) ∧
      c.stats.evictions + c.size =
        ((empty sizing : IdentityCache α).log requests).countP (·.isAddition) := by
  intro c
  have start : Sound sizing (empty sizing : IdentityCache α) := .empty sizing
  have leads := start.leads_run requests
  have sound : Sound sizing c := leads.sound start
  refine ⟨sound, fun bound => ?_, fun later => ?_, ?_, ?_⟩
  · have le := sound.le_bound
    rw [Nat.max_eq_left bound] at le
    exact Nat.le_antisymm le sound.start_le
  · have further := sound.leads_run later
    exact ⟨further, further.capacity_le⟩
  · have counted := leads.lookups
    rw [countP_isLookup_log] at counted
    exact counted.trans (Nat.zero_add _)
  · exact (leads.additions start).trans (Nat.zero_add _)

-- A cache for one instance that grows when two of four accesses have dropped something.
example :
    ((empty ⟨0, 3, 4, ⟨0⟩⟩ : IdentityCache Nat).run [.insert ⟨"User", []⟩ 1,
      .getOrInsert ⟨"Order", []⟩ 2, .insert ⟨"Item", []⟩ 3, .get ⟨"Item", []⟩]).stats =
      { hits := 1, misses := 1, evictions := 2, growths := 1, capacity := 2 } := by
  decide

end IdentityCache

end RelMap
