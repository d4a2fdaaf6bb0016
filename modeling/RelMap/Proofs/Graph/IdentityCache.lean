import RelMap.Graph.IdentityCache
import RelMap.Proofs.Graph.Lru

/-!
# An identity cache that evicts nothing

As long as a cache has room for all keys that are looked up, it is a map: what was inserted under a
key is found under it. Its capacity never falls.
-/

namespace RelMap.IdentityCache

open Lru (without)

variable {α : Type} {c : IdentityCache α} {key : IdentityKey}

/-- Settling changes nothing but the window, or lets the cache grow once. -/
lemma settle_cases (c : IdentityCache α) :
    c.settle = c ∨ c.settle = { c with windowAccesses := 0, windowEvictions := 0 } ∨
      c.capacity < c.sizing.maxCapacity ∧
        c.settle = { c.grow with windowAccesses := 0, windowEvictions := 0 } := by
  unfold settle
  split
  next => exact .inl rfl
  next =>
    dsimp only
    split
    next crowded => exact .inr (.inr ⟨crowded.2, rfl⟩)
    next => exact .inr (.inl rfl)

/-- Settling drops nothing from a cache that holds no more than it may. -/
lemma entries_settle (fits : c.size ≤ c.capacity) : c.settle.entries = c.entries := by
  obtain eq | eq | ⟨room, eq⟩ := c.settle_cases <;> rw [eq]
  refine Lru.entries_resize (Nat.le_trans fits ?_)
  omega

/-- Settling adds nothing. -/
lemma mem_of_mem_settle {entry : IdentityKey × α} (h : entry ∈ c.settle.entries) :
    entry ∈ c.entries := by
  obtain eq | eq | ⟨-, eq⟩ := c.settle_cases <;> rw [eq] at h
  · exact h
  · exact h
  · exact List.mem_of_mem_take h

/-- A cache that may hold something and may grow has the capacity that its counters tell then. -/
lemma capacity_grow (pos : 0 < c.capacity) (room : c.capacity < c.sizing.maxCapacity) :
    c.grow.capacity = c.grow.stats.capacity := by
  simp only [grow, Lru.resize]
  omega

/-- A cache that may grow can hold more than before when it does. -/
lemma lt_capacity_grow (room : c.capacity < c.sizing.maxCapacity) :
    c.capacity < c.grow.capacity := by
  simp only [grow, Lru.resize]
  omega

/-- Settling does not lower the capacity. -/
lemma le_capacity_settle {n : Nat} (h : n ≤ c.capacity) : n ≤ c.settle.capacity := by
  obtain eq | eq | ⟨room, eq⟩ := c.settle_cases <;> rw [eq]
  · exact h
  · exact h
  · simp only [grow, Lru.resize]
    omega

/-- A lookup that succeeds moves the entry to the front. -/
lemma get_of_lookup (fits : c.size ≤ c.capacity) {a : α} (h : c.entries.lookup key = some a) :
    ∃ next, c.get key = (some a, next) ∧ next.entries = (key, a) :: without key c.entries ∧
      c.capacity ≤ next.capacity := by
  unfold get
  rw [Lru.get_of_lookup h]
  exact ⟨_, rfl, entries_settle (Nat.le_trans (Lru.length_moved_le h a) fits),
    le_capacity_settle (Nat.le_refl _)⟩

/-- A lookup that fails changes no entry. -/
lemma get_of_lookup_none (fits : c.size ≤ c.capacity) (h : c.entries.lookup key = none) :
    ∃ next, c.get key = (none, next) ∧ next.entries = c.entries ∧ c.capacity ≤ next.capacity := by
  unfold get
  rw [Lru.get_of_lookup_none h]
  exact ⟨_, rfl, entries_settle fits, le_capacity_settle (Nat.le_refl _)⟩

/-- An insertion with room for it drops nothing. -/
lemma insert_of_lookup_none (h : c.entries.lookup key = none) (room : c.size < c.capacity) (a : α) :
    (c.insert key a).entries = (key, a) :: c.entries ∧ c.capacity ≤ (c.insert key a).capacity := by
  unfold insert
  rw [Lru.push_of_room h room]
  exact ⟨entries_settle room, le_capacity_settle (Nat.le_refl _)⟩

/-- A lookup gives what the key has. -/
lemma get_fst (c : IdentityCache α) (key : IdentityKey) :
    (c.get key).1 = c.entries.lookup key := by
  cases h : c.entries.lookup key with
  | some a => rw [get, Lru.get_of_lookup h]
  | none => rw [get, Lru.get_of_lookup_none h]

/-- A lookup adds nothing. -/
lemma mem_of_mem_get {entry : IdentityKey × α} (h : entry ∈ (c.get key).2.entries) :
    entry ∈ c.entries :=
  Lru.mem_get (mem_of_mem_settle h)

/-- Whatever is in a cache after an insertion was in it before, or is what was inserted. -/
lemma mem_entries_insert {a : α} {entry : IdentityKey × α} (h : entry ∈ (c.insert key a).entries) :
    entry ∈ c.entries ∨ entry = (key, a) := by
  unfold insert at h
  dsimp only at h
  split at h <;> exact Lru.mem_push (mem_of_mem_settle h)

/-- Every cache gives what it knows under a key or what was made for it, and learns nothing else. -/
lemma getOrInsert_cases (c : IdentityCache α) (key : IdentityKey) (created : α) :
    ∃ a isNew next, c.getOrInsert key created = (a, isNew, next) ∧
      (isNew = true ∧ a = created ∨ isNew = false ∧ (key, a) ∈ c.entries) ∧
      ∀ entry ∈ next.entries, entry ∈ c.entries ∨ entry = (key, a) := by
  have asked := get_fst c key
  have old : ∀ entry ∈ (c.get key).2.entries, entry ∈ c.entries := fun e he => mem_of_mem_get he
  unfold getOrInsert
  generalize c.get key = answer at asked old ⊢
  obtain ⟨_ | a, next⟩ := answer
  · exact ⟨created, true, next.insert key created, rfl, .inl ⟨rfl, rfl⟩,
      fun e he => (mem_entries_insert he).imp_left (old e)⟩
  · exact ⟨a, false, next, rfl, .inr ⟨rfl, Lru.mem_of_lookup asked.symm⟩,
      fun e he => .inl (old e he)⟩

/-- A cache with room for some keys, which finds nothing under any other. -/
structure RoomFor (keys : List IdentityKey) (c : IdentityCache α) : Prop where
  /-- The capacity is large enough for all keys. -/
  room : keys.eraseDups.length ≤ c.capacity
  /-- No key has two entries. -/
  nodup : (c.entries.map (·.1)).Nodup
  /-- There are entries for these keys only. -/
  among : ∀ entry ∈ c.entries, entry.1 ∈ keys

/-- An empty cache has room for as many keys as its capacity. -/
lemma RoomFor.empty {sizing : IdentitySizing} {keys : List IdentityKey}
    (h : keys.eraseDups.length ≤ max sizing.initialCapacity 1) :
    RoomFor keys (IdentityCache.empty sizing : IdentityCache α) where
  room := h
  nodup := List.nodup_nil
  among := nofun

section
variable {keys : List IdentityKey}

/-- There are entries for these keys only. -/
lemma RoomFor.subset (h : RoomFor keys c) : c.entries.map (·.1) ⊆ keys := by
  intro k hk
  obtain ⟨entry, he, rfl⟩ := List.mem_map.1 hk
  exact h.among entry he

/-- A cache with room for its keys holds no more than it may. -/
lemma RoomFor.size_le (h : RoomFor keys c) : c.size ≤ c.capacity := by
  have le := length_le_eraseDups h.nodup h.subset
  rw [List.length_map] at le
  exact Nat.le_trans le h.room

/-- There is room for one more of the keys. -/
lemma RoomFor.size_lt (h : RoomFor keys c) (mem : key ∈ keys)
    (absent : c.entries.lookup key = none) : c.size < c.capacity := by
  have lt := length_lt_eraseDups h.nodup (Lru.not_mem_keys absent) mem h.subset
  rw [List.length_map] at lt
  exact Nat.lt_of_lt_of_le lt h.room

end

/-- A cache with the same keys and no less capacity has the same room. -/
lemma RoomFor.of_perm {keys : List IdentityKey} {c' : IdentityCache α} (h : RoomFor keys c)
    (le : c.capacity ≤ c'.capacity) (same : (c'.entries.map (·.1)).Perm (c.entries.map (·.1))) :
    RoomFor keys c' where
  room := Nat.le_trans h.room le
  nodup := same.nodup_iff.2 h.nodup
  among := fun entry he => by
    obtain ⟨old, hold, eq⟩ := List.mem_map.1 (same.subset (List.mem_map_of_mem he))
    exact eq ▸ h.among old hold

/-- What a key is known for is found, and the cache knows what it knew. -/
lemma getOrInsert_of_known {keys : List IdentityKey} {a : α} (room : RoomFor keys c)
    (h : c.entries.lookup key = some a) (created : α) :
    ∃ next, c.getOrInsert key created = (a, false, next) ∧ RoomFor keys next ∧
      ∀ k, next.entries.lookup k = c.entries.lookup k := by
  obtain ⟨next, found, entries, capacity⟩ := get_of_lookup room.size_le h
  refine ⟨next, by rw [getOrInsert, found], room.of_perm capacity ?_, fun k => ?_⟩
  · rw [entries]
    exact Lru.perm_without room.nodup h
  · rw [entries, List.lookup_cons]
    by_cases same : k = key
    · rw [same, h, beq_self_eq_true]
    · rw [beq_eq_false_iff_ne.2 same]
      exact Lru.lookup_without same

/-- What a key is not known for is inserted, and the cache knows that besides what it knew. -/
lemma getOrInsert_of_unknown {keys : List IdentityKey} (room : RoomFor keys c) (mem : key ∈ keys)
    (h : c.entries.lookup key = none) (created : α) :
    ∃ next, c.getOrInsert key created = (created, true, next) ∧ RoomFor keys next ∧
      ∀ k, next.entries.lookup k = if k = key then some created else c.entries.lookup k := by
  obtain ⟨missed, absent, entries, capacity⟩ := get_of_lookup_none room.size_le h
  have room' : RoomFor keys missed := room.of_perm capacity (by rw [entries])
  have h' : missed.entries.lookup key = none := by rw [entries, h]
  obtain ⟨entries', capacity'⟩ := insert_of_lookup_none h' (room'.size_lt mem h') created
  refine ⟨_, by rw [getOrInsert, absent], ⟨?_, ?_, ?_⟩, fun k => ?_⟩
  · exact Nat.le_trans room'.room capacity'
  · rw [entries']
    exact List.nodup_cons.2 ⟨Lru.not_mem_keys h', room'.nodup⟩
  · rw [entries']
    intro entry he
    rcases List.mem_cons.1 he with rfl | he
    · exact mem
    · exact room'.among entry he
  · rw [entries', List.lookup_cons, entries]
    by_cases same : k = key
    · rw [if_pos same, same, beq_self_eq_true]
    · rw [if_neg same, beq_eq_false_iff_ne.2 same]

end RelMap.IdentityCache
