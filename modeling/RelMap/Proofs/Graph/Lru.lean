import RelMap.Graph.Lru
import RelMap.Proofs.Lists

/-!
# What a bounded map keeps

One lemma for each outcome of an operation: what it gives, and what the entries are afterwards.
-/

namespace RelMap.Lru

variable {κ α : Type} {m : Lru κ α}

/-- A map that is resized to no less than its size keeps its entries. -/
lemma entries_resize {n : Nat} (h : m.size ≤ n) : (m.resize n).entries = m.entries :=
  List.take_of_length_le h

variable [DecidableEq κ] {key : κ}

section
variable {entries : List (κ × α)} {a : α}

/-- Other keys are found as before when the entry of one is taken out. -/
lemma lookup_without {other : κ} (h : other ≠ key) :
    (without key entries).lookup other = entries.lookup other := by
  induction entries with
  | nil => rfl
  | cons entry rest ih =>
    obtain ⟨k, a⟩ := entry
    by_cases same : k = key
    · have apart : (other == k) = false := by
        rw [same]
        exact beq_eq_false_iff_ne.2 h
      rw [List.lookup_cons, apart, ← ih]
      simp [without, same]
    · have kept : without key ((k, a) :: rest) = (k, a) :: without key rest := by
        simp [without, same]
      rw [kept, List.lookup_cons, List.lookup_cons, ih]

/-- A key that is not found has no entry. -/
lemma not_mem_keys (h : entries.lookup key = none) : key ∉ entries.map (·.1) := by
  intro found
  obtain ⟨entry, he, rfl⟩ := List.mem_map.1 found
  exact absurd (List.lookup_eq_none_iff.1 h entry he) (by simp)

/-- What is found under a key is an entry. -/
lemma mem_of_lookup (h : entries.lookup key = some a) : (key, a) ∈ entries := by
  obtain ⟨before, after, rfl, -⟩ := List.lookup_eq_some_iff.1 h
  exact List.mem_append_right _ (List.mem_cons_self ..)

/-- A key has no entry when it was taken out. -/
lemma not_mem_without (key : κ) (entries : List (κ × α)) :
    key ∉ (without key entries).map (·.1) := by
  simp [without]

/-- The keys are the same when the entry of one is moved to the front. -/
lemma perm_without (nodup : (entries.map (·.1)).Nodup) (h : entries.lookup key = some a) :
    (key :: (without key entries).map (·.1)).Perm (entries.map (·.1)) := by
  have found : key ∈ entries.map (·.1) := List.mem_map_of_mem (mem_of_lookup h)
  have fewer : ((without key entries).map (·.1)).Nodup :=
    nodup.sublist (List.filter_sublist.map _)
  have nodup' := List.nodup_cons.2 ⟨not_mem_without key entries, fewer⟩
  refine (List.perm_ext_iff_of_nodup nodup' nodup).2 fun k => ?_
  by_cases same : k = key
  · simp [same, found]
  · simp [without, same]

/-- Moving an entry to the front leaves as many entries. -/
lemma length_moved (nodup : (entries.map (·.1)).Nodup) {old : α}
    (h : entries.lookup key = some old) (a : α) :
    ((key, a) :: without key entries).length = entries.length := by
  have same := (perm_without nodup h).length_eq
  rwa [List.length_cons, List.length_map, List.length_map] at same

/-- Moving an entry to the front makes the map no longer. -/
lemma length_moved_le {old : α} (h : entries.lookup key = some old) (a : α) :
    ((key, a) :: without key entries).length ≤ entries.length :=
  List.length_filter_lt_length_iff_exists.2 ⟨_, mem_of_lookup h, by simp⟩

end

variable {a old : α}

/-- A lookup that succeeds moves the entry to the front. -/
lemma get_of_lookup (h : m.entries.lookup key = some a) :
    m.get key = (some a, { m with entries := (key, a) :: without key m.entries }) := by
  rw [get, h]

/-- A lookup that fails changes nothing. -/
lemma get_of_lookup_none (h : m.entries.lookup key = none) : m.get key = (none, m) := by
  rw [get, h]

/-- An insertion under a known key replaces its entry. -/
lemma push_of_lookup (h : m.entries.lookup key = some old) (a : α) :
    m.push key a =
      (some (key, old), { m with entries := (key, a) :: without key m.entries }) := by
  rw [push, h]

/-- An insertion with room for it drops nothing. -/
lemma push_of_room (h : m.entries.lookup key = none) (room : m.size < m.capacity) (a : α) :
    m.push key a = (none, { m with entries := (key, a) :: m.entries }) := by
  rw [push, h]
  exact if_pos room

/-- An insertion into a full map drops the least recently used entry. -/
lemma push_of_full (h : m.entries.lookup key = none) (full : m.capacity ≤ m.size)
    {kept : List (κ × α)} {last : κ × α} (split : m.entries = kept ++ [last]) (a : α) :
    m.push key a = (some last, { m with entries := (key, a) :: kept }) := by
  rw [push, h]
  dsimp only
  rw [if_neg (Nat.not_lt.2 full), split, List.getLast?_concat, List.dropLast_concat]

/-- An operation on a map gives entries of the map, and the one that is inserted. -/
lemma mem_push {entry : κ × α} (h : entry ∈ (m.push key a).2.entries) :
    entry ∈ m.entries ∨ entry = (key, a) := by
  have old {entries : List (κ × α)} (kept : ∀ e ∈ entries, e ∈ m.entries)
      (h : entry ∈ (key, a) :: entries) : entry ∈ m.entries ∨ entry = (key, a) :=
    (List.mem_cons.1 h).symm.imp_left (kept entry)
  unfold push at h
  split at h
  · exact old (fun e he => (List.mem_filter.1 he).1) h
  · split at h
    · exact old (fun e he => he) h
    · exact old (fun e he => List.dropLast_subset _ he) h

/-- A lookup gives entries of the map. -/
lemma mem_get {entry : κ × α} (h : entry ∈ (m.get key).2.entries) : entry ∈ m.entries := by
  unfold get at h
  split at h
  next found =>
    rcases List.mem_cons.1 h with rfl | h
    · exact mem_of_lookup found
    · exact (List.mem_filter.1 h).1
  next => exact h

end RelMap.Lru
