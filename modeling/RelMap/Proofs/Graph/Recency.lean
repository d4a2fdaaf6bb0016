import RelMap.Proofs.Graph.Accounting

/-!
# Recency in an identity cache

A key is touched when an instance is found or inserted under it. A cache has its keys in the order
in which they were touched last, so that it drops the one that was not touched for the longest time.
A key stays for as long as fewer other keys have been touched since than the cache could hold.
-/

namespace RelMap

namespace IdentityEvent

variable {α : Type}

/-- The key that an access touches. -/
def touched? : IdentityEvent α → Option IdentityKey
  | found key | added key _ | replaced key _ => some key
  | missed _ => none

/-- The instance that an access inserts under a key. -/
def inserted? (key : IdentityKey) : IdentityEvent α → Option α
  | added k a | replaced k a => if k = key then some a else none
  | found _ | missed _ => none

end IdentityEvent

namespace IdentityCache

open Lru (without mem_of_lookup not_mem_keys not_mem_without)

variable {α : Type} {sizing : IdentitySizing} {c c' mid : IdentityCache α}
variable {e : IdentityEvent α} {events : List (IdentityEvent α)} {key : IdentityKey}

/-- The keys that were touched, the first one first. -/
def touched (events : List (IdentityEvent α)) : List IdentityKey :=
  events.filterMap (·.touched?)

/-- The instance that was inserted under a key last. -/
def lastInserted (key : IdentityKey) (events : List (IdentityEvent α)) : Option α :=
  (events.filterMap (·.inserted? key)).getLast?

lemma touched_append (events more : List (IdentityEvent α)) :
    touched (events ++ more) = touched events ++ touched more :=
  List.filterMap_append

lemma touched_concat_of_none (h : e.touched? = none) :
    touched (events ++ [e]) = touched events := by
  simp [touched, h]

lemma touched_concat_of_some (h : e.touched? = some key) :
    touched (events ++ [e]) = touched events ++ [key] := by
  simp [touched, h]

lemma mem_touched_concat (h : e.touched? = some key) : key ∈ touched (events ++ [e]) := by
  rw [touched_concat_of_some h]
  exact List.mem_append_right _ (List.mem_singleton_self key)

lemma touched_subset_concat (events : List (IdentityEvent α)) (e : IdentityEvent α) :
    touched events ⊆ touched (events ++ [e]) := by
  rw [touched_append]
  exact List.subset_append_left ..

lemma lastInserted_concat_of_none (h : e.inserted? key = none) :
    lastInserted key (events ++ [e]) = lastInserted key events := by
  simp [lastInserted, h]

lemma lastInserted_concat_of_some {a : α} (h : e.inserted? key = some a) :
    lastInserted key (events ++ [e]) = some a := by
  simp [lastInserted, h]

/-- A key under which something was inserted was touched. -/
lemma mem_touched_of_lastInserted {a : α} (h : lastInserted key events = some a) :
    key ∈ touched events := by
  obtain ⟨e, he, put⟩ := List.mem_filterMap.1 (List.mem_of_getLast? h)
  refine List.mem_filterMap.2 ⟨e, he, ?_⟩
  cases e with
  | found _ | missed _ => cases put
  | added k _ | replaced k _ =>
    obtain ⟨same, -⟩ := Option.ite_none_right_eq_some.1 put
    exact congrArg some same

/-- The last touch of one key came before the last touch of another. -/
def LastTouchedBefore (touches : List IdentityKey) (older newer : IdentityKey) : Prop :=
  ∃ before after, touches = before ++ older :: after ∧ older ∉ after ∧ newer ∈ after

namespace LastTouchedBefore

variable {touches : List IdentityKey} {older newer : IdentityKey}

/-- The order of two keys stays while others are touched. -/
lemma concat (h : LastTouchedBefore touches older newer) (apart : older ≠ key) :
    LastTouchedBefore (touches ++ [key]) older newer := by
  obtain ⟨before, after, rfl, last, mem⟩ := h
  refine ⟨before, after ++ [key], by simp, ?_, List.mem_append_left _ mem⟩
  simp [last, apart]

/-- A key that is touched comes behind all others. -/
lemma fresh (mem : older ∈ touches) (apart : older ≠ key) :
    LastTouchedBefore (touches ++ [key]) older key := by
  obtain ⟨after, before, eq, last⟩ := List.eq_append_cons_of_mem (List.mem_reverse.2 mem)
  refine ⟨before.reverse, after.reverse ++ [key], ?_, by simp [last, apart], by simp⟩
  rw [← List.reverse_reverse touches, eq]
  simp

end LastTouchedBefore

/-- An access that touches a key has an instance of it in front. -/
structure Fronts (c : IdentityCache α) (e : IdentityEvent α) (c' : IdentityCache α)
    (key : IdentityKey) (a : α) (rest : List (IdentityKey × α)) : Prop where
  touched : e.touched? = some key
  inserted : e.inserted? key = some a ∨ e.inserted? key = none ∧ (key, a) ∈ c.entries
  others : ∀ k, k ≠ key → e.inserted? k = none
  entries : c'.entries = (key, a) :: rest
  sublist : rest.Sublist c.entries
  absent : key ∉ rest.map (·.1)

/-- What an access does to the order of the entries. -/
inductive Shift (c : IdentityCache α) (e : IdentityEvent α) (c' : IdentityCache α) : Prop where
  | stays (touched : e.touched? = none) (inserted : ∀ k, e.inserted? k = none)
    (entries : c'.entries = c.entries) (evictions : c'.stats.evictions = c.stats.evictions)
  | moves {key a} (front : Fronts c e c' key a (without key c.entries))
    (evictions : c'.stats.evictions = c.stats.evictions)
  | drops {key a kept last} (front : Fronts c e c' key a kept) (absent : key ∉ c.keys)
    (full : c.capacity ≤ c.size) (split : c.entries = kept ++ [last])
    (evictions : c'.stats.evictions = c.stats.evictions + 1)

/-- Every access is such a shift. -/
lemma Accessed.shift (h : Accessed c e mid c') : Shift c e c' := by
  have sublist (key : IdentityKey) : (without key c.entries).Sublist c.entries :=
    List.filter_sublist
  have entries := h.entries
  have evictions := h.evictions
  cases h.access with
  | missed _ => exact .stays rfl (fun _ => rfl) entries evictions
  | @found key a found =>
    exact .moves ⟨rfl, .inr ⟨rfl, mem_of_lookup found⟩, fun _ _ => rfl, entries, sublist _,
      not_mem_without key _⟩ evictions
  | @replaced key a old _ =>
    exact .moves ⟨rfl, .inl (if_pos rfl), fun k other => if_neg other.symm, entries, sublist _,
      not_mem_without key _⟩ evictions
  | @added key a absent _ =>
    have absent := not_mem_keys absent
    have same : without key c.entries = c.entries := by
      refine List.filter_eq_self.2 fun entry he => bne_iff_ne.2 fun eq => ?_
      exact absent (eq ▸ List.mem_map_of_mem he)
    exact .moves ⟨rfl, .inl (if_pos rfl), fun k other => if_neg other.symm, by rw [same, entries],
      sublist _, not_mem_without key _⟩ evictions
  | @evicted key a kept last absent full split =>
    have absent := not_mem_keys absent
    have prefix_sublist : kept.Sublist c.entries := split ▸ List.sublist_append_left ..
    exact .drops ⟨rfl, .inl (if_pos rfl), fun k other => if_neg other.symm, entries,
      prefix_sublist, fun mem => absent ((prefix_sublist.map _).subset mem)⟩ absent full split
      evictions

/-- The entries are in the order of their last touches, and as they were inserted last. -/
structure Recent (c : IdentityCache α) (events : List (IdentityEvent α)) : Prop where
  order : c.keys.Pairwise fun newer older => LastTouchedBefore (touched events) older newer
  latest : ∀ entry ∈ c.entries, lastInserted entry.1 events = some entry.2

namespace Recent

lemma mem_touched (h : Recent c events) {k : IdentityKey} (hk : k ∈ c.keys) :
    k ∈ touched events := by
  obtain ⟨entry, he, rfl⟩ := List.mem_map.1 hk
  exact mem_touched_of_lastInserted (h.latest entry he)

/-- What is in front was touched last. -/
lemma front {a : α} {rest : List (IdentityKey × α)} (h : Recent c events)
    (front : Fronts c e c' key a rest) : Recent c' (events ++ [e]) where
  order := by
    have apart (k : IdentityKey) (hk : k ∈ rest.map (·.1)) : k ≠ key :=
      fun same => front.absent (same ▸ hk)
    rw [keys, front.entries, List.map_cons, touched_concat_of_some front.touched]
    refine List.pairwise_cons.2 ⟨fun older ho => ?_, ?_⟩
    · exact .fresh (h.mem_touched ((front.sublist.map _).subset ho)) (apart older ho)
    · refine (h.order.sublist (front.sublist.map _)).imp_of_mem ?_
      exact fun _ ho before => before.concat (apart _ ho)
  latest := by
    intro entry he
    rw [front.entries] at he
    rcases List.mem_cons.1 he with rfl | he
    · rcases front.inserted with inserted | ⟨none, mem⟩
      · exact lastInserted_concat_of_some inserted
      · rw [lastInserted_concat_of_none none]
        exact h.latest _ mem
    · have other : entry.1 ≠ key := fun same => front.absent (same ▸ List.mem_map_of_mem he)
      rw [lastInserted_concat_of_none (front.others _ other)]
      exact h.latest _ (front.sublist.subset he)

/-- Every access keeps the order. -/
lemma shift (h : Recent c events) (shift : Shift c e c') : Recent c' (events ++ [e]) := by
  cases shift with
  | stays touched inserted entries _ =>
    refine ⟨?_, fun entry he => ?_⟩
    · rw [keys, entries, touched_concat_of_none touched]
      exact h.order
    · rw [lastInserted_concat_of_none (inserted _)]
      exact h.latest entry (entries ▸ he)
  | moves front _ => exact h.front front
  | drops front _ _ _ _ => exact h.front front

end Recent

/-- A cache is in the order of the touches since it was new. -/
lemma Leads.recent (h : Leads (empty sizing) events c') : Recent c' events := by
  induction h with
  | refl => exact ⟨.nil, nofun⟩
  | step _ accessed ih => exact ih.shift accessed.shift

/-- There is an entry, behind others only whose keys have been touched. -/
def Behind (touches : List IdentityKey) (entry : IdentityKey × α) (c : IdentityCache α) : Prop :=
  ∃ front back, c.entries = front ++ entry :: back ∧ front.map (·.1) ⊆ touches

/-- What is behind keys that have been touched is found unless its own key is among them. -/
lemma Behind.lookup {touches : List IdentityKey} {k : IdentityKey} {a : α}
    (h : Behind touches (k, a) c) (apart : k ∉ touches) : c.entries.lookup k = some a := by
  obtain ⟨front, back, split, sub⟩ := h
  refine List.lookup_eq_some_iff.2 ⟨front, back, split, fun entry he => ?_⟩
  exact bne_iff_ne.2 fun same => apart (sub (same ▸ List.mem_map_of_mem he))

/-- An access lets an entry stay, unless too many keys have been touched. -/
lemma Behind.shift {entry : IdentityKey × α} (h : Behind (touched events) entry c)
    (nodup : c.keys.Nodup) (shift : Shift c e c') (apart : entry.1 ∉ touched (events ++ [e]))
    (few : (touched (events ++ [e])).eraseDups.length < c.capacity) :
    Behind (touched (events ++ [e])) entry c' := by
  obtain ⟨front, back, split, sub⟩ := h
  have sub : front.map (·.1) ⊆ touched (events ++ [e]) :=
    List.Subset.trans sub (touched_subset_concat events e)
  cases shift with
  | stays _ _ entries _ => exact ⟨front, back, entries.trans split, sub⟩
  | @moves key b moved _ =>
    have touched := @mem_touched_concat _ _ events _ moved.touched
    have other : entry.1 ≠ key := fun same => apart (same ▸ touched)
    refine ⟨(key, b) :: without key front, without key back, ?_, ?_⟩
    · rw [moved.entries, split]
      simp [without, other]
    · exact List.cons_subset.2 ⟨touched, List.Subset.trans (List.filter_sublist.map _).subset sub⟩
  | @drops key b kept last moved absent full cut _ =>
    have touched := @mem_touched_concat _ _ events _ moved.touched
    rcases List.eq_nil_or_concat back with rfl | ⟨back, last', rfl⟩
    · -- All entries before the last one have been touched, and they fill the cache.
      rw [keys, split, List.map_append] at nodup absent
      have new : key ∉ front.map (·.1) := fun mem => absent (List.mem_append_left _ mem)
      have lt := length_lt_eraseDups (List.nodup_append.1 nodup).1 new touched sub
      rw [Lru.size, split, List.length_append, List.length_singleton] at full
      rw [List.length_map] at lt
      omega
    · rw [split, List.concat_eq_append, ← List.cons_append, ← List.append_assoc] at cut
      obtain ⟨rfl, -⟩ := List.append_inj' cut rfl
      exact ⟨(key, b) :: front, back, moved.entries, List.cons_subset.2 ⟨touched, sub⟩⟩

/-- The first entry stays as long as fewer keys are touched than the cache can hold. -/
lemma Leads.behind {entry : IdentityKey × α} {rest : List (IdentityKey × α)}
    (h : Leads c events c') (sound : Sound sizing c) (head : c.entries = entry :: rest)
    (apart : entry.1 ∉ touched events) (few : (touched events).eraseDups.length < c.capacity) :
    Behind (touched events) entry c' := by
  induction h with
  | refl => exact ⟨[], rest, head, List.nil_subset _⟩
  | @step events e c₁ mid c₂ leads accessed ih =>
    have more := touched_subset_concat events e
    have behind :=
      ih (fun mem => apart (more mem)) (Nat.lt_of_le_of_lt (length_eraseDups_le more) few)
    exact behind.shift (leads.sound sound).nodup accessed.shift apart
      (Nat.lt_of_lt_of_le few leads.capacity_le)

/-- Nothing is dropped as long as no more keys are touched than a new cache can hold. -/
lemma Leads.evictions_eq_zero (h : Leads (empty sizing) events c')
    (few : (touched events).eraseDups.length ≤ max sizing.initialCapacity 1) :
    c'.stats.evictions = 0 := by
  induction h with
  | refl => rfl
  | @step events e c₁ mid c₂ leads accessed ih =>
    have more := touched_subset_concat events e
    have before := ih (Nat.le_trans (length_eraseDups_le more) few)
    cases accessed.shift with
    | stays _ _ _ evictions => exact evictions.trans before
    | moves _ evictions => exact evictions.trans before
    | drops moved absent full _ _ =>
      have sound : Sound sizing c₁ := leads.sound (.empty sizing)
      have among : c₁.keys ⊆ touched (events ++ [e]) := fun _ hk =>
        more (leads.recent.mem_touched hk)
      have lt := length_lt_eraseDups sound.nodup absent (mem_touched_concat moved.touched) among
      have capacity := sound.start_le
      rw [keys, List.length_map] at lt
      unfold Lru.size at full
      omega

/-- Either nothing is dropped, or one key is, whose last touch came before that of every other. -/
def DropsOldest (touches : List IdentityKey) (c c' : IdentityCache α) : Prop :=
  c'.stats.evictions = c.stats.evictions ∧ c.keys ⊆ c'.keys ∨
  ∃ k ∈ c.keys, c'.stats.evictions = c.stats.evictions + 1 ∧ k ∉ c'.keys ∧
    ∀ k' ∈ c.keys, k' ≠ k → k' ∈ c'.keys ∧ LastTouchedBefore touches k k'

/-- What an access drops is the oldest. -/
lemma Recent.dropsOldest (h : Recent c events) (nodup : c.keys.Nodup) (shift : Shift c e c') :
    DropsOldest (touched events) c c' := by
  cases shift with
  | stays _ _ entries evictions =>
    refine .inl ⟨evictions, ?_⟩
    rw [keys, keys, entries]
    exact List.Subset.refl _
  | @moves key a front evictions =>
    refine .inl ⟨evictions, fun k hk => ?_⟩
    rw [keys, front.entries, List.map_cons]
    by_cases same : k = key
    · exact same ▸ List.mem_cons_self ..
    · obtain ⟨entry, he, rfl⟩ := List.mem_map.1 hk
      have stays : entry ∈ without key c.entries := List.mem_filter.2 ⟨he, bne_iff_ne.2 same⟩
      exact List.mem_cons_of_mem _ (List.mem_map_of_mem stays)
  | @drops key a kept last front absent _ split evictions =>
    have cut : c.keys = kept.map (·.1) ++ [last.1] := by
      rw [keys, split, List.map_append]
      rfl
    have keys' : c'.keys = key :: kept.map (·.1) := by
      rw [keys, front.entries]
      rfl
    have order := h.order
    rw [cut] at nodup order absent
    obtain ⟨-, -, apart⟩ := List.nodup_append.1 nodup
    obtain ⟨-, -, oldest⟩ := List.pairwise_append.1 order
    refine .inr ⟨last.1, ?_, evictions, ?_, fun k hk other => ?_⟩
    · rw [cut]
      exact List.mem_append_right _ (List.mem_singleton_self _)
    · rw [keys']
      intro mem
      rcases List.mem_cons.1 mem with same | mem
      · exact absent (same ▸ List.mem_append_right _ (List.mem_singleton_self _))
      · exact apart _ mem _ (List.mem_singleton_self _) rfl
    · rw [cut] at hk
      rcases List.mem_append.1 hk with hk | hk
      · rw [keys']
        exact ⟨List.mem_cons_of_mem _ hk, oldest k hk _ (List.mem_singleton_self _)⟩
      · exact absurd (List.mem_singleton.1 hk) other

/-- What a request drops is the oldest. -/
lemma Serves.dropsOldest {served : List (IdentityEvent α)} (h : c.Serves key served c')
    (recent : Recent c events) (sound : Sound sizing c) : DropsOldest (touched events) c c' := by
  cases h with
  | once accessed => exact recent.dropsOldest sound.nodup accessed.shift
  | missed first then_ =>
    have dropped := (recent.shift first.shift).dropsOldest (first.sound sound).nodup then_.shift
    obtain ⟨entries, evictions⟩ := first.of_missed
    rw [touched_concat_of_none rfl] at dropped
    unfold DropsOldest keys at dropped ⊢
    rwa [entries, evictions] at dropped

/-- A request touches its key or none. -/
lemma Serves.touched (h : c.Serves key events c') :
    touched events = [] ∨ touched events = [key] := by
  cases h with
  | @once e =>
    cases e with
    | missed _ => exact .inl rfl
    | found _ | added _ _ | replaced _ _ => exact .inr rfl
  | missed _ _ => exact .inr rfl

/-- Only the keys of requests are touched. -/
lemma Sound.touched_log (h : Sound sizing c) (requests : List (IdentityRequest α)) :
    touched (c.log requests) ⊆ requests.map (·.key) := by
  induction requests generalizing c with
  | nil => exact List.nil_subset _
  | cons q requests ih =>
    have serves := h.serves q
    have rest := ih (serves.leads.sound h)
    intro k hk
    rw [log, touched_append] at hk
    rcases List.mem_append.1 hk with hk | hk
    · rcases serves.touched with none | one
      · exact absurd hk (none ▸ List.not_mem_nil)
      · rw [one] at hk
        exact List.mem_singleton.1 hk ▸ List.mem_cons_self ..
    · exact List.mem_cons_of_mem _ (rest hk)

/-- What was touched last is in front. -/
lemma Leads.front (h : Leads c events c') (last : (touched events).getLast? = some key) :
    ∃ a rest, c'.entries = (key, a) :: rest := by
  induction h with
  | refl => cases last
  | step _ accessed ih =>
    cases accessed.shift with
    | stays touched _ entries _ =>
      rw [touched_concat_of_none touched] at last
      exact entries ▸ ih last
    | moves front _ | drops front _ _ _ _ =>
      rw [touched_concat_of_some front.touched, List.getLast?_concat] at last
      cases last
      exact ⟨_, _, front.entries⟩

/-- The key that a request touches is in front. -/
lemma Serves.front {k : IdentityKey} (h : c.Serves key events c')
    (hk : k ∈ IdentityCache.touched events) : ∃ a rest, c'.entries = (k, a) :: rest := by
  apply h.leads.front
  rcases h.touched with none | one
  · exact absurd hk (none ▸ List.not_mem_nil)
  · rw [one] at hk ⊢
    exact congrArg some (List.mem_singleton.1 hk).symm

/--
A key that was touched by a request is found as it was inserted last, if fewer other keys have been
touched since than the cache could hold then. Whatever a request drops is the key whose last touch
is the oldest, and nothing is ever dropped if no more keys are used than a new cache can hold.
-/
theorem run_recency (sizing : IdentitySizing) (requests : List (IdentityRequest α)) :
    let start : IdentityCache α := empty sizing
    let c := start.run requests
    (∀ before q after k, requests = before ++ q :: after →
      let touching := start.run before
      let since := touching.serve q
      k ∈ touched (touching.events q) → k ∉ touched (since.log after) →
        (touched (since.log after)).eraseDups.length < since.capacity →
        ∃ a, lastInserted k (start.log requests) = some a ∧ (c.get k).1 = some a) ∧
      (∀ q, DropsOldest (touched (start.log requests)) c (c.serve q)) ∧
      ((requests.map (·.key)).eraseDups.length ≤ max sizing.initialCapacity 1 →
        c.stats.evictions = 0) := by
  intro start c
  have new : Sound sizing start := .empty sizing
  have leads := new.leads_run requests
  refine ⟨fun before q after k split => ?_, fun q => ?_, fun few => ?_⟩
  · intro touching since here apart few
    have sound : Sound sizing touching := (new.leads_run before).sound new
    have serves := sound.serves q
    obtain ⟨a, rest, head⟩ := serves.front here
    have since_sound : Sound sizing since := serves.leads.sound sound
    have final : c = since.run after := by
      show start.run requests = _
      rw [split, run_append]
      rfl
    have behind := (since_sound.leads_run after).behind since_sound head apart few
    have lookup : c.entries.lookup k = some a := final ▸ behind.lookup apart
    exact ⟨a, leads.recent.latest _ (mem_of_lookup lookup), (get_fst c k).trans lookup⟩
  · have sound : Sound sizing c := leads.sound new
    exact (sound.serves q).dropsOldest leads.recent sound
  · exact leads.evictions_eq_zero
      (Nat.le_trans (length_eraseDups_le (new.touched_log requests)) few)

/-- A cache of two instances keeps the one that was found again, and drops the other one. -/
theorem run_recency_fixed :
    let start : IdentityCache Nat := empty (.fixed 2)
    let visits := [.insert ⟨"User", []⟩ 1, .insert ⟨"Order", []⟩ 2, .get ⟨"User", []⟩]
    let c := start.run visits
    let next : IdentityRequest Nat := .insert ⟨"Item", []⟩ 3
    (∃ a, lastInserted ⟨"User", []⟩ (start.log (visits ++ [next])) = some a ∧
        ((start.run (visits ++ [next])).get ⟨"User", []⟩).1 = some a) ∧
      DropsOldest (touched (start.log visits)) c (c.serve next) ∧
      (c.serve next).keys = [⟨"Item", []⟩, ⟨"User", []⟩] ∧
      (c.serve next).stats.evictions = 1 ∧ c.stats.evictions = 0 := by
  intro start visits c next
  refine ⟨?_, ?_, by decide, by decide, ?_⟩
  · exact (run_recency (.fixed 2) (visits ++ [next])).1 (visits.take 2) (.get ⟨"User", []⟩) [next]
      ⟨"User", []⟩ rfl (by decide) (by decide) (by decide)
  · exact (run_recency (.fixed 2) visits).2.1 next
  · exact (run_recency (.fixed 2) visits).2.2 (by decide)

end IdentityCache

end RelMap
