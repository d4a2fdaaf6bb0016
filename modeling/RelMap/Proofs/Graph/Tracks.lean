import RelMap.Proofs.Graph.IdentityCache
import RelMap.Proofs.Graph.Run
import RelMap.Proofs.Graph.Trace

/-!
# What a run keeps true

What the state of a run has to do with the parts of rows that it has come to: which of them are one
instance, and where the links between them have led. Each step of a run keeps this true.
-/

namespace RelMap

/--
What the state of a run has to do with the occurrences and the links it has come to. The keys are
those that it comes to in the end, for which the identity cache has to have room.
-/
structure Tracks (keys : List IdentityKey) (occurrences : List Occurrence) (links : List Linked)
    (s : RunState) : Prop where
  /-- The identity cache evicts nothing. -/
  room : s.identities.RoomFor keys
  /-- It knows the instance of every key that occurred. -/
  known : ∀ key, s.identities.entries.lookup key =
    (occurrences.find? (·.identity? = some key)).map (·.id)
  /-- Every occurrence of a type with a key has one. -/
  keyed : ∀ o ∈ occurrences, o.mapping.isKeyless = false → o.identity?.isSome
  /-- Two occurrences are one instance exactly when they are of one type and key. -/
  same : occurrences.Pairwise fun o o' => o.id = o'.id ↔ o.Alike o'
  /-- The instances are those of the occurrences, each as it occurred first. -/
  content : ∀ id, s.store.content? id =
    (occurrences.find? (·.id = id)).map fun o => (o.mapping, o.values)
  /-- The links are links between instances. -/
  valid : ∀ l ∈ links, l.owner < s.store.nextId ∧ l.item < s.store.nextId
  /-- A reference has the target of the last link made to it. -/
  references : ∀ id navigation, s.store.reference? id navigation =
    (targets links id navigation).getLast?
  /-- A collection has what the links made to it lead to. -/
  collections : ∀ id navigation, s.store.collection? id navigation =
    s.store.gathered (offers links id navigation)

namespace Tracks

variable {keys : List IdentityKey} {occurrences : List Occurrence} {links : List Linked}
variable {s t : RunState} {o o' : Occurrence}

/-- At the start nothing has occurred. -/
lemma start {sizing : IdentitySizing}
    (h : keys.eraseDups.length ≤ max sizing.initialCapacity 1) :
    Tracks keys [] [] { identities := .empty sizing } where
  room := .empty h
  known := fun _ => rfl
  keyed := nofun
  same := .nil
  content := fun _ => rfl
  valid := nofun
  references := fun _ _ => rfl
  collections := fun _ _ => rfl

lemma id_lt (h : Tracks keys occurrences links s) (ho : o ∈ occurrences) :
    o.id < s.store.nextId := by
  rw [← Store.isSome_content?_iff, h.content, Option.isSome_map, List.find?_isSome]
  exact ⟨o, ho, decide_eq_true rfl⟩

/-- Occurrences of one type and key are one instance. -/
lemma id_eq (h : Tracks keys occurrences links s) (ho : o ∈ occurrences) (ho' : o' ∈ occurrences)
    (alike : o.Alike o') : o.id = o'.id := by
  refine List.Pairwise.forall_of_forall_of_flip (R := fun o o' => o.Alike o' → o.id = o'.id)
    (fun _ _ _ => rfl) (h.same.imp fun iff alike => iff.2 alike)
    (h.same.imp fun iff alike => (iff.2 ⟨?_, alike.2.symm⟩).symm) ho ho' alike
  exact alike.2 ▸ alike.1

/-- Occurrences that are one instance have the same type and key, or none. -/
lemma identity_eq (h : Tracks keys occurrences links s) (ho : o ∈ occurrences)
    (ho' : o' ∈ occurrences) (same : o.id = o'.id) : o.identity? = o'.identity? :=
  List.Pairwise.forall_of_forall_of_flip
    (R := fun o o' => o.id = o'.id → o.identity? = o'.identity?) (fun _ _ _ => rfl)
    (h.same.imp fun iff same => (iff.1 same).2)
    (h.same.imp fun iff same => (iff.1 same.symm).2.symm) ho ho' same

/-- A new instance without a key, or with one that did not occur before. -/
lemma create (h : Tracks keys occurrences links s) {m : EntityMapping} {values : List Value}
    {identities : IdentityCache Nat} (room : identities.RoomFor keys)
    (keyed : m.isKeyless = false → (m.identity? values).isSome)
    (fresh : ∀ o ∈ occurrences, (m.identity? values).isSome → o.identity? ≠ m.identity? values)
    (known : ∀ key, identities.entries.lookup key =
      if m.identity? values = some key then some s.store.nextId
      else s.identities.entries.lookup key) :
    Tracks keys (occurrences ++ [⟨m, values, s.store.nextId⟩]) links
      ⟨s.store.add { mapping := m, values }, identities⟩ where
  room := room
  known := fun key => by
    rw [known, h.known, List.find?_append]
    by_cases here : m.identity? values = some key
    · have absent : occurrences.find? (·.identity? = some key) = none := by
        refine List.find?_eq_none.2 fun o ho => ?_
        rw [decide_eq_true_iff, ← here]
        exact fresh o ho (by rw [here]; rfl)
      rw [if_pos here, absent]
      simp [here, Occurrence.identity?]
    · simp [here, Occurrence.identity?]
  keyed := fun o ho => by
    rcases List.mem_append.1 ho with ho | ho
    · exact h.keyed o ho
    · cases List.mem_singleton.1 ho
      exact keyed
  same := by
    refine List.pairwise_append.2 ⟨h.same, List.pairwise_singleton _ _, fun o ho o' ho' => ?_⟩
    cases List.mem_singleton.1 ho'
    have apart : o.id ≠ s.store.nextId := Nat.ne_of_lt (h.id_lt ho)
    refine iff_of_false apart fun alike => ?_
    have keyed := alike.1
    rw [alike.2] at keyed
    exact fresh o ho keyed alike.2
  content := fun id => by
    rw [Store.content?_add, h.content, List.find?_append]
    by_cases new : id = s.store.nextId
    · have absent : occurrences.find? (·.id = id) = none := by
        refine List.find?_eq_none.2 fun o ho => ?_
        rw [decide_eq_true_iff, new]
        exact Nat.ne_of_lt (h.id_lt ho)
      rw [if_pos new, absent]
      simp [new]
    · simp [new, Ne.symm new]
  valid := fun l hl => by
    obtain ⟨owner, item⟩ := h.valid l hl
    rw [Store.nextId_add]
    exact ⟨Nat.lt_succ_of_lt owner, Nat.lt_succ_of_lt item⟩
  references := fun id navigation => by
    rw [Store.reference?_add]
    exact h.references id navigation
  collections := fun id navigation => by
    rw [Store.collection?_add, h.collections]
    refine Store.gathered_congr fun offer ho => ?_
    have apart : offer.2 ≠ s.store.nextId := Nat.ne_of_lt (h.valid _ (mem_offers.1 ho)).2
    rw [Store.content?_add, if_neg apart]

/-- One more occurrence of a type and key that occurred before. -/
lemma again (h : Tracks keys occurrences links s) {m : EntityMapping} {values : List Value}
    {identities : IdentityCache Nat} (room : identities.RoomFor keys)
    (known : ∀ key, identities.entries.lookup key = s.identities.entries.lookup key)
    (ho : o ∈ occurrences) (alike : o.Alike ⟨m, values, o.id⟩) :
    Tracks keys (occurrences ++ [⟨m, values, o.id⟩]) links ⟨s.store, identities⟩ where
  room := room
  known := fun key => by
    rw [known, h.known, List.find?_append]
    cases found : occurrences.find? (·.identity? = some key) with
    | some first => rfl
    | none =>
      have apart : ¬ o.identity? = some key := fun same =>
        List.find?_eq_none.1 found o ho (decide_eq_true same)
      rw [alike.2] at apart
      simp [apart]
  keyed := fun o' ho' => by
    rcases List.mem_append.1 ho' with ho' | ho'
    · exact h.keyed o' ho'
    · cases List.mem_singleton.1 ho'
      exact fun _ => alike.2 ▸ alike.1
  same := by
    refine List.pairwise_append.2 ⟨h.same, List.pairwise_singleton _ _, fun o' ho' new hn => ?_⟩
    cases List.mem_singleton.1 hn
    constructor
    · intro same
      have identities := h.identity_eq ho' ho same
      exact ⟨identities ▸ alike.1, identities.trans alike.2⟩
    · intro alike'
      change o'.id = o.id
      exact h.id_eq ho' ho ⟨alike'.1, alike'.2.trans alike.2.symm⟩
  content := fun id => by
    rw [h.content, List.find?_append]
    cases found : occurrences.find? (·.id = id) with
    | some first => rfl
    | none =>
      have apart : ¬ o.id = id := fun same =>
        List.find?_eq_none.1 found o ho (decide_eq_true same)
      simp [apart]
  valid := h.valid
  references := h.references
  collections := h.collections

/-- Two occurrences are linked. -/
lemma attach (h : Tracks keys occurrences links s) {owner item : Nat} (l : Link)
    (howner : owner < s.store.nextId) (hitem : item < s.store.nextId) :
    Tracks keys occurrences (links ++ [⟨owner, l.navigation, l.kind, item⟩])
      (s.attach owner l item) where
  room := h.room
  known := h.known
  keyed := h.keyed
  same := h.same
  content := fun id => by
    rw [RunState.attach, Store.content?_attach]
    exact h.content id
  valid := fun l' hl' => by
    rw [RunState.attach, Store.nextId_attach]
    rcases List.mem_append.1 hl' with hl' | hl'
    · exact h.valid l' hl'
    · cases List.mem_singleton.1 hl'
      exact ⟨howner, hitem⟩
  references := fun id navigation => by
    rw [RunState.attach, Store.reference?_attach howner, targets_concat]
    split
    · rw [List.getLast?_concat]
    · exact h.references id navigation
  collections := fun id navigation => by
    have same (offered) : (s.attach owner l item).store.gathered offered =
        s.store.gathered offered :=
      Store.gathered_congr fun offer _ => Store.content?_attach ..
    rw [same, RunState.attach, Store.collection?_attach howner, offers_concat]
    cases l.kind with
    | reference => exact h.collections id navigation
    | collection k =>
      dsimp only
      split
      · rw [Store.gathered_concat, h.collections]
      · exact h.collections id navigation

/-- A part that is resolved is one more occurrence. -/
lemma resolve (h : Tracks keys occurrences links s) {m : EntityMapping} {f : Fragment} {id : Nat}
    (hr : s.resolve m f = .ok (id, t))
    (hk : ∀ key, m.identity? f.values = some key → key ∈ keys) :
    Tracks keys (occurrences ++ [⟨m, f.values, id⟩]) links t := by
  unfold RunState.resolve at hr
  split at hr
  next keyless =>
    cases hr
    -- A type without a key makes an instance of every part.
    have none : m.identity? f.values = none := by
      rw [EntityMapping.identity?, EntityMapping.key?, if_pos keyless]
      rfl
    refine h.create h.room (fun keyed => ?_) (fun o _ keyed => ?_) fun key => ?_
    · rw [keyless] at keyed
      cases keyed
    · rw [none] at keyed
      cases keyed
    · rw [none, if_neg nofun]
  next keyed =>
    cases hkey : m.key? f.values with
    | none =>
      rw [hkey] at hr
      cases hr
    | some key =>
      rw [hkey] at hr
      have identity : m.identity? f.values = some ⟨m.entityType, key⟩ := by
        rw [EntityMapping.identity?, hkey]
        rfl
      dsimp only at hr
      cases hl : s.identities.entries.lookup ⟨m.entityType, key⟩ with
      -- The key occurred before, and the cache has evicted nothing, so that it finds the instance.
      | some a =>
        obtain ⟨next, found, room, known⟩ :=
          IdentityCache.getOrInsert_of_known h.room hl s.store.nextId
        rw [found] at hr
        cases hr
        rw [h.known] at hl
        obtain ⟨o, ho, rfl⟩ := Option.map_eq_some_iff.1 hl
        have same := List.find?_some ho
        rw [decide_eq_true_iff] at same
        refine h.again room known (List.mem_of_find?_eq_some ho) ⟨by rw [same]; rfl, ?_⟩
        exact same.trans identity.symm
      -- The key is new, and there is room for it among the keys of the run.
      | none =>
        obtain ⟨next, inserted, room, known⟩ :=
          IdentityCache.getOrInsert_of_unknown h.room (hk _ identity) hl s.store.nextId
        rw [inserted] at hr
        cases hr
        rw [h.known, Option.map_eq_none_iff, List.find?_eq_none] at hl
        refine h.create room (fun _ => by rw [identity]; rfl) (fun o ho _ same => ?_) fun k => ?_
        · exact hl o ho (decide_eq_true (same.trans identity))
        · rw [known, identity]
          exact if_congr (by rw [Option.some.injEq, eq_comm]) rfl rfl

/-- A part is reached when the part that it hangs off is an instance. -/
lemma isReached_map {e : PlannedEntity} {l : Link} (hl : e.link = some l)
    (before : List (Option Nat)) :
    e.isReached (before.map (·.isSome)) = ((before[l.parent]?).join).isSome := by
  rw [PlannedEntity.isReached, hl]
  dsimp only
  rw [List.getElem?_map]
  cases before[l.parent]? with
  | none => rfl
  | some id => rfl

/-- A part of a row that is resolved is an occurrence and a link, as far as it is present. -/
lemma resolvePart (h : Tracks keys occurrences links s) {e : PlannedEntity} {f : Fragment}
    {before : List (Option Nat)} {id : Option Nat}
    (hb : ∀ id, some id ∈ before → ∃ o ∈ occurrences, o.id = id)
    (hr : s.resolvePart e f before = .ok (id, t))
    (hk : e.isReached (before.map (·.isSome)) → f.isAllNull = false →
      ∀ key, e.mapping.identity? f.values = some key → key ∈ keys) :
    id.isSome = (e.isReached (before.map (·.isSome)) && !f.isAllNull) ∧
      Tracks keys (occurrences ++ (id.map (⟨e.mapping, f.values, ·⟩)).toList)
        (links ++ (linked? before e id).toList) t := by
  unfold RunState.resolvePart at hr
  cases hlink : e.link with
  | none =>
    rw [hlink] at hr
    dsimp only at hr
    split at hr
    next null =>
      cases hr
      simp [linked?, hlink, null, h]
    next present =>
      have present : f.isAllNull = false := by simpa using present
      have reached : e.isReached (before.map (·.isSome)) = true := by
        rw [PlannedEntity.isReached, hlink]
      obtain ⟨⟨i, u⟩, hi, hr⟩ := bind_eq_ok.1 hr
      cases hr
      have next := h.resolve hi (hk reached present)
      simpa [linked?, hlink, reached, present] using next
  | some l =>
    rw [hlink] at hr
    dsimp only at hr
    cases howner : (before[l.parent]?).join with
    | none =>
      rw [howner] at hr
      cases hr
      rw [isReached_map hlink, howner]
      simp [linked?, hlink, h]
    | some owner =>
      rw [howner] at hr
      dsimp only at hr
      split at hr
      next null =>
        cases hr
        simp [linked?, hlink, null, h]
      next present =>
        have present : f.isAllNull = false := by simpa using present
        have reached : e.isReached (before.map (·.isSome)) = true := by
          rw [isReached_map hlink, howner]
          rfl
        obtain ⟨⟨i, u⟩, hi, hr⟩ := bind_eq_ok.1 hr
        obtain ⟨v, hv, hr⟩ := bind_eq_ok.1 hr
        cases hr
        have next := h.resolve hi (hk reached present)
        -- The owner occurred in this row, so that both ends of the link are instances.
        obtain ⟨o, ho, rfl⟩ := hb owner (List.mem_of_getElem? (Option.join_eq_some_iff.1 howner))
        have valid : i < u.store.nextId := next.id_lt (o := ⟨e.mapping, f.values, i⟩) (by simp)
        have linked := next.attach l (next.id_lt (List.mem_append_left _ ho)) valid
        rw [← RunState.eq_attach_of_link valid hv] at linked
        simpa [linked?, hlink, howner, reached, present] using linked

end Tracks

end RelMap
