import RelMap.Proofs.Graph.Keyed
import RelMap.Proofs.Include.Tree

/-!
# Runs that wait for themselves

A run locks an instance while it adds an item to a set of it, and an item without a key is compared
with what is in the set. So the run waits without end when the instance is in its own set. It takes
a navigation that leads from a type both back to that type and to one without keys, which no
navigation of a mapping does.
-/

namespace RelMap

namespace Plan

/-- The collection that instances of a planned type go to: the type of its owner, and its name. -/
def collection? (p : Plan) (e : PlannedEntity) : Option (String × String) :=
  match e.link with
  | some ⟨parent, navigation, .collection _⟩ =>
    (p.entities[parent]?).map fun owner => (owner.mapping.entityType, navigation)
  | _ => none

/--
Whether instances of a type with keys go to a collection of that type, which may be a set, while
instances of a type without keys go there too.
-/
def Mixes (p : Plan) : Prop :=
  ∃ back ∈ p.entities, ∃ keyless ∈ p.entities, ∃ put ∈ p.entities,
    back.mapping.isKeyless = false ∧ keyless.mapping.isKeyless = true ∧
    put.link.map (·.kind) = some (.collection .set) ∧
    (p.collection? back).map (·.1) = some back.mapping.entityType ∧
    p.collection? keyless = p.collection? back ∧ p.collection? put = p.collection? back

instance (p : Plan) : Decidable p.Mixes :=
  inferInstanceAs (Decidable (∃ back ∈ p.entities, ∃ keyless ∈ p.entities, ∃ put ∈ p.entities, _))

variable {p : Plan} {e parent : PlannedEntity} {l : Link} {k : CollectionKind}

lemma collection?_eq (hl : e.link = some l) (hp : p.entities[l.parent]? = some parent)
    (hk : l.kind = .collection k) :
    p.collection? e = some (parent.mapping.entityType, l.navigation) := by
  obtain ⟨place, navigation, kind⟩ := l
  cases hk
  rw [collection?, hl]
  dsimp only at hp ⊢
  rw [hp]
  rfl

/-- What goes to a collection hangs off its owner by the navigation of its name. -/
lemma of_collection? {type navigation : String} (h : p.collection? e = some (type, navigation)) :
    ∃ l parent, e.link = some l ∧ p.entities[l.parent]? = some parent ∧
      parent.mapping.entityType = type ∧ l.navigation = navigation := by
  unfold collection? at h
  split at h
  next place name k hl =>
    obtain ⟨parent, hp, same⟩ := Option.map_eq_some_iff.1 h
    cases same
    exact ⟨_, parent, hl, hp, rfl, rfl⟩
  next => cases h

/-- All that goes to one collection is of one type if it follows the navigations of a registry. -/
lemma not_mixes_of_follows {r : Registry} (h : PlanDraft.Follows r ⟨p.entities, p.joins⟩) :
    ¬p.Mixes := by
  rintro ⟨back, hback, keyless, hkeyless, put, -, isKeyed, isKeyless, -, collection, same, -⟩
  obtain ⟨⟨type, navigation⟩, hc, -⟩ := Option.map_eq_some_iff.1 collection
  rw [hc] at same
  obtain ⟨l, parent, hl, hp, rfl, rfl⟩ := of_collection? hc
  obtain ⟨l', parent', hl', hp', type, named⟩ := of_collection? same
  obtain ⟨q, n, fol⟩ := h.linked back hback l hl
  obtain ⟨q', n', fol'⟩ := h.linked keyless hkeyless l' hl'
  cases hp.symm.trans fol.planned
  cases hp'.symm.trans fol'.planned
  -- Their owners are of one type, and a type has one mapping and one navigation of a name.
  have owners : parent'.mapping = parent.mapping := by
    have first := h.mapped parent' (List.mem_of_getElem? hp')
    rw [type, h.mapped parent (List.mem_of_getElem? hp)] at first
    exact (Except.ok.inj first).symm
  have one := fol'.navigation
  rw [owners, named, fol.navigation] at one
  cases one
  have types := Except.ok.inj (fol.related.symm.trans fol'.related)
  rw [types, isKeyless] at isKeyed
  cases isKeyed

end Plan

namespace Store

variable {s t : Store} {owner item i j : Nat} {navigation name : String} {kind : IncludeKind}
variable {m : EntityMapping} {f : Fragment}

/-- Whether an instance is of the type of a part, with the key that the part has. -/
structure Bears (s : Store) (m : EntityMapping) (f : Fragment) (id : Nat) : Prop where
  valid : id < s.nextId
  identity : s.identity? id = m.identity? f.values
  keyed : m.isKeyless = false → (m.identity? f.values).isSome

lemma Within.valid (h : s.Within t) (hi : i < s.nextId) : i < t.nextId := by
  obtain ⟨content, hc⟩ := Option.isSome_iff_exists.1 (isSome_content?_iff.2 hi)
  exact isSome_content?_iff.1 (by rw [h i content hc]; rfl)

lemma Bears.mono (h : s.Bears m f i) (within : s.Within t) : t.Bears m f i where
  valid := within.valid h.valid
  identity := by
    obtain ⟨content, hc⟩ := Option.isSome_iff_exists.1 (isSome_content?_iff.2 h.valid)
    rw [← h.identity, identity?, identity?, hc, within i content hc]
  keyed := h.keyed

/-- An instance of a type with keys has the type and the key of its part. -/
lemma Bears.exists_identity? (h : s.Bears m f i) (keyed : m.isKeyless = false) :
    ∃ key, m.key? f.values = some key ∧ s.identity? i = some ⟨m.entityType, key⟩ := by
  obtain ⟨k, hk⟩ := Option.isSome_iff_exists.1 (h.keyed keyed)
  have identity := h.identity
  rw [hk] at identity
  obtain ⟨key, hkey, rfl⟩ := Option.map_eq_some_iff.1 hk
  exact ⟨key, hkey, identity⟩

/-- An instance with a key is of a type with keys, and of the type of each part that it bears. -/
lemma Bears.of_identity? (h : s.Bears m f i) {k : IdentityKey} (hk : s.identity? i = some k) :
    m.isKeyless = false ∧ m.entityType = k.entity := by
  rw [h.identity] at hk
  obtain ⟨key, hkey, rfl⟩ := Option.map_eq_some_iff.1 hk
  refine ⟨?_, rfl⟩
  unfold EntityMapping.key? at hkey
  split at hkey
  next => cases hkey
  next keyed => simpa using keyed

/-- After a link, a collection holds what it held, or what was linked. -/
lemma mem_itemsOf_of_attach (howner : owner < s.nextId)
    (h : j ∈ (s.attach owner navigation kind item).itemsOf i name) :
    j ∈ s.itemsOf i name ∨
      (∃ k, kind = .collection k) ∧ owner = i ∧ navigation = name ∧ j = item := by
  unfold itemsOf at h ⊢
  rw [collection?_attach howner] at h
  cases kind with
  | reference => exact .inl h
  | collection k =>
    dsimp only at h
    split at h
    next here =>
      rw [Option.map_some, Option.getD_some, offered] at h
      have old (hj : j ∈ ((s.collection? i name).getD { kind := k }).items) :
          j ∈ ((s.collection? i name).map (·.items)).getD [] := by
        cases hc : s.collection? i name with
        | none =>
          rw [hc] at hj
          cases hj
        | some m =>
          rw [hc] at hj
          exact hj
      split at h
      · exact .inl (old h)
      · rcases List.mem_append.1 h with hj | hj
        · exact .inl (old hj)
        · exact .inr ⟨⟨k, rfl⟩, here.1, here.2, List.mem_singleton.1 hj⟩
    next => exact .inl h

/-- After a link, a collection is of the kind that it was of, or that the link asks for. -/
lemma kind_of_attach (howner : owner < s.nextId) {m : Members}
    (h : (s.attach owner navigation kind item).collection? i name = some m) :
    (∃ m', s.collection? i name = some m' ∧ m'.kind = m.kind) ∨
      kind = .collection m.kind ∧ owner = i ∧ navigation = name := by
  rw [collection?_attach howner] at h
  cases kind with
  | reference => exact .inl ⟨m, h, rfl⟩
  | collection k =>
    dsimp only at h
    split at h
    next here =>
      cases h
      have same (old : Members) : (s.offered old item).kind = old.kind := by
        unfold offered
        split <;> rfl
      rw [same]
      cases hc : s.collection? i name with
      | some m' => exact .inl ⟨m', rfl, rfl⟩
      | none => exact .inr ⟨rfl, here⟩
    next => exact .inl ⟨m, h, rfl⟩

/-- A collection in which a link finds something is there. -/
lemma exists_of_mem_membersFor {k : CollectionKind}
    (h : j ∈ (s.membersFor owner navigation k).items) :
    ∃ m, s.collection? owner navigation = some m ∧ s.membersFor owner navigation k = m := by
  unfold membersFor at h ⊢
  unfold collection?
  cases hm : (s.get? owner).bind (·.collection? navigation) with
  | none =>
    rw [hm] at h
    cases h
  | some m => exact ⟨m, rfl, rfl⟩

lemma lt_of_collection? {m : Members} (h : s.collection? i name = some m) : i < s.nextId := by
  obtain ⟨instance', hi, -⟩ := Option.bind_eq_some_iff.1 h
  exact isSome_content?_iff.1 (by rw [content?, hi]; rfl)

end Store

namespace RunState

/-- How a run of a plan is left when it waits for an instance. -/
structure WaitsFor (p : Plan) (owner : Nat) (s : RunState) : Prop where
  /-- The instance is in a set of its own. -/
  looped : ∃ navigation m, s.store.collection? owner navigation = some m ∧ m.kind = .set ∧
    owner ∈ m.items
  mixes : p.Mixes

/--
What a run keeps true of the collections that a plan fills: their kinds, and the instances that are
in a collection of their own.
-/
structure Filled (p : Plan) (s : RunState) : Prop where
  /-- The cache knows the instances by what they are. -/
  cached : s.Cached
  /-- A collection is of the kind of some type that goes there. -/
  kinds : ∀ id navigation m k, s.store.collection? id navigation = some m →
    s.store.identity? id = some k → ∃ e ∈ p.entities,
      e.link.map (·.kind) = some (.collection m.kind) ∧
      p.collection? e = some (k.entity, navigation)
  /-- An instance in a collection of its own is of a type with keys that goes there. -/
  loops : ∀ id navigation, id ∈ s.store.itemsOf id navigation → ∃ k, ∃ e ∈ p.entities,
    s.store.identity? id = some k ∧ e.mapping.isKeyless = false ∧
    e.mapping.entityType = k.entity ∧ p.collection? e = some (k.entity, navigation)

namespace Filled

variable {p : Plan} {s t : RunState} {m : EntityMapping} {f : Fragment} {id : Nat}

lemma start {sizing : IdentitySizing} : Filled p { identities := .empty sizing } where
  cached := nofun
  kinds := nofun
  loops := nofun

/-- A new instance is in no collection, and has none. -/
lemma add (h : s.Filled p) {values : List Value} {identities : IdentityCache Nat}
    (cached : Cached ⟨s.store.add { mapping := m, values }, identities⟩) :
    Filled p ⟨s.store.add { mapping := m, values }, identities⟩ where
  cached := cached
  kinds := fun id navigation members k hc hk => by
    rw [Store.collection?_add] at hc
    rw [Store.identity?_add_old (Store.lt_of_collection? hc)] at hk
    exact h.kinds id navigation members k hc hk
  loops := fun id navigation hid => by
    rw [Store.itemsOf_add] at hid
    obtain ⟨k, e, he, hk, rest⟩ := h.loops id navigation hid
    exact ⟨k, e, he, Store.within_add.identity? hk, rest⟩

/-- A part that is resolved is an instance of its type and key; without a key it is a new one. -/
lemma resolve (h : s.Filled p) (hr : s.resolve m f = .ok (id, t)) :
    t.Filled p ∧ s.store.Within t.store ∧ t.store.Bears m f id ∧
      (m.isKeyless = true → id = s.store.nextId) := by
  cases keyless : m.isKeyless with
  | true =>
    unfold RunState.resolve at hr
    rw [if_pos keyless] at hr
    cases hr
    have none : m.identity? f.values = none := by
      rw [EntityMapping.identity?, EntityMapping.key?, if_pos keyless]
      rfl
    refine ⟨h.add fun entry he => Store.within_add.identity? (h.cached entry he),
      Store.within_add, ⟨?_, Store.identity?_add_new, ?_⟩, fun _ => rfl⟩
    · rw [Store.nextId_add]
      exact Nat.lt_succ_self _
    · intro keyed
      cases keyless.symm.trans keyed
  | false =>
    obtain ⟨k, hk, cached, within, identity⟩ := h.cached.resolve keyless hr
    refine ⟨?_, within, ⟨Store.lt_of_identity? identity, identity.trans hk.symm,
      fun _ => by rw [hk]; rfl⟩, fun no => absurd no Bool.false_ne_true⟩
    obtain ⟨_, _, _, ⟨same, _⟩ | ⟨added, _⟩⟩ := resolve_cases keyless hr
    · obtain ⟨store, identities⟩ := t
      cases same
      exact ⟨cached, h.kinds, h.loops⟩
    · obtain ⟨store, identities⟩ := t
      cases added
      exact h.add cached

section
variable {e parent : PlannedEntity} {l : Link} {f' : Fragment} {owner item : Nat}

/-- A link that is made fills a collection as the plan says. -/
lemma attach (h : s.Filled p) (he : e ∈ p.entities) (hl : e.link = some l)
    (hp : p.entities[l.parent]? = some parent) (howner : s.store.Bears parent.mapping f' owner)
    (hitem : s.store.Bears e.mapping f item)
    (apart : e.mapping.isKeyless = true → item ≠ owner) : (s.attach owner l item).Filled p where
  cached := fun entry hentry => Store.identity?_attach.trans (h.cached entry hentry)
  kinds := fun id navigation members k hc hk => by
    unfold RunState.attach at hc hk
    rw [Store.identity?_attach] at hk
    obtain ⟨old, hold, same⟩ | ⟨kind, rfl, rfl⟩ := Store.kind_of_attach howner.valid hc
    · rw [← same]
      exact h.kinds id navigation old k hold hk
    · refine ⟨e, he, by rw [hl, Option.map_some, kind], ?_⟩
      rw [Plan.collection?_eq hl hp kind, (howner.of_identity? hk).2]
  loops := fun id navigation hid => by
    unfold RunState.attach at hid ⊢
    simp only [Store.identity?_attach]
    obtain hid | ⟨⟨k, kind⟩, rfl, rfl, same⟩ := Store.mem_itemsOf_of_attach howner.valid hid
    · exact h.loops id navigation hid
    -- Only an instance with a key can be linked to itself, as one without is new in each part.
    · have keyed : e.mapping.isKeyless = false := Bool.eq_false_iff.2 fun keyless =>
        apart keyless same.symm
      obtain ⟨key, -, identity⟩ := hitem.exists_identity? keyed
      rw [← same] at identity
      refine ⟨_, e, he, identity, keyed, rfl, ?_⟩
      rw [Plan.collection?_eq hl hp kind, (howner.of_identity? identity).2]

/-- A link waits for an owner in its own set only if the plan mixes what goes to the set. -/
lemma waitsFor_of_link (h : s.Filled p) (he : e ∈ p.entities) (hl : e.link = some l)
    (hp : p.entities[l.parent]? = some parent) (howner : s.store.Bears parent.mapping f' owner)
    (hitem : s.store.Bears e.mapping f item)
    (apart : e.mapping.isKeyless = true → item ≠ owner)
    (waits : s.store.link owner l.navigation l.kind item = none) : s.WaitsFor p owner := by
  obtain ⟨k, mapping, values, kind, hc, isKeyless, set, held⟩ := Store.waits_of_link waits
  have keyless : e.mapping.isKeyless = true := by
    rw [← Bool.not_eq_false]
    intro keyed
    obtain ⟨key, -, identity⟩ := hitem.exists_identity? keyed
    obtain ⟨_, _, hc', keyed'⟩ := Store.exists_content_of_identity? identity
    cases hc.symm.trans hc'
    cases isKeyless.symm.trans keyed'
  have held := held.resolve_left (apart keyless)
  obtain ⟨m, hm, same⟩ := Store.exists_of_mem_membersFor held
  rw [same] at set held
  have listed : owner ∈ s.store.itemsOf owner l.navigation := by
    rw [Store.itemsOf, hm]
    exact held
  obtain ⟨key, back, hback, identity, keyed, type, collection⟩ := h.loops owner l.navigation listed
  obtain ⟨put, hput, putKind, putCollection⟩ := h.kinds owner l.navigation m key hm identity
  have owned : p.collection? e = some (key.entity, l.navigation) := by
    rw [Plan.collection?_eq hl hp kind, (howner.of_identity? identity).2]
  refine ⟨⟨l.navigation, m, hm, set, held⟩,
    ⟨back, hback, e, he, put, hput, keyed, keyless, set ▸ putKind, ?_, ?_, ?_⟩⟩
  · rw [collection, type]
    rfl
  · rw [owned, collection]
  · rw [putCollection, collection]

end

end Filled

end RunState

end RelMap
