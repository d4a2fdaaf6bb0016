import RelMap.Proofs.Graph.Rows

/-!
# Runs over types with keys

What a run keeps true whatever its identity cache evicts, as long as all types have keys: the cache
knows instances by what they are, and a collection holds each of its items once. An evicted instance
may get a second one with the same type and key, so such instances have to be looked at together.
-/

namespace RelMap

namespace Store

variable {s t : Store} {i j : Nat} {k k' : IdentityKey} {navigation : String}

/-- The type and the key of an instance, if it has a key. -/
def identity? (s : Store) (id : Nat) : Option IdentityKey :=
  (s.content? id).bind fun content => content.1.identity? content.2

/-- Whether the instances of a store are in another one, each as what it is. -/
def Within (s t : Store) : Prop :=
  ∀ id content, s.content? id = some content → t.content? id = some content

/-- Whether no two instances have one type and key. -/
def Unique (s : Store) : Prop :=
  ∀ i j k, s.identity? i = some k → s.identity? j = some k → i = j

/-- The items in a collection of an instance; there are none where nothing was added to it. -/
def itemsOf (s : Store) (id : Nat) (navigation : String) : List Nat :=
  ((s.collection? id navigation).map (·.items)).getD []

/-- Whether an instance of one type and key holds one of another in a collection. -/
def Holds (s : Store) (owner : IdentityKey) (navigation : String) (item : IdentityKey) : Prop :=
  ∃ i j, s.identity? i = some owner ∧ j ∈ s.itemsOf i navigation ∧ s.identity? j = some item

/-- A store is within itself. -/
lemma Within.refl : s.Within s := fun _ _ h => h

/-- What is within a store is within all that hold that store. -/
lemma Within.trans {u : Store} (h : s.Within t) (h' : t.Within u) : s.Within u :=
  fun id content hc => h' id content (h id content hc)

/-- An instance keeps its identity when the store grows. -/
lemma Within.identity? (h : s.Within t) (hi : s.identity? i = some k) : t.identity? i = some k := by
  obtain ⟨content, hc, hk⟩ := Option.bind_eq_some_iff.1 hi
  rw [Store.identity?, h i content hc]
  exact hk

/-- An instance of a type and key has that key. -/
lemma key?_of_identity? (h : s.identity? i = some k) : s.key? i = some k.key := by
  obtain ⟨content, hc, hk⟩ := Option.bind_eq_some_iff.1 h
  obtain ⟨key, hkey, rfl⟩ := Option.map_eq_some_iff.1 hk
  rw [Store.key?, hc]
  exact hkey

/-- An instance keeps its key when the store grows. -/
lemma Within.key? (h : s.Within t) {key : List Value} (hi : s.key? i = some key) :
    t.key? i = some key := by
  obtain ⟨content, hc, hk⟩ := Option.bind_eq_some_iff.1 hi
  rw [Store.key?, h i content hc]
  exact hk

/-- Identities that are unique in a store are unique in all that are within it. -/
lemma Unique.of_within (h : t.Unique) (within : s.Within t) : s.Unique :=
  fun i j k hi hj => h i j k (within.identity? hi) (within.identity? hj)

/-- Only instances of the store have an identity. -/
lemma lt_of_identity? (h : s.identity? i = some k) : i < s.nextId := by
  obtain ⟨content, hc, -⟩ := Option.bind_eq_some_iff.1 h
  exact isSome_content?_iff.1 (by rw [hc]; rfl)

/-- Only instances of the store have items. -/
lemma lt_of_mem_itemsOf (h : j ∈ s.itemsOf i navigation) : i < s.nextId := by
  unfold itemsOf collection? at h
  refine isSome_content?_iff.1 ?_
  cases hi : s.get? i with
  | none =>
    rw [hi] at h
    cases h
  | some instance' =>
    rw [content?, hi]
    rfl

/-- A new instance has no items, and leaves those of others as they are. -/
lemma itemsOf_add {m : EntityMapping} {values : List Value} :
    (s.add { mapping := m, values }).itemsOf i navigation = s.itemsOf i navigation := by
  rw [itemsOf, collection?_add, itemsOf]

/-- A store grows when an instance is added. -/
lemma within_add {instance' : Instance} : s.Within (s.add instance') := by
  intro id content hc
  rw [content?_add, if_neg, hc]
  exact Nat.ne_of_lt (isSome_content?_iff.1 (by rw [hc]; rfl))

/-- Attaching keeps all identities. -/
lemma within_attach {owner item : Nat} {kind : IncludeKind} :
    s.Within (s.attach owner navigation kind item) := by
  intro id content hc
  rw [content?_attach, hc]

/-- Attaching changes no identity. -/
@[simp] lemma identity?_attach {owner item id : Nat} {kind : IncludeKind} :
    (s.attach owner navigation kind item).identity? id = s.identity? id := by
  rw [identity?, content?_attach, identity?]

/-- A new instance has the identity of its values. -/
lemma identity?_add_new {m : EntityMapping} {values : List Value} :
    (s.add { mapping := m, values }).identity? s.nextId = m.identity? values := by
  rw [identity?, content?_add, if_pos rfl]
  rfl

/-- Those before keep their identity when an instance is added. -/
lemma identity?_add_old {instance' : Instance} (h : i < s.nextId) :
    (s.add instance').identity? i = s.identity? i := by
  rw [identity?, content?_add, if_neg (Nat.ne_of_lt h), identity?]

/-- A second instance of a type and key is made where there is one. -/
lemma not_unique_of_new (old : s.identity? i = some k) (within : s.Within t)
    (new : t.identity? s.nextId = some k) : ¬t.Unique := fun unique =>
  Nat.ne_of_lt (lt_of_identity? old) (unique i s.nextId k (within.identity? old) new)

/-- An instance of a type and key is of a type with keys. -/
lemma exists_content_of_identity? (h : s.identity? i = some k) :
    ∃ mapping values, s.content? i = some (mapping, values) ∧ mapping.isKeyless = false := by
  obtain ⟨content, hc, hk⟩ := Option.bind_eq_some_iff.1 h
  refine ⟨content.1, content.2, hc, ?_⟩
  by_contra keyless
  rw [EntityMapping.identity?, EntityMapping.key?, if_pos (by simpa using keyless)] at hk
  cases hk

/-- Of an item with a key, a collection takes each instance once. -/
lemma items_offered {item : Nat} (keyed : s.identity? item = some k) (m : Members) :
    (s.offered m item).items = if item ∈ m.items then m.items else m.items ++ [item] := by
  obtain ⟨mapping, values, hc, notKeyless⟩ := exists_content_of_identity? keyed
  have repeated : m.items.any (s.repeats m.kind item) = m.items.contains item := by
    rw [List.contains_eq_any_beq]
    congr 1
    funext other
    rw [repeats, hc]
    dsimp only
    rw [notKeyless]
    rfl
  unfold offered
  rw [repeated]
  by_cases held : item ∈ m.items
  · rw [if_pos (List.contains_iff_mem.2 held), if_pos held]
  · rw [if_neg (fun found => held (List.contains_iff_mem.1 found)), if_neg held]

/-- A link to a collection adds its item there unless it is in, and changes nothing elsewhere. -/
lemma itemsOf_attach {owner item : Nat} {kind : IncludeKind} {name : String}
    (howner : owner < s.nextId) (keyed : s.identity? item = some k) :
    (s.attach owner navigation kind item).itemsOf i name =
      if kind ≠ .reference ∧ owner = i ∧ navigation = name ∧ item ∉ s.itemsOf i name then
        s.itemsOf i name ++ [item]
      else s.itemsOf i name := by
  unfold itemsOf
  rw [collection?_attach howner]
  cases kind with
  | reference => rw [if_neg fun h => h.1 rfl]
  | collection c =>
    dsimp only
    by_cases here : owner = i ∧ navigation = name
    · rw [if_pos here, Option.map_some, Option.getD_some, items_offered keyed]
      obtain ⟨rfl, rfl⟩ := here
      cases s.collection? owner navigation with
      | none => simp
      | some m => by_cases held : item ∈ m.items <;> simp [held]
    · rw [if_neg here, if_neg fun h => here ⟨h.2.1, h.2.2.1⟩]

/-- Attaching adds the item to one collection of one owner, and changes no other. -/
lemma mem_itemsOf_attach {owner item : Nat} {kind : IncludeKind} {name : String}
    (howner : owner < s.nextId) (keyed : s.identity? item = some k) :
    j ∈ (s.attach owner navigation kind item).itemsOf i name ↔
      j ∈ s.itemsOf i name ∨ kind ≠ .reference ∧ owner = i ∧ navigation = name ∧ j = item := by
  rw [itemsOf_attach howner keyed]
  split
  next taken =>
    rw [List.mem_append, List.mem_singleton]
    exact or_congr_right ⟨fun h => ⟨taken.1, taken.2.1, taken.2.2.1, h⟩, fun h => h.2.2.2⟩
  next refused =>
    refine ⟨.inl, fun h => h.elim id ?_⟩
    rintro ⟨collection, here, named, rfl⟩
    exact Decidable.not_not.1 fun absent => refused ⟨collection, here, named, absent⟩

end Store

/-- Whether the identity cache knows instances by what they are. -/
def RunState.Cached (s : RunState) : Prop :=
  ∀ entry ∈ s.identities.entries, s.store.identity? entry.2 = some entry.1

/--
What holds in a run of types with keys, whatever was evicted: the cache knows instances by what they
are, and what is in a collection has a key and is in it once.
-/
structure RunState.Keyed (s : RunState) : Prop where
  cached : ∀ entry ∈ s.identities.entries, s.store.identity? entry.2 = some entry.1
  items : ∀ id navigation, (s.store.itemsOf id navigation).Nodup ∧
    ∀ item ∈ s.store.itemsOf id navigation, ∃ k, s.store.identity? item = some k

namespace RunState

variable {s t : RunState} {m : EntityMapping} {f : Fragment} {id : Nat} {k : IdentityKey}

/-- Nothing is cached when a run begins. -/
lemma Keyed.start {sizing : IdentitySizing} : Keyed { identities := .empty sizing } where
  cached := nofun
  items := fun _ _ => ⟨List.nodup_nil, nofun⟩

/-- Without second instances, no two items of a collection are of one type and key. -/
lemma Keyed.nodup_map_identity? (h : s.Keyed) (unique : s.store.Unique) (navigation : String) :
    ((s.store.itemsOf id navigation).map s.store.identity?).Nodup := by
  obtain ⟨nodup, items⟩ := h.items id navigation
  refine nodup.map_on fun i hi j hj same => ?_
  obtain ⟨k, hk⟩ := items i hi
  exact unique i j k hk (same ▸ hk)

/-- Resolving a part with a key finds an instance of it or makes one. -/
lemma resolve_cases (keyed : m.isKeyless = false) (hr : s.resolve m f = .ok (id, t)) :
    ∃ k, m.identity? f.values = some k ∧
      (∀ entry ∈ t.identities.entries, entry ∈ s.identities.entries ∨ entry = (k, id)) ∧
      (t.store = s.store ∧ (k, id) ∈ s.identities.entries ∨
        t.store = s.store.add { mapping := m, values := f.values } ∧ id = s.store.nextId) := by
  unfold resolve at hr
  rw [if_neg (by rw [keyed]; exact Bool.false_ne_true)] at hr
  cases hkey : m.key? f.values with
  | none =>
    rw [hkey] at hr
    cases hr
  | some key =>
    rw [hkey] at hr
    obtain ⟨a, isNew, next, given, which, learnt⟩ :=
      s.identities.getOrInsert_cases ⟨m.entityType, key⟩ s.store.nextId
    dsimp only at hr
    rw [given] at hr
    cases hr
    refine ⟨⟨m.entityType, key⟩, by rw [EntityMapping.identity?, hkey]; rfl, learnt, ?_⟩
    obtain ⟨rfl, rfl⟩ | ⟨rfl, known⟩ := which
    · exact .inr ⟨rfl, rfl⟩
    · exact .inl ⟨rfl, known⟩

/-- Resolving a part with a key gives an instance of its key, and the cache stays right. -/
lemma Cached.resolve (h : s.Cached) (keyed : m.isKeyless = false)
    (hr : s.resolve m f = .ok (id, t)) :
    ∃ k, m.identity? f.values = some k ∧ t.Cached ∧ s.store.Within t.store ∧
      t.store.identity? id = some k := by
  obtain ⟨k, hk, learnt, which⟩ := resolve_cases keyed hr
  have found : s.store.Within t.store ∧ t.store.identity? id = some k := by
    obtain ⟨same, known⟩ | ⟨added, rfl⟩ := which
    · rw [same]
      exact ⟨.refl, h _ known⟩
    · rw [added]
      exact ⟨Store.within_add, by rw [Store.identity?_add_new, hk]⟩
  refine ⟨k, hk, fun entry he => ?_, found⟩
  rcases learnt entry he with old | rfl
  · exact found.1.identity? (h entry old)
  · exact found.2

/-- Whether a part with a key is resolved does not depend on the state. -/
lemma exists_resolve_of_identity (keyed : m.isKeyless = false)
    (h : m.identity? f.values = some k) (s : RunState) : ∃ id t, s.resolve m f = .ok (id, t) := by
  obtain ⟨key, hk, -⟩ := Option.map_eq_some_iff.1 h
  unfold resolve
  rw [if_neg (by rw [keyed]; exact Bool.false_ne_true), hk]
  exact ⟨_, _, rfl⟩

/-- A new instance holds nothing and is held by none. -/
lemma Keyed.holds_add (h : s.Keyed) {values : List Value} {owner item : IdentityKey}
    {navigation : String} :
    (s.store.add { mapping := m, values }).Holds owner navigation item ↔
      s.store.Holds owner navigation item := by
  refine exists_congr fun i => exists_congr fun j => ?_
  rw [Store.itemsOf_add]
  constructor
  · rintro ⟨howner, hj, hitem⟩
    obtain ⟨k, hk⟩ := (h.items i navigation).2 j hj
    rw [Store.identity?_add_old (Store.lt_of_mem_itemsOf hj)] at howner
    rw [Store.identity?_add_old (Store.lt_of_identity? hk)] at hitem
    exact ⟨howner, hj, hitem⟩
  · rintro ⟨howner, hj, hitem⟩
    exact ⟨Store.within_add.identity? howner, hj, Store.within_add.identity? hitem⟩

/-- What a step does that resolves a part of some type and key. -/
structure Resolves (s t : RunState) (k : IdentityKey) (id : Nat) : Prop where
  keyed : t.Keyed
  within : s.store.Within t.store
  identity : t.store.identity? id = some k
  holds : ∀ owner navigation item,
    t.store.Holds owner navigation item ↔ s.store.Holds owner navigation item

/-- A fragment with a key is resolved to an instance of its identity. -/
lemma Keyed.resolve (h : s.Keyed) (keyed : m.isKeyless = false)
    (hr : s.resolve m f = .ok (id, t)) :
    ∃ k, m.identity? f.values = some k ∧ Resolves s t k id := by
  obtain ⟨k, hk, cached, within, identity⟩ := Cached.resolve h.cached keyed hr
  obtain ⟨_, _, _, ⟨same, _⟩ | ⟨added, _⟩⟩ := resolve_cases keyed hr
  -- The store stays as it is.
  · refine ⟨k, hk, ⟨cached, ?_⟩, within, identity, fun _ _ _ => by rw [same]⟩
    rw [same]
    exact h.items
  -- One more instance, which is in no collection.
  · refine ⟨k, hk, ⟨cached, fun i navigation => ?_⟩, within, identity,
      fun _ _ _ => by rw [added]; exact h.holds_add⟩
    obtain ⟨nodup, items⟩ := h.items i navigation
    rw [added, Store.itemsOf_add, ← added]
    refine ⟨nodup, fun item hitem => ?_⟩
    obtain ⟨k', hk'⟩ := items item hitem
    exact ⟨k', within.identity? hk'⟩

section
variable {owner item : Nat} {l : Link} {kowner kitem : IdentityKey}

/-- After a link an instance holds what it held, and the item that it was linked to. -/
lemma holds_attach (howner : s.store.identity? owner = some kowner)
    (hitem : s.store.identity? item = some kitem) {k k' : IdentityKey} {navigation : String} :
    (s.attach owner l item).store.Holds k navigation k' ↔
      s.store.Holds k navigation k' ∨
        l.kind ≠ .reference ∧ k = kowner ∧ l.navigation = navigation ∧ k' = kitem := by
  unfold Store.Holds RunState.attach
  simp only [Store.identity?_attach,
    Store.mem_itemsOf_attach (Store.lt_of_identity? howner) hitem]
  constructor
  · rintro ⟨i, j, hi, hj | ⟨collection, rfl, named, rfl⟩, hk'⟩
    · exact .inl ⟨i, j, hi, hj, hk'⟩
    · exact .inr ⟨collection, Option.some.inj (hi.symm.trans howner), named,
        Option.some.inj (hk'.symm.trans hitem)⟩
  · rintro (⟨i, j, hi, hj, hk'⟩ | ⟨collection, rfl, named, rfl⟩)
    · exact ⟨i, j, hi, .inl hj, hk'⟩
    · exact ⟨owner, item, howner, .inr ⟨collection, rfl, named, rfl⟩, hitem⟩

/-- An instance with a key is linked without waiting for anything. -/
lemma link_of_keyed (hitem : s.store.identity? item = some kitem) :
    s.link owner l item = .ok (s.attach owner l item) := by
  obtain ⟨mapping, values, hc, keyed⟩ := Store.exists_content_of_identity? hitem
  rw [link, Store.link_of_keyed hc keyed]
  rfl

/-- Attaching keeps what is cached true. -/
lemma Keyed.attach (h : s.Keyed) (howner : s.store.identity? owner = some kowner)
    (hitem : s.store.identity? item = some kitem) : (s.attach owner l item).Keyed where
  cached entry he := Store.identity?_attach.trans (h.cached entry he)
  items id navigation := by
    obtain ⟨nodup, items⟩ := h.items id navigation
    unfold RunState.attach
    simp only [Store.identity?_attach, Store.itemsOf_attach (Store.lt_of_identity? howner) hitem]
    split
    next taken =>
      refine ⟨List.nodup_append.2 ⟨nodup, List.nodup_singleton _, ?_⟩, fun j hj => ?_⟩
      · rintro j hj j' hj' rfl
        exact taken.2.2.2 (List.mem_singleton.1 hj' ▸ hj)
      · rcases List.mem_append.1 hj with hj | hj
        · exact items j hj
        · exact ⟨kitem, List.mem_singleton.1 hj ▸ hitem⟩
    next => exact ⟨nodup, items⟩

end

end RunState

end RelMap
