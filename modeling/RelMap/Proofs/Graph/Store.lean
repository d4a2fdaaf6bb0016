import RelMap.Graph.Store
import Mathlib.Tactic.Lemma

/-!
# What the operations on a store change

A new instance leaves the others as they are, and a link changes one navigation of one instance.
What an instance is, its type and its values, never changes. What a link makes of a store is stated
without the lock first; the lock decides whether it is made at all.
-/

namespace RelMap

/-- An instance that was linked to another one. -/
structure Linked where
  /-- The instance that it hangs off. -/
  owner : Nat
  /-- The navigation of that instance. -/
  navigation : String
  /-- How it hangs off that instance. -/
  kind : IncludeKind
  /-- The linked instance. -/
  item : Nat
  deriving DecidableEq

/-- The entry of a name that was put is found, and all others are found as before. -/
lemma lookup_putEntry {α : Type} (name other : String) (a : α) (entries : List (String × α)) :
    (putEntry name a entries).lookup other =
      if other = name then some a else entries.lookup other := by
  induction entries with
  | nil =>
    by_cases same : other = name
    · simp [putEntry, same]
    · simp [putEntry, same, List.lookup_cons, beq_eq_false_iff_ne.2 same]
  | cons entry rest ih =>
    obtain ⟨n, b⟩ := entry
    unfold putEntry
    split
    next found =>
      subst found
      by_cases same : other = n
      · simp [same]
      · simp [same, List.lookup_cons, beq_eq_false_iff_ne.2 same]
    next apart =>
      rw [List.lookup_cons, ih, List.lookup_cons]
      by_cases first : other = n
      · simp [first, apart]
      · rw [beq_eq_false_iff_ne.2 first]

namespace Store

variable {s : Store} {id owner item : Nat} {navigation name : String} {kind : IncludeKind}

/-- What an instance is: its type and its values. -/
def content? (s : Store) (id : Nat) : Option (EntityMapping × List Value) :=
  (s.get? id).map fun i => (i.mapping, i.values)

/-- The target of a reference of an instance. -/
def reference? (s : Store) (id : Nat) (navigation : String) : Option Nat :=
  (s.get? id).bind (·.reference? navigation)

/-- A collection of an instance. -/
def collection? (s : Store) (id : Nat) (navigation : String) : Option Members :=
  (s.get? id).bind (·.collection? navigation)

/-- Whether an item is not taken by a collection that holds another one already. -/
def repeats (s : Store) (kind : CollectionKind) (item other : Nat) : Bool :=
  match s.content? item with
  | none => true
  | some (mapping, values) =>
    if mapping.isKeyless then
      kind == .set && (s.content? other).any fun content => content.2 == values
    else item == other

/-- A collection after an item was offered to it. -/
def offered (s : Store) (m : Members) (item : Nat) : Members :=
  if m.items.any (s.repeats m.kind item) then m else { m with items := m.items ++ [item] }

/-- The store after an item was linked to its owner, if nothing has to be waited for. -/
def attach (s : Store) (owner : Nat) (navigation : String) (kind : IncludeKind) (item : Nat) :
    Store :=
  match kind with
  | .reference => s.setReference owner navigation item
  | .collection k =>
    let next := s.offered (s.membersFor owner navigation k) item
    s.change owner fun i => { i with collections := putEntry navigation next i.collections }

lemma isSome_content?_iff : (s.content? id).isSome ↔ id < s.nextId := by
  rw [content?, Option.isSome_map, get?, nextId]
  simp

lemma get?_add (s : Store) (i : Instance) (id : Nat) :
    (s.add i).get? id = if id = s.nextId then some i else s.get? id :=
  Array.getElem?_push

lemma get?_change (s : Store) (id other : Nat) (f : Instance → Instance) :
    (s.change id f).get? other = if id = other then (s.get? other).map f else s.get? other :=
  Array.getElem?_modify

/-- What the instances are after a new one. -/
lemma content?_add (s : Store) (i : Instance) (id : Nat) :
    (s.add i).content? id =
      if id = s.nextId then some (i.mapping, i.values) else s.content? id := by
  rw [content?, get?_add]
  split <;> rfl

/-- Links leave what the instances are. -/
@[simp] lemma content?_attach (s : Store) (owner : Nat) (navigation : String) (kind : IncludeKind)
    (item id : Nat) : (s.attach owner navigation kind item).content? id = s.content? id := by
  cases kind with
  | reference =>
    rw [content?, attach, setReference, get?_change]
    split
    · rw [Option.map_map]
      rfl
    · rfl
  | collection k =>
    rw [content?, attach, get?_change]
    split
    · rw [Option.map_map]
      rfl
    · rfl

@[simp] lemma nextId_attach (s : Store) (owner : Nat) (navigation : String) (kind : IncludeKind)
    (item : Nat) : (s.attach owner navigation kind item).nextId = s.nextId := by
  cases kind <;> exact Array.size_modify

@[simp] lemma nextId_add (s : Store) (i : Instance) : (s.add i).nextId = s.nextId + 1 :=
  Array.size_push _

/-- A new instance has no reference, and the others keep theirs. -/
lemma reference?_add (s : Store) (mapping : EntityMapping) (values : List Value) (id : Nat)
    (name : String) : (s.add { mapping, values }).reference? id name = s.reference? id name := by
  rw [reference?, get?_add]
  split
  next new =>
    have absent : s.get? id = none := by
      rw [new]
      exact Array.getElem?_size
    rw [reference?, absent]
    rfl
  next => rfl

/-- A new instance has no collection, and the others keep theirs. -/
lemma collection?_add (s : Store) (mapping : EntityMapping) (values : List Value) (id : Nat)
    (name : String) : (s.add { mapping, values }).collection? id name = s.collection? id name := by
  rw [collection?, get?_add]
  split
  next new =>
    have absent : s.get? id = none := by
      rw [new]
      exact Array.getElem?_size
    rw [collection?, absent]
    rfl
  next => rfl

/-- A link sets a reference of its owner to its item, and leaves all other references. -/
lemma reference?_attach (valid : owner < s.nextId) (id : Nat) (name : String) :
    (s.attach owner navigation kind item).reference? id name =
      if kind = .reference ∧ owner = id ∧ navigation = name then some item
      else s.reference? id name := by
  obtain ⟨i, hi⟩ := Option.isSome_iff_exists.1 (isSome_content?_iff.2 valid)
  obtain ⟨i, hi, _⟩ := Option.map_eq_some_iff.1 hi
  cases kind with
  | reference =>
    rw [reference?, attach, setReference, get?_change]
    by_cases same : owner = id
    · subst same
      simp only [reference?, hi, if_true, Option.map_some, Option.bind_some, Instance.reference?,
        lookup_putEntry, true_and]
      by_cases named : name = navigation
      · simp [named]
      · simp [named, Ne.symm named]
    · simp [same, reference?]
  | collection k =>
    rw [reference?, attach, get?_change]
    by_cases same : owner = id
    · subst same
      simp [reference?, hi, Instance.reference?]
    · simp [same, reference?]

/-- A link offers its item to a collection of its owner, and leaves all other collections. -/
lemma collection?_attach (valid : owner < s.nextId) (id : Nat) (name : String) :
    (s.attach owner navigation kind item).collection? id name =
      match kind with
      | .reference => s.collection? id name
      | .collection k =>
        if owner = id ∧ navigation = name then
          some (s.offered ((s.collection? id name).getD { kind := k }) item)
        else s.collection? id name := by
  obtain ⟨i, hi⟩ := Option.isSome_iff_exists.1 (isSome_content?_iff.2 valid)
  obtain ⟨i, hi, _⟩ := Option.map_eq_some_iff.1 hi
  cases kind with
  | reference =>
    rw [collection?, attach, setReference, get?_change]
    split
    next same =>
      subst same
      rw [collection?, hi]
      rfl
    next => rfl
  | collection k =>
    rw [collection?, attach, get?_change]
    by_cases same : owner = id
    · subst same
      simp only [collection?, hi, if_true, Option.map_some, Option.bind_some, Instance.collection?,
        lookup_putEntry, true_and]
      by_cases named : name = navigation
      · subst named
        rw [if_pos rfl, if_pos rfl, membersFor, hi]
        rfl
      · simp [named, Ne.symm named]
    · simp [same, collection?]

/-- A search that comes to an end has found out whether one of the instances has the values. -/
lemma eq_any_of_holdsValues {locked : Nat} {values : List Value} {ids : List Nat} {b : Bool}
    (h : s.holdsValues locked values ids = some b) :
    b = ids.any fun other => s.valuesOf other == some values := by
  induction ids with
  | nil => exact (Option.some.inj h).symm
  | cons other rest ih =>
    unfold holdsValues at h
    split at h
    next => cases h
    next =>
      rw [List.any_cons]
      split at h
      next same =>
        rw [same, Bool.true_or]
        exact (Option.some.inj h).symm
      next apart =>
        rw [Bool.eq_false_iff.2 apart, Bool.false_or]
        exact ih h

/-- A search that comes to no end has come to the locked instance. -/
lemma mem_of_holdsValues_eq_none {locked : Nat} {values : List Value} {ids : List Nat}
    (h : s.holdsValues locked values ids = none) : locked ∈ ids := by
  induction ids with
  | nil => cases h
  | cons other rest ih =>
    unfold holdsValues at h
    split at h
    next same => exact same ▸ List.mem_cons_self ..
    next =>
      split at h
      next => cases h
      next => exact List.mem_cons_of_mem other (ih h)

/-- A collection that can tell takes an item exactly when the item repeats none that it holds. -/
lemma eq_of_accepts {m : Members} {b : Bool} (valid : item < s.nextId)
    (h : s.accepts owner m item = some b) : b = !m.items.any (s.repeats m.kind item) := by
  obtain ⟨content, hc⟩ := Option.isSome_iff_exists.1 (isSome_content?_iff.2 valid)
  obtain ⟨i, hi, rfl⟩ := Option.map_eq_some_iff.1 hc
  unfold accepts at h
  unfold repeats
  rw [hi] at h
  rw [hc]
  dsimp only at h ⊢
  cases keyless : i.mapping.isKeyless with
  | false =>
    rw [keyless] at h
    rw [← Option.some.inj h, List.contains_eq_any_beq]
    rfl
  | true =>
    rw [keyless, Bool.not_true, if_neg Bool.false_ne_true] at h
    cases hk : m.kind with
    | list =>
      rw [hk] at h
      rw [← Option.some.inj h]
      simp
    | set =>
      rw [hk] at h
      dsimp only at h
      split at h
      next => cases h
      next =>
        obtain ⟨b', found, rfl⟩ := Option.map_eq_some_iff.1 h
        simp only [eq_any_of_holdsValues found, if_true, beq_self_eq_true, Bool.true_and]
        congr 2
        funext other
        rw [valuesOf, content?]
        cases s.get? other <;> rfl

/-- A link that is made makes of a store what it would without the lock. -/
lemma eq_attach_of_link {t : Store} (valid : item < s.nextId)
    (h : s.link owner navigation kind item = some t) : t = s.attach owner navigation kind item := by
  cases kind with
  | reference => exact (Option.some.inj h).symm
  | collection k =>
    simp only [link, addToCollection, Option.map_map, Option.map_eq_some_iff,
      Function.comp_apply] at h
    obtain ⟨taken, accepted, rfl⟩ := h
    rw [eq_of_accepts valid accepted, attach, offered]
    cases (s.membersFor owner navigation k).items.any
      (s.repeats (s.membersFor owner navigation k).kind item) <;> rfl

/--
A link that is not made waits for its owner: the item has no key and goes to a set, and is the owner
itself or meets it there.
-/
lemma waits_of_link (h : s.link owner navigation kind item = none) :
    ∃ k mapping values, kind = .collection k ∧ s.content? item = some (mapping, values) ∧
      mapping.isKeyless = true ∧ (s.membersFor owner navigation k).kind = .set ∧
      (item = owner ∨ owner ∈ (s.membersFor owner navigation k).items) := by
  cases kind with
  | reference => cases h
  | collection k =>
    simp only [link, addToCollection, Option.map_map, Option.map_eq_none_iff] at h
    unfold accepts at h
    cases hi : s.get? item with
    | none =>
      rw [hi] at h
      cases h
    | some i =>
      rw [hi] at h
      dsimp only at h
      cases keyless : i.mapping.isKeyless with
      | false =>
        rw [keyless] at h
        cases h
      | true =>
        rw [keyless, Bool.not_true, if_neg Bool.false_ne_true] at h
        refine ⟨k, i.mapping, i.values, rfl, by rw [content?, hi]; rfl, keyless, ?_⟩
        cases hk : (s.membersFor owner navigation k).kind with
        | list =>
          rw [hk] at h
          cases h
        | set =>
          rw [hk] at h
          dsimp only at h
          refine ⟨rfl, ?_⟩
          split at h
          next same => exact .inl same
          next => exact .inr (mem_of_holdsValues_eq_none (Option.map_eq_none_iff.1 h))

/-- An item with a key is linked without waiting for anything. -/
lemma link_of_keyed {mapping : EntityMapping} {values : List Value}
    (hc : s.content? item = some (mapping, values)) (keyed : mapping.isKeyless = false) :
    s.link owner navigation kind item = some (s.attach owner navigation kind item) := by
  cases hl : s.link owner navigation kind item with
  | some t =>
    have valid : item < s.nextId := isSome_content?_iff.1 (by rw [hc]; rfl)
    rw [eq_attach_of_link valid hl]
  | none =>
    obtain ⟨_, mapping', _, _, hc', keyless, _⟩ := waits_of_link hl
    cases hc.symm.trans hc'
    cases keyed.symm.trans keyless

end Store

end RelMap
