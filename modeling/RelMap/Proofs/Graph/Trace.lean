import RelMap.Graph.IdentityCache
import RelMap.Include.Row
import RelMap.Proofs.Graph.Store
import RelMap.Proofs.Lists
import Mathlib.Data.List.Pairwise

/-!
# What rows say about instances

The parts of the rows that become instances, in the order in which a run comes to them, and what the
references and collections of the instances are after a list of links.
-/

namespace RelMap

/-- A part of a row that became an instance. -/
structure Occurrence where
  /-- The mapping of its type. -/
  mapping : EntityMapping
  /-- Its values, in slot order. -/
  values : List Value
  /-- The instance. -/
  id : Nat

/-- The type and the key of some values, if the type has a key and no part of it is null. -/
def EntityMapping.identity? (m : EntityMapping) (values : List Value) : Option IdentityKey :=
  (m.key? values).map (⟨m.entityType, ·⟩)

/-- The type and the key of an occurrence, if it has a key. -/
def Occurrence.identity? (o : Occurrence) : Option IdentityKey := o.mapping.identity? o.values

/-- Whether two occurrences are of one type and key. -/
def Occurrence.Alike (o o' : Occurrence) : Prop :=
  o.identity?.isSome ∧ o.identity? = o'.identity?

/-- Whether a part hangs off nothing or off a part that became an instance. -/
def PlannedEntity.isReached (e : PlannedEntity) (before : List Bool) : Bool :=
  match e.link with
  | none => true
  | some l => (before[l.parent]?).getD false

/-- The parts of a row that become instances, given which of those before them do. -/
def presentParts (before : List Bool) :
    List (PlannedEntity × Fragment) → List (PlannedEntity × Fragment)
  | [] => []
  | (e, f) :: rest =>
    if e.isReached before && !f.isAllNull then (e, f) :: presentParts (before ++ [true]) rest
    else presentParts (before ++ [false]) rest

/-- Parts that become instances are parts of the row that are not all null. -/
lemma of_mem_presentParts {before : List Bool} {parts : List (PlannedEntity × Fragment)}
    {part : PlannedEntity × Fragment} (h : part ∈ presentParts before parts) :
    part ∈ parts ∧ part.2.isAllNull = false := by
  induction parts generalizing before with
  | nil => cases h
  | cons first rest ih =>
    unfold presentParts at h
    split at h
    next here =>
      rcases List.mem_cons.1 h with rfl | h
      · rw [Bool.and_eq_true, Bool.not_eq_true'] at here
        exact ⟨List.mem_cons_self .., here.2⟩
      · exact (ih h).imp_left (List.mem_cons_of_mem _)
    next => exact (ih h).imp_left (List.mem_cons_of_mem _)

/-- The types and keys in the parts of a row that become instances. -/
def identitiesOf (parts : List (PlannedEntity × Fragment)) : List IdentityKey :=
  (presentParts [] parts).filterMap fun (e, f) => e.mapping.identity? f.values

/-- The occurrences in a row, given the instances of its parts. -/
def occurrencesOf (parts : List (PlannedEntity × Fragment)) (resolved : List (Option Nat)) :
    List Occurrence :=
  (parts.zip resolved).filterMap fun ((e, f), id) => id.map (⟨e.mapping, f.values, ·⟩)

/-- The link of a part to the instance that it hangs off, given the instances of all parts. -/
def linked? (resolved : List (Option Nat)) (e : PlannedEntity) (id : Option Nat) :
    Option Linked := do
  let l ← e.link
  let item ← id
  let owner ← (resolved[l.parent]?).join
  return ⟨owner, l.navigation, l.kind, item⟩

/-- The links that a row asks for, given the instances of its parts. -/
def linksOf (parts : List (PlannedEntity × Fragment)) (resolved : List (Option Nat)) :
    List Linked :=
  (parts.zip resolved).filterMap fun ((e, _), id) => linked? resolved e id

/-- Every part of a row hangs off one before it. -/
def Nested (parts : List (PlannedEntity × Fragment)) : Prop :=
  ∀ (i : Nat) (e : PlannedEntity) (f : Fragment) (l : Link),
    parts[i]? = some (e, f) → e.link = some l → l.parent < i

/-- The parts that are instances are those that are not all null and hang off an instance. -/
def ResolvesPresent (parts : List (PlannedEntity × Fragment)) (resolved : List (Option Nat)) :
    Prop :=
  resolved.length = parts.length ∧
    ∀ (i : Nat) (e : PlannedEntity) (f : Fragment), parts[i]? = some (e, f) →
      ((resolved[i]?).join.isSome ↔
        f.isAllNull = false ∧ ∀ l, e.link = some l → (resolved[l.parent]?).join.isSome)

/-- The instances that were linked to a reference of an instance. -/
def targets (links : List Linked) (owner : Nat) (navigation : String) : List Nat :=
  links.filterMap fun l =>
    if l.kind = .reference ∧ l.owner = owner ∧ l.navigation = navigation then some l.item else none

/-- The instances that were linked to a collection of an instance, and the kinds asked for. -/
def offers (links : List Linked) (owner : Nat) (navigation : String) :
    List (CollectionKind × Nat) :=
  links.filterMap fun l =>
    match l.kind with
    | .reference => none
    | .collection k =>
      if l.owner = owner ∧ l.navigation = navigation then some (k, l.item) else none

/--
The collection that some links lead to. The first link decides of which kind it is, and it holds the
linked instances in the order of their links, without those that repeat one before them.
-/
def Store.gathered (s : Store) : List (CollectionKind × Nat) → Option Members
  | [] => none
  | (kind, item) :: rest =>
    some ⟨kind, (item :: rest.map (·.2)).eraseDupsBy (s.repeats kind)⟩

section
variable {parts : List (PlannedEntity × Fragment)} {resolved : List (Option Nat)}

/-- The occurrences in a row are its parts that are instances. -/
lemma mem_occurrencesOf {o : Occurrence} : o ∈ occurrencesOf parts resolved ↔
    ∃ (i : Nat) (e : PlannedEntity) (f : Fragment), parts[i]? = some (e, f) ∧
      resolved[i]? = some (some o.id) ∧ e.mapping = o.mapping ∧ f.values = o.values := by
  rw [occurrencesOf, List.mem_filterMap]
  constructor
  · rintro ⟨⟨⟨e, f⟩, id⟩, hpart, made⟩
    obtain ⟨i, hi⟩ := List.getElem?_of_mem hpart
    obtain ⟨he, hid⟩ := List.getElem?_zip_eq_some.1 hi
    obtain ⟨n, rfl, rfl⟩ := Option.map_eq_some_iff.1 made
    exact ⟨i, e, f, he, hid, rfl, rfl⟩
  · rintro ⟨i, e, f, he, hid, mapping, values⟩
    obtain ⟨m, v, id⟩ := o
    subst mapping values
    exact ⟨((e, f), some id), mem_zip_of_getElem? he hid, rfl⟩

/-- A link is made between a part that is an instance and the part that it hangs off. -/
lemma linked?_eq_some {e : PlannedEntity} {id : Option Nat} {made : Linked} :
    linked? resolved e id = some made ↔ ∃ l, e.link = some l ∧ id = some made.item ∧
      resolved[l.parent]? = some (some made.owner) ∧
      l.navigation = made.navigation ∧ l.kind = made.kind := by
  obtain ⟨owner, navigation, kind, item⟩ := made
  simp only [linked?, Option.bind_eq_bind, Option.bind_eq_some_iff, Option.join_eq_some_iff]
  constructor
  · rintro ⟨l, hl, id', rfl, owner', ho, same⟩
    cases same
    exact ⟨l, hl, rfl, ho, rfl, rfl⟩
  · rintro ⟨l, hl, rfl, ho, rfl, rfl⟩
    exact ⟨l, hl, item, rfl, owner, ho, rfl⟩

/-- The links in a row are those between its parts that are instances. -/
lemma mem_linksOf {made : Linked} : made ∈ linksOf parts resolved ↔
    ∃ (i : Nat) (e : PlannedEntity) (f : Fragment) (l : Link), parts[i]? = some (e, f) ∧
      resolved[i]? = some (some made.item) ∧ e.link = some l ∧
      resolved[l.parent]? = some (some made.owner) ∧
      l.navigation = made.navigation ∧ l.kind = made.kind := by
  rw [linksOf, List.mem_filterMap]
  constructor
  · rintro ⟨⟨⟨e, f⟩, id⟩, hpart, hmade⟩
    obtain ⟨i, hi⟩ := List.getElem?_of_mem hpart
    obtain ⟨he, hid⟩ := List.getElem?_zip_eq_some.1 hi
    obtain ⟨l, hl, rfl, rest⟩ := linked?_eq_some.1 hmade
    exact ⟨i, e, f, l, he, hid, hl, rest⟩
  · rintro ⟨i, e, f, l, he, hid, hl, rest⟩
    exact ⟨_, mem_zip_of_getElem? he hid, linked?_eq_some.2 ⟨l, hl, rfl, rest⟩⟩

end

section
variable {links : List Linked} {l : Linked} {owner : Nat} {navigation : String}

/-- The last link to a reference is the last target. -/
lemma targets_concat :
    targets (links ++ [l]) owner navigation =
      if l.kind = .reference ∧ l.owner = owner ∧ l.navigation = navigation then
        targets links owner navigation ++ [l.item]
      else targets links owner navigation := by
  unfold targets
  rw [List.filterMap_append]
  by_cases h : l.kind = .reference ∧ l.owner = owner ∧ l.navigation = navigation
  · simp [h]
  · simp [h]

/-- The last link to a collection is the last offer. -/
lemma offers_concat :
    offers (links ++ [l]) owner navigation =
      match l.kind with
      | .reference => offers links owner navigation
      | .collection k =>
        if l.owner = owner ∧ l.navigation = navigation then
          offers links owner navigation ++ [(k, l.item)]
        else offers links owner navigation := by
  unfold offers
  rw [List.filterMap_append]
  cases hk : l.kind with
  | reference => simp [hk]
  | collection k =>
    by_cases h : l.owner = owner ∧ l.navigation = navigation
    · simp [hk, h]
    · simp [hk, h]

/-- The targets of a reference are what was linked to it. -/
lemma mem_targets {item : Nat} :
    item ∈ targets links owner navigation ↔ ⟨owner, navigation, .reference, item⟩ ∈ links := by
  rw [targets, List.mem_filterMap]
  constructor
  · rintro ⟨⟨owner', navigation', kind, item'⟩, hl, found⟩
    rw [Option.ite_none_right_eq_some] at found
    obtain ⟨⟨rfl, rfl, rfl⟩, same⟩ := found
    cases same
    exact hl
  · exact fun hl => ⟨_, hl, by simp⟩

/-- What a collection is offered is what was linked to it. -/
lemma mem_offers {kind : CollectionKind} {item : Nat} :
    (kind, item) ∈ offers links owner navigation ↔
      ⟨owner, navigation, .collection kind, item⟩ ∈ links := by
  rw [offers, List.mem_filterMap]
  constructor
  · rintro ⟨⟨owner', navigation', kind', item'⟩, hl, found⟩
    cases kind' with
    | reference => cases found
    | collection k =>
      dsimp only at found
      rw [Option.ite_none_right_eq_some] at found
      obtain ⟨⟨rfl, rfl⟩, same⟩ := found
      cases same
      exact hl
  · exact fun hl => ⟨_, hl, by simp⟩

end

namespace Store

variable {s s' : Store}

/-- Whether items repeat others depends on what they are only. -/
lemma repeats_congr {kind : CollectionKind} {item other : Nat}
    (h : s.content? item = s'.content? item) (h' : s.content? other = s'.content? other) :
    s.repeats kind item other = s'.repeats kind item other := by
  rw [repeats, repeats, h, h']

/-- What is gathered depends on what the offered instances are only. -/
lemma gathered_congr {offered : List (CollectionKind × Nat)}
    (h : ∀ offer ∈ offered, s.content? offer.2 = s'.content? offer.2) :
    s.gathered offered = s'.gathered offered := by
  cases offered with
  | nil => rfl
  | cons offer rest =>
    obtain ⟨kind, item⟩ := offer
    have each : ∀ i ∈ item :: rest.map (·.2), s.content? i = s'.content? i := by
      intro i hi
      rcases List.mem_cons.1 hi with rfl | hi
      · exact h _ (List.mem_cons_self ..)
      · obtain ⟨offer, ho, rfl⟩ := List.mem_map.1 hi
        exact h _ (List.mem_cons_of_mem _ ho)
    have same : (item :: rest.map (·.2)).eraseDupsBy (s.repeats kind) =
        (item :: rest.map (·.2)).eraseDupsBy (s'.repeats kind) :=
      eraseDupsBy_congr fun a ha b hb => repeats_congr (each a ha) (each b hb)
    rw [gathered, gathered, same]

/-- One more link offers its item to what was gathered before. -/
lemma gathered_concat (s : Store) (offered : List (CollectionKind × Nat)) (kind : CollectionKind)
    (item : Nat) :
    s.gathered (offered ++ [(kind, item)]) =
      some (s.offered ((s.gathered offered).getD { kind }) item) := by
  cases offered with
  | nil => rfl
  | cons offer rest =>
    obtain ⟨first, other⟩ := offer
    rw [List.cons_append, gathered, gathered, List.map_append, List.map_singleton,
      ← List.cons_append, eraseDupsBy_concat, Option.getD_some, offered]
    dsimp only
    split <;> rfl

/-- Of items with keys a collection holds each once. -/
lemma gathered_of_keyed {kind : CollectionKind} {item : Nat}
    {rest : List (CollectionKind × Nat)}
    (keyed : ∀ id ∈ item :: rest.map (·.2), ∃ m values, s.content? id = some (m, values) ∧
      m.isKeyless = false) :
    s.gathered ((kind, item) :: rest) = some ⟨kind, (item :: rest.map (·.2)).eraseDups⟩ := by
  have same : (item :: rest.map (·.2)).eraseDupsBy (s.repeats kind) =
      (item :: rest.map (·.2)).eraseDups := by
    refine eraseDupsBy_congr fun a ha b _ => ?_
    obtain ⟨m, values, content, key⟩ := keyed a ha
    rw [repeats, content]
    simp [key]
  rw [gathered, same]

end Store

end RelMap
