import RelMap.Proofs.Graph.Rows

/-!
# Graphs from rows

What a run that evicts nothing makes of its rows: which instances there are, what their references
and collections are, and which of them are roots.
-/

namespace RelMap

/--
What the rows of a plan are made into. The instances of the parts of every row are given; where a
part has none, it is not an instance.
-/
structure Materialized (p : Plan) (rows : List (List Fragment))
    (resolved : List (List (Option Nat))) (roots : List Nat) (s : Store) : Prop where
  /-- Every row has a part for every type, and an answer for every part. -/
  shape : resolved.length = rows.length ∧
    ∀ fragments ∈ rows, fragments.length = p.entities.length
  /-- A part is an instance when it is not all null and hangs off nothing or off an instance. -/
  present : ∀ row ∈ rows.zip resolved, ResolvesPresent (p.parts row.1) row.2
  /-- Every occurrence of a type with a key has one. -/
  keyed : ∀ o ∈ p.occurrences rows resolved, o.mapping.isKeyless = false → o.identity?.isSome
  /-- Two occurrences are one instance exactly when they are of one type and key. -/
  same : (p.occurrences rows resolved).Pairwise fun o o' => o.id = o'.id ↔ o.Alike o'
  /-- The instances are those of the occurrences, each with what it had where it occurred first. -/
  content : ∀ id, s.content? id =
    ((p.occurrences rows resolved).find? (·.id = id)).map fun o => (o.mapping, o.values)
  /-- A reference has the target of the last link made to it. -/
  references : ∀ id navigation, s.reference? id navigation =
    (targets (p.links rows resolved) id navigation).getLast?
  /-- A collection has the linked instances in order, without those that repeat one before them. -/
  collections : ∀ id navigation, s.collection? id navigation =
    s.gathered (offers (p.links rows resolved) id navigation)
  /-- The roots are the root instances, each where it was first seen. -/
  distinct : roots = (rootIds resolved).eraseDups
  /-- If the root type has no key, each row with a root has one of its own. -/
  keyless : p.root.isKeyless → roots = rootIds resolved

section
variable {p : Plan} {rows : List (List Fragment)} {resolved : List (List (Option Nat))}

/-- The root instances of rows are those of some of their occurrences, all of the root type. -/
lemma Plan.rootIds_eq_map {r : Registry}
    (grown : PlanDraft.Grown r p.root ⟨p.entities, p.joins⟩)
    (present : ∀ row ∈ rows.zip resolved, ResolvesPresent (p.parts row.1) row.2)
    (length : resolved.length = rows.length) :
    ∃ tops : List Occurrence, tops.Sublist (p.occurrences rows resolved) ∧
      (∀ o ∈ tops, o.mapping = p.root) ∧ tops.map (·.id) = rootIds resolved := by
  induction rows generalizing resolved with
  | nil =>
    cases List.length_eq_zero_iff.1 length
    exact ⟨[], .slnil, nofun, rfl⟩
  | cons fragments rows ih =>
    cases resolved with
    | nil => cases length
    | cons row resolved =>
      obtain ⟨tops, sub, mapping, ids⟩ := ih
        (fun row' h => present row' (List.mem_cons_of_mem _ h)) (Nat.succ.inj length)
      have width := (present _ (List.mem_cons_self ..)).1
      cases top : row.head?.join with
      | none =>
        refine ⟨tops, sub.trans (List.sublist_append_right ..), mapping, ?_⟩
        simp [rootIds, top, ids]
      | some id =>
        obtain ⟨o, ho, rfl, root⟩ := exists_root_occurrence rfl grown width top
        refine ⟨o :: tops, (List.singleton_sublist.2 ho).append sub, ?_, ?_⟩
        · intro o' ho'
          rcases List.mem_cons.1 ho' with rfl | ho'
          · exact root
          · exact mapping o' ho'
        · simp [rootIds, top, ids]

/-- Root instances without a key are all different. -/
lemma Plan.nodup_rootIds {r : Registry}
    (grown : PlanDraft.Grown r p.root ⟨p.entities, p.joins⟩)
    (present : ∀ row ∈ rows.zip resolved, ResolvesPresent (p.parts row.1) row.2)
    (length : resolved.length = rows.length)
    (same : (p.occurrences rows resolved).Pairwise fun o o' => o.id = o'.id ↔ o.Alike o')
    (keyless : p.root.isKeyless) : (rootIds resolved).Nodup := by
  obtain ⟨tops, sub, mapping, ids⟩ := p.rootIds_eq_map grown present length
  rw [← ids, List.Nodup, List.pairwise_map]
  refine (same.sublist sub).imp_of_mem fun {o o'} ho _ iff equal => ?_
  -- Two occurrences are one instance only if they have a key, which root occurrences have not.
  have keyed := (iff.1 equal).1
  rw [Occurrence.identity?, EntityMapping.identity?, EntityMapping.key?, mapping o ho,
    if_pos keyless] at keyed
  cases keyed

end

namespace Materializer

/-- The parts of those rows that can be split. -/
def split (m : Materializer) (given : List (List Value)) : List (List Fragment) :=
  given.filterMap fun row => (m.layout.split row).toOption

variable {dialect : Dialect} {r : Registry} {root : EntityMapping} {tree : IncludeTree} {p : Plan}
variable {columns : List String} {m : Materializer} {sizing : IdentitySizing}
variable {given : List (List Value)} {roots : List Nat} {t : RunState}

lemma plan_of_ofColumns (hm : ofColumns p columns = .ok m) : m.plan = p := by
  obtain ⟨l, _, hm⟩ := bind_eq_ok.1 hm
  cases hm
  rfl

/-- The keys in a row that can be split are keys in the rows that can be split. -/
lemma mem_identities_split {fragments : List Fragment} {key : IdentityKey}
    (hf : .ok fragments ∈ given.map m.layout.split)
    (hk : key ∈ identitiesOf (m.plan.parts fragments)) :
    key ∈ m.plan.identities (m.split given) := by
  obtain ⟨row, hrow, hs⟩ := List.mem_map.1 hf
  refine List.mem_flatMap.2 ⟨fragments, List.mem_filterMap.2 ⟨row, hrow, ?_⟩, hk⟩
  rw [hs]
  rfl

/--
A run that succeeds with room for all types and keys in its rows has made of them what
`Materialized` says.
-/
theorem ofRows_materialized (hp : Plan.build dialect r root tree = .ok p)
    (hm : ofColumns p columns = .ok m)
    (hr : (m.ofRows given).run.run { identities := .empty sizing } = (.ok roots, t))
    (room : (p.identities (m.split given)).eraseDups.length ≤ max sizing.initialCapacity 1) :
    ∃ rows resolved, given.map m.layout.split = rows.map .ok ∧
      Materialized p rows resolved roots t.store := by
  obtain ⟨_, hroot, grown⟩ := Plan.of_build hp
  cases plan_of_ofColumns hm
  cases hroot
  obtain ⟨result, u, hrows, done⟩ := run_bind_eq_ok.1 hr
  cases done
  obtain ⟨rows, resolved, split, length, widths, present, tracks, ids⟩ :=
    (Tracks.start room).rows rfl grown .start hrows fun _ hf _ => mem_identities_split hf
  rw [List.nil_append] at ids
  rw [List.nil_append, List.nil_append] at tracks
  refine ⟨rows, resolved, split, ?_⟩
  exact {
    shape := ⟨length, widths⟩
    present := present
    keyed := tracks.keyed
    same := tracks.same
    content := tracks.content
    references := tracks.references
    collections := tracks.collections
    distinct := ids
    keyless := fun keyless => by
      rw [ids, eraseDups_of_nodup (m.plan.nodup_rootIds grown present length tracks.same keyless)] }

end Materializer

/-- A type with a key, which has a set of items. -/
def sampleOwner : EntityMapping where
  entityType := "P"
  table := "Ps"
  keys := ["Id"]
  properties := [{ name := "Id" }]
  collections := [⟨"Items", "K", .set⟩]
  slots := [("Id", 0)]
  keySlots := [0]
  columns := ["Id"]
  built := rfl

/-- An item with a key. -/
def sampleItem : EntityMapping where
  entityType := "K"
  table := "Ks"
  keys := ["Id"]
  properties := [{ name := "Id" }, { name := "PId" }]
  foreignKeys := [⟨"P", "PId", "P", "Id"⟩]
  slots := [("PId", 1), ("Id", 0)]
  keySlots := [0]
  columns := ["Id", "PId"]
  built := rfl

/-- An item without a key. -/
def sampleRecord : EntityMapping where
  entityType := "L"
  table := "Ls"
  properties := [{ name := "Id" }, { name := "PId" }]
  foreignKeys := [⟨"P", "PId", "P", "Id"⟩]
  slots := [("PId", 1), ("Id", 0)]
  keySlots := []
  columns := ["Id", "PId"]
  built := rfl

/-- The mappings of the three types. -/
def sampleRegistry : Registry := .ofList [sampleOwner, sampleItem, sampleRecord]

/-- A tree that puts items with and without a key into one set. -/
def sampleTree : IncludeTree where
  root := "P"
  nodes := [.node "Items" "K" (.collection .set) [], .node "Items" "L" (.collection .set) []]

/-- A row with an item of either type. -/
def sampleRow : List Value := [.int32 1, .int32 2, .int32 1, .int32 3, .int32 1]

/-- Three instances are made of a row with an owner and two items. -/
theorem ofRows_materialized_sample :
    ∃ (p : Plan) (m : Materializer) (t : RunState) (rows : List (List Fragment))
      (resolved : List (List (Option Nat))),
      Plan.build .mySql sampleRegistry sampleOwner sampleTree = .ok p ∧
      Materializer.ofColumns p p.columns = .ok m ∧
      (m.ofRows [sampleRow]).run.run { identities := .empty {} } = (.ok [0], t) ∧
      [sampleRow].map m.layout.split = rows.map .ok ∧ Materialized p rows resolved [0] t.store := by
  have runs : ∃ (p : Plan) (m : Materializer) (t : RunState),
      Plan.build .mySql sampleRegistry sampleOwner sampleTree = .ok p ∧
      Materializer.ofColumns p p.columns = .ok m ∧
      (m.ofRows [sampleRow]).run.run { identities := .empty {} } = (.ok [0], t) ∧
      (p.identities (m.split [sampleRow])).eraseDups.length ≤ 10000 :=
    ⟨_, _, _, rfl, rfl, rfl, by decide⟩
  obtain ⟨p, m, t, hp, hm, hr, room⟩ := runs
  obtain ⟨rows, resolved, split, made⟩ := Materializer.ofRows_materialized hp hm hr room
  exact ⟨p, m, t, rows, resolved, hp, hm, hr, split, made⟩

/--
A set that holds an item with a key does not take one without a key that has the same values, though
no other item of its type has them.
-/
theorem set_refuses_keyless_with_values_of_keyed :
    ∃ (p : Plan) (m : Materializer) (t : RunState),
      Plan.build .mySql sampleRegistry sampleOwner sampleTree = .ok p ∧
      Materializer.ofColumns p p.columns = .ok m ∧
      (m.ofRows [[.int32 1, .int32 2, .int32 1, .int32 2, .int32 1]]).run.run
        { identities := .empty {} } = (.ok [0], t) ∧
      t.store.content? 1 = some (sampleItem, [.int32 2, .int32 1]) ∧
      t.store.content? 2 = some (sampleRecord, [.int32 2, .int32 1]) ∧
      t.store.collection? 0 "Items" = some ⟨.set, [1]⟩ :=
  ⟨_, _, _, rfl, rfl, rfl, rfl, rfl, rfl⟩

end RelMap
