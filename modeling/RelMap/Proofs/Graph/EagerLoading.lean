import RelMap.Proofs.Graph.Joined
import RelMap.Proofs.Graph.Outcome
import RelMap.Proofs.Mapping.Navigations

/-!
# Loading what a plan joins

A database joins the tables of a plan, and a run makes instances of the rows, whatever their order:
one of every row of a table that is reached from the root table, linked to the instances of exactly
those rows that match it.
-/

namespace RelMap

/-- Whether a collection of a kind holds some instances, each once; without any there is none. -/
def Members.Holds (kind : CollectionKind) (ids : List Nat) : Option Members → Prop
  | none => ids = []
  | some members => ids ≠ [] ∧ members.kind = kind ∧ members.items.Perm ids

/--
What the rows of tables are made into. The instance of every row of a type is given; it is one if
the row is reached from the root table.
-/
structure Loaded (p : Plan) (db : Tables) (inst : String → List Value → Nat) (roots : List Nat)
    (s : Store) : Prop where
  /-- The roots are the instances of the rows of the root table, one of each row. -/
  tops : roots.Perm ((db p.root.entityType).map (inst p.root.entityType))
  /-- A row that is reached is an instance with its values. -/
  content : ∀ (i : Nat) (e : PlannedEntity) (x : List Value),
    p.entities[i]? = some e → p.Reached db i x →
    s.content? (inst e.mapping.entityType x) = some (e.mapping, x)
  /-- There are no other instances. -/
  only : ∀ id, (s.content? id).isSome → ∃ (i : Nat) (e : PlannedEntity) (x : List Value),
    p.entities[i]? = some e ∧ p.Reached db i x ∧ id = inst e.mapping.entityType x
  /-- A reference has the instance of the only row that matches, if one does. -/
  references : ∀ (i : Nat) (e parent : PlannedEntity) (l : Link) (x : List Value),
    p.entities[i]? = some e → e.link = some l → p.entities[l.parent]? = some parent →
    p.Reached db l.parent x → l.kind = .reference →
    (db.matching l parent.mapping e.mapping x).length ≤ 1 ∧
      s.reference? (inst parent.mapping.entityType x) l.navigation =
        (db.matching l parent.mapping e.mapping x).head?.map (inst e.mapping.entityType)
  /-- A collection holds the instances of the rows that match. -/
  collections : ∀ (i : Nat) (e parent : PlannedEntity) (l : Link) (x : List Value)
    (kind : CollectionKind), p.entities[i]? = some e → e.link = some l →
    p.entities[l.parent]? = some parent → p.Reached db l.parent x → l.kind = .collection kind →
    Members.Holds kind
      ((db.matching l parent.mapping e.mapping x).map (inst e.mapping.entityType))
      (s.collection? (inst parent.mapping.entityType x) l.navigation)

/-- A list of at most one item ends with it. -/
lemma getLast?_eq_of_mem_iff {α : Type} {l : List α} {a : Option α}
    (h : ∀ b, b ∈ l ↔ a = some b) : l.getLast? = a := by
  cases hl : l.getLast? with
  | none =>
    rw [List.getLast?_eq_none_iff] at hl
    cases a with
    | none => rfl
    | some b => exact absurd ((h b).2 rfl) (by rw [hl]; exact List.not_mem_nil)
  | some b => exact ((h b).1 (List.mem_of_getLast? hl)).symm

namespace JoinedRun

variable {r : Registry} {root : EntityMapping} {p : Plan} {db : Tables} {keys : List IdentityKey}
variable {joined : List JoinedRow} {resolved : List (List (Option Nat))} {s : RunState}
variable {i : Nat} {e parent : PlannedEntity} {l : Link} {x : List Value}

/-- At most one row matches a reference. -/
lemma length_matching_le_one (h : JoinedRun r root p db keys joined resolved s)
    (hi : p.entities[i]? = some e) (hl : e.link = some l)
    (hp : p.entities[l.parent]? = some parent) (reference : l.kind = .reference) :
    (db.matching l parent.mapping e.mapping x).length ≤ 1 := by
  have he := List.mem_of_getElem? hi
  obtain ⟨_, n, fol⟩ := h.follows.linked e he l hl
  cases hp.symm.trans fol.planned
  have kind := fol.kind
  rw [reference] at kind
  cases n with
  | collection c => cases kind
  | reference fk =>
    -- All rows that match have the value that the foreign key of the navigation refers to.
    have found := EntityMapping.find?_of_navigation? fol.navigation
    have type := Registry.entityType_of_require fol.related
    have unique := h.sound.unique parent (List.mem_of_getElem? hp) fk
      (List.mem_of_find?_eq_some found) e he type
    have matched (y) (hy : y ∈ db.matching l parent.mapping e.mapping x) :
        (e.mapping.valueOf fk.principalProperty y).isNull = false ∧
          e.mapping.valueOf fk.principalProperty y = parent.mapping.valueOf fk.property x := by
      have fits := (List.mem_filter.1 hy).2
      rw [Link.matches, Link.compared?, reference] at fits
      dsimp only at fits
      rw [found] at fits
      simpa using fits
    rw [← Navigation.related, ← type] at unique
    have pairs := unique.sublist (List.filter_sublist
      (p := l.matches parent.mapping e.mapping x))
    change (db.matching l parent.mapping e.mapping x).Pairwise _ at pairs
    match hm : db.matching l parent.mapping e.mapping x with
    | [] => exact Nat.zero_le 1
    | [_] => exact Nat.le_refl 1
    | a :: b :: rest =>
      rw [hm] at pairs matched
      obtain ⟨present, same⟩ := matched a (by simp)
      have null := List.rel_of_pairwise_cons pairs (List.mem_cons_self ..)
        (same.trans (matched b (by simp)).2.symm)
      rw [present] at null
      cases null

lemma nodup_table (h : JoinedRun r root p db keys joined resolved s) (he : e ∈ p.entities) :
    (db e.mapping.entityType).Nodup :=
  (h.sound.distinct e he).imp fun apart same => apart (by rw [same])

/-- Different rows of a type are different instances. -/
lemma nodup_map_instanceOf (h : JoinedRun r root p db keys joined resolved s)
    (hi : p.entities[i]? = some e) {rows : List (List Value)} (nodup : rows.Nodup)
    (reached : ∀ x ∈ rows, p.Reached db i x) :
    (rows.map (p.instanceOf joined resolved
      e.mapping.entityType)).Nodup :=
  nodup.map_on fun x hx x' hx' same =>
    (h.eq_of_instanceOf_eq hi hi (reached x hx) (reached x' hx') same).2

/-- A row that is reached is an instance with its values. -/
lemma content?_instanceOf (h : JoinedRun r root p db keys joined resolved s)
    (hi : p.entities[i]? = some e) (hx : p.Reached db i x) :
    s.store.content? (p.instanceOf joined resolved e.mapping.entityType x) =
      some (e.mapping, x) := by
  obtain ⟨o, ho, mapping, rfl⟩ := h.exists_occurrence hi hx
  rw [← mapping, h.instanceOf_eq ho, h.content? ho]

/-- A type of which a row is reached has a key. -/
lemma isKeyless_eq_false (h : JoinedRun r root p db keys joined resolved s)
    (hi : p.entities[i]? = some e) (hx : p.Reached db i x) : e.mapping.isKeyless = false := by
  obtain ⟨row, hrow, hx⟩ := hx.exists_mem_leftJoin h.grown
  have key := h.sound.keyed e (List.mem_of_getElem? hi) x
    (Plan.reached_of_mem_leftJoin h.grown hrow hi hx).1
  unfold EntityMapping.key? at key
  split at key
  next => cases key
  next keyed => simpa using keyed

/-- Rows that match are reached, and each of them once. -/
lemma nodup_matching (h : JoinedRun r root p db keys joined resolved s)
    (hi : p.entities[i]? = some e) (hl : e.link = some l)
    (hp : p.entities[l.parent]? = some parent) (hx : p.Reached db l.parent x) :
    ((db.matching l parent.mapping e.mapping x).map
      (p.instanceOf joined resolved e.mapping.entityType)).Nodup :=
  h.nodup_map_instanceOf hi ((h.nodup_table (List.mem_of_getElem? hi)).filter _)
    fun _ hy => .join hi hl hp hx hy

/-- A reference has the instance of the only row that matches. -/
lemma reference?_eq (h : JoinedRun r root p db keys joined resolved s)
    (hi : p.entities[i]? = some e) (hl : e.link = some l)
    (hp : p.entities[l.parent]? = some parent) (hx : p.Reached db l.parent x)
    (reference : l.kind = .reference) :
    s.store.reference? (p.instanceOf joined resolved
        parent.mapping.entityType x) l.navigation =
      (db.matching l parent.mapping e.mapping x).head?.map
        (p.instanceOf joined resolved e.mapping.entityType) := by
  rw [h.tracks.references]
  refine getLast?_eq_of_mem_iff fun item => ?_
  rw [mem_targets, h.mem_links_iff hi hl hp hx, and_iff_right reference]
  have few := h.length_matching_le_one (x := x) hi hl hp reference
  match hm : db.matching l parent.mapping e.mapping x with
  | [] => simp
  | [y] => simp
  | _ :: _ :: _ =>
    rw [hm] at few
    exact absurd few (by simp)

/-- A collection holds the instances of the rows that match. -/
lemma collection?_holds (h : JoinedRun r root p db keys joined resolved s)
    (hi : p.entities[i]? = some e) (hl : e.link = some l)
    (hp : p.entities[l.parent]? = some parent) (hx : p.Reached db l.parent x)
    {kind : CollectionKind} (collection : l.kind = .collection kind) :
    Members.Holds kind
      ((db.matching l parent.mapping e.mapping x).map
        (p.instanceOf joined resolved e.mapping.entityType))
      (s.store.collection? (p.instanceOf joined resolved
        parent.mapping.entityType x) l.navigation) := by
  rw [h.tracks.collections]
  have offered (k : CollectionKind) (item : Nat) :
      (k, item) ∈ offers (p.links (joined.map p.fragments) resolved)
        (p.instanceOf joined resolved
          parent.mapping.entityType x) l.navigation ↔
        kind = k ∧ item ∈ (db.matching l parent.mapping e.mapping x).map
          (p.instanceOf joined resolved e.mapping.entityType) := by
    rw [mem_offers, h.mem_links_iff hi hl hp hx, collection, IncludeKind.collection.injEq,
      List.mem_map]
  generalize offers (p.links (joined.map p.fragments) resolved) _ l.navigation = links at offered
  -- All items have keys, so that repeating one is to be the same instance.
  have keyed (item) (hitem : item ∈ links.map (·.2)) : ∃ m values,
      s.store.content? item = some (m, values) ∧ m.isKeyless = false := by
    obtain ⟨⟨k, _⟩, hk, rfl⟩ := List.mem_map.1 hitem
    obtain ⟨y, hy, same⟩ := List.mem_map.1 ((offered k _).1 hk).2
    rw [← same]
    exact ⟨_, _, h.content?_instanceOf hi (.join hi hl hp hx hy),
      h.isKeyless_eq_false hi (.join hi hl hp hx hy)⟩
  have nodup := h.nodup_matching hi hl hp hx
  cases links with
  | nil =>
    refine List.eq_nil_iff_forall_not_mem.2 fun item hitem => ?_
    exact List.not_mem_nil ((offered kind item).2 ⟨rfl, hitem⟩)
  | cons link rest =>
    obtain ⟨k, item⟩ := link
    obtain ⟨rfl, first⟩ := (offered k item).1 (List.mem_cons_self ..)
    rw [Store.gathered_of_keyed keyed]
    refine ⟨List.ne_nil_of_mem first, rfl, ?_⟩
    refine (List.perm_ext_iff_of_nodup (nodup_eraseDups _) nodup).2 fun other => ?_
    rw [List.mem_eraseDups]
    constructor
    · intro hother
      obtain ⟨⟨k, _⟩, hk, rfl⟩ := @List.mem_map _ _ _ (·.2) ((kind, item) :: rest) |>.1 hother
      exact ((offered k _).1 hk).2
    · intro hother
      exact List.mem_map_of_mem (f := (·.2)) ((offered kind other).2 ⟨rfl, hother⟩)

/-- The root instances are those of the rows of the root table. -/
lemma mem_rootIds (h : JoinedRun r root p db keys joined resolved s)
    (hi : p.entities[0]? = some e) {id : Nat} : id ∈ rootIds resolved ↔
      id ∈ (db e.mapping.entityType).map (p.instanceOf joined resolved e.mapping.entityType) := by
  rw [rootIds, List.mem_filterMap, List.mem_map]
  constructor
  · rintro ⟨ids, hids, hid⟩
    obtain ⟨n, hn⟩ := List.getElem?_of_mem hids
    have lt : n < joined.length := h.length ▸ (List.getElem?_eq_some_iff.1 hn).1
    have hpair := mem_zip_of_getElem? (List.getElem?_eq_getElem lt) hn
    rw [List.head?_eq_getElem?, Option.join_eq_some_iff] at hid
    obtain ⟨x, hx⟩ := (h.isSome_iff hpair hi).1 ⟨id, hid⟩
    exact ⟨x, (Plan.reached_of_mem_leftJoin h.grown (h.mem_leftJoin hpair) hi hx).1,
      (h.id_eq_instanceOf hpair hi hx hid).symm⟩
  · rintro ⟨x, hx, rfl⟩
    obtain ⟨row, hrow, hx⟩ := (Plan.Reached.root hi hx).exists_mem_leftJoin h.grown
    obtain ⟨ids, hpair⟩ := h.exists_pair hrow
    obtain ⟨id, hid⟩ := (h.isSome_iff hpair hi).2 ⟨x, hx⟩
    refine ⟨ids, (List.of_mem_zip hpair).2, ?_⟩
    rw [List.head?_eq_getElem?, hid, ← h.id_eq_instanceOf hpair hi hx hid]
    rfl

/-- There is one root of every row of the root table. -/
lemma perm_roots (h : JoinedRun r root p db keys joined resolved s) (hroot : p.root = root) :
    (rootIds resolved).eraseDups.Perm
      ((db p.root.entityType).map (p.instanceOf joined resolved p.root.entityType)) := by
  obtain ⟨e, hi, mapping, _⟩ := h.grown.first
  rw [hroot, ← mapping]
  have nodup := h.nodup_map_instanceOf hi (h.nodup_table (List.mem_of_getElem? hi))
    fun _ hx => .root hi hx
  refine (List.perm_ext_iff_of_nodup (nodup_eraseDups _) nodup).2 fun id => ?_
  rw [List.mem_eraseDups, h.mem_rootIds hi]

/-- Every instance is that of a row that is reached. -/
lemma exists_reached (h : JoinedRun r root p db keys joined resolved s) {id : Nat}
    (hid : (s.store.content? id).isSome) :
    ∃ (i : Nat) (e : PlannedEntity) (x : List Value), p.entities[i]? = some e ∧
      p.Reached db i x ∧ id = p.instanceOf joined resolved e.mapping.entityType x := by
  rw [h.tracks.content, Option.isSome_map, List.find?_isSome] at hid
  obtain ⟨o, ho, same⟩ := hid
  rw [decide_eq_true_iff] at same
  obtain ⟨pair, hpair, i, e, hi, hx, hid, mapping⟩ := h.mem_occurrences.1 ho
  refine ⟨i, e, o.values, hi, ?_, ?_⟩
  · exact (Plan.reached_of_mem_leftJoin h.grown (h.mem_leftJoin hpair) hi hx).2
  · exact same.symm.trans (h.id_eq_instanceOf hpair hi hx hid)

/-- What was made of the rows that a plan joins is what they mean. -/
lemma loaded (h : JoinedRun r root p db keys joined resolved s) (hroot : p.root = root) :
    Loaded p db (p.instanceOf joined resolved) (rootIds resolved).eraseDups s.store where
  tops := h.perm_roots hroot
  content := fun _ _ _ hi hx => h.content?_instanceOf hi hx
  only := fun _ hid => h.exists_reached hid
  references := fun _ _ _ _ _ hi hl hp hx reference =>
    ⟨h.length_matching_le_one hi hl hp reference, h.reference?_eq hi hl hp hx reference⟩
  collections := fun _ _ _ _ _ _ hi hl hp hx collection =>
    h.collection?_holds hi hl hp hx collection

end JoinedRun

/-- The keys in the rows of a join are those of its instances. -/
lemma Plan.mem_joinedIdentities {p : Plan} {db : Tables}
    {row : JoinedRow} (hrow : row ∈ p.leftJoin db) {key : IdentityKey}
    (hk : key ∈ identitiesOf (p.parts (p.fragments row))) : key ∈ p.joinedIdentities db := by
  obtain ⟨⟨e, f⟩, hpart, identity⟩ := List.mem_filterMap.1 hk
  obtain ⟨values, hv, rfl⟩ := exists_of_mem_zip_map (of_mem_presentParts hpart).1
  refine List.mem_flatMap.2 ⟨row, hrow, List.mem_filterMap.2 ⟨(e, values), hv, ?_⟩⟩
  cases values with
  | some x => exact identity
  | none =>
    -- Nothing that stands in for a missing row has a key.
    obtain ⟨key, hkey, _⟩ := Option.map_eq_some_iff.1 identity
    have present := EntityMapping.not_all_isNull (Option.isSome_iff_exists.2 ⟨key, hkey⟩)
    have null := isAllNull_replicate e.mapping.slotCount
    rw [Fragment.isAllNull] at null
    exact absurd (present.symm.trans null) Bool.false_ne_true

/-- Every part of a joined row is all null or has the key that its type needs. -/
lemma Plan.rowFault?_fragments {r : Registry} {root : EntityMapping} {p : Plan} {db : Tables}
    (grown : PlanDraft.Grown r root ⟨p.entities, p.joins⟩) (sound : db.Sound p.entities)
    {row : JoinedRow} (hrow : row ∈ p.leftJoin db) : p.rowFault? (p.fragments row) = none := by
  have width : (p.fragments row).length = p.entities.length := by
    simp [Plan.fragments, ((Plan.mem_leftJoin grown).1 hrow).1]
  rw [Plan.rowFault?, if_neg (Decidable.not_not.2 width), List.findSome?_eq_none_iff]
  rintro ⟨e, f⟩ hpart
  obtain ⟨mem, present⟩ := of_mem_presentParts hpart
  obtain ⟨values, hv, rfl⟩ := exists_of_mem_zip_map mem
  cases values with
  | none => cases present.symm.trans (isAllNull_replicate e.mapping.slotCount)
  | some x =>
    obtain ⟨he, hx⟩ := p.mem_table grown hrow hv
    rw [partFault?, if_pos (.inr (sound.keyed e he x hx))]

/--
Whatever include paths a tree was resolved from and whatever the tables hold, the rows that its plan
joins are laid out, run through in any order, and made into one root for every row of the root
table, with references and collections that are those of the tables.
-/
theorem Materializer.leftJoin_loaded {dialect : Dialect} {r : Registry} {type : String}
    {root : EntityMapping} {paths : List String} {tree : IncludeTree} {p : Plan} {db : Tables}
    {joined : List JoinedRow} {sizing : IdentitySizing}
    (htree : IncludeTree.resolve r type paths = .ok tree) (hroot : r.require type = .ok root)
    (hp : Plan.build dialect r root tree = .ok p) (sound : db.Sound p.entities)
    (order : joined.Perm (p.leftJoin db))
    (room : (p.joinedIdentities db).eraseDups.length ≤ max sizing.initialCapacity 1) :
    PlanDraft.Compares ⟨p.entities, p.joins⟩ ∧ (∀ a ∈ tree.nodes, a.Planned p.entities 0) ∧
    ∃ (m : Materializer) (roots : List Nat) (t : RunState) (inst : String → List Value → Nat),
      Materializer.ofColumns p p.columns = .ok m ∧
      (m.ofRows (joined.map p.flat)).run.run { identities := .empty sizing } = (.ok roots, t) ∧
      Loaded p db inst roots t.store := by
  obtain ⟨_, hroot', grown⟩ := Plan.of_build hp
  have follows := Plan.follows htree hroot hp
  obtain ⟨l, hl, split⟩ := p.split_flat grown sound
  have hm : Materializer.ofColumns p p.columns = .ok ⟨p, l⟩ := by
    rw [Materializer.ofColumns, hl]
    rfl
  -- The layout takes the rows apart again.
  have given : (joined.map p.flat).map l.split = (joined.map p.fragments).map .ok := by
    rw [List.map_map, List.map_map]
    exact List.map_congr_left fun row hrow => split row (order.mem_iff.1 hrow)
  have sound' : p.fault? ((joined.map p.fragments).map .ok) = none := by
    refine List.findSome?_eq_none_iff.2 fun given hgiven => ?_
    obtain ⟨fragments, hf, rfl⟩ := List.mem_map.1 hgiven
    obtain ⟨row, hrow, rfl⟩ := List.mem_map.1 hf
    exact Plan.rowFault?_fragments grown sound (order.mem_iff.1 hrow)
  have ends := @Run.ends_rows p { identities := .empty sizing } r (hroot' ▸ grown) .start
    ((joined.map p.fragments).map .ok) {} [] fun _ => ⟨.nil, rfl⟩
  rw [sound'] at ends
  have apart := Plan.not_mixes_of_follows follows
  obtain ⟨result, t, hrows, _⟩ := ends.exists_ok fun _ _ waits => apart waits.mixes
  obtain ⟨rows, resolved, same, length, _, present, tracks, ids⟩ :=
    (Tracks.start room).rows hroot' grown .start hrows fun fragments hf key hk => by
      obtain ⟨fragments', hf, same⟩ := List.mem_map.1 hf
      cases same
      obtain ⟨row, hrow, rfl⟩ := List.mem_map.1 hf
      exact p.mem_joinedIdentities (order.mem_iff.1 hrow) hk
  rw [List.nil_append] at ids
  rw [List.nil_append, List.nil_append] at tracks
  have rows_eq : joined.map p.fragments = rows :=
    List.map_injective_iff.2 (fun _ _ => Except.ok.inj) same
  subst rows_eq
  rw [List.length_map] at length
  have run : JoinedRun r root p db (p.joinedIdentities db) joined resolved t := {
    grown := grown
    follows := follows
    sound := sound
    mem_iff := fun row => order.mem_iff
    length := length
    present := fun pair hpair => present (p.fragments pair.1, pair.2) (by
      rw [List.zip_map_left]
      exact List.mem_map_of_mem hpair)
    tracks := tracks }
  refine ⟨grown.compares.2, Plan.planned hp, ⟨p, l⟩, result.ids, t, p.instanceOf joined resolved,
    hm, ?_, ids ▸ run.loaded hroot'⟩
  rw [Materializer.ofRows, given]
  exact run_bind_eq_ok.2 ⟨result, t, hrows, rfl⟩

/-- Two owners, one of which has two items. -/
def sampleTables : Tables
  | "P" => [[.int32 1], [.int32 2]]
  | "K" => [[.int32 3, .int32 1], [.int32 4, .int32 1], [.int32 5, .null]]
  | _ => []

/-- The items of owners, and the owners of these. -/
def sampleIncludes : IncludeTree where
  root := "P"
  nodes := [.node "Items" "K" (.collection .set) [.node "P" "P" .reference []]]

/-- Owners are loaded with their items and the owners of these, from rows in reverse order. -/
theorem Materializer.leftJoin_loaded_reverse :
    IncludeTree.resolve sampleRegistry "P" ["Items.P"] = .ok sampleIncludes ∧
    ∃ (p : Plan) (m : Materializer) (roots : List Nat) (t : RunState)
      (inst : String → List Value → Nat),
      Plan.build .mySql sampleRegistry sampleOwner sampleIncludes = .ok p ∧
      (p.leftJoin sampleTables).length = 3 ∧
      Materializer.ofColumns p p.columns = .ok m ∧
      (m.ofRows ((p.leftJoin sampleTables).reverse.map p.flat)).run.run
        { identities := .empty {} } = (.ok roots, t) ∧
      Loaded p sampleTables inst roots t.store := by
  have resolved : IncludeTree.resolve sampleRegistry "P" ["Items.P"] = .ok sampleIncludes := rfl
  have planned : ∃ p : Plan, Plan.build .mySql sampleRegistry sampleOwner sampleIncludes = .ok p ∧
      (p.leftJoin sampleTables).length = 3 ∧
      p.entities.map (·.mapping) = [sampleOwner, sampleItem, sampleOwner] ∧
      (p.joinedIdentities sampleTables).eraseDups.length ≤
        max ({} : IdentitySizing).initialCapacity 1 :=
    ⟨_, rfl, by decide, rfl, by decide⟩
  obtain ⟨p, hp, length, types, room⟩ := planned
  have each (e) (he : e ∈ p.entities) : e.mapping = sampleOwner ∨ e.mapping = sampleItem := by
    have mem := List.mem_map_of_mem (f := (·.mapping)) he
    rw [types] at mem
    rcases List.mem_cons.1 mem with owner | mem
    · exact .inl owner
    · simpa [or_comm] using mem
  have sound : sampleTables.Sound p.entities := by
    constructor
    · intro e he
      rcases each e he with type | type <;> rw [type] <;> decide
    · intro e he
      rcases each e he with type | type <;> rw [type] <;> decide
    · intro e he
      rcases each e he with type | type <;> rw [type] <;> decide
    · intro parent hparent fk hfk e he
      rcases each parent hparent with type | type <;> rw [type] at hfk
      · cases hfk
      · cases List.mem_singleton.1 hfk
        rcases each e he with type | type <;> rw [type] <;> decide
  obtain ⟨_, _, m, roots, t, inst, hm, hr, loaded⟩ :=
    Materializer.leftJoin_loaded resolved rfl hp sound (List.reverse_perm _) room
  exact ⟨resolved, p, m, roots, t, inst, hp, length, hm, hr, loaded⟩

end RelMap
