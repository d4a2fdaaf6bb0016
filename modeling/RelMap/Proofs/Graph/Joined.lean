import RelMap.Proofs.Graph.Rows
import RelMap.Proofs.Include.Join

/-!
# Instances of joined rows

What the rows that a plan joins are made into when every row of a table has a key of its own: which
part of which row is an instance, when two of them are one, and which of them are linked.
-/

namespace RelMap

/--
Tables in which every row has a key of its own, and in which what a reference refers to is there
once.
-/
structure Tables.Sound (db : Tables) (entities : List PlannedEntity) : Prop where
  /-- A row has a value for every slot. -/
  widths : ∀ e ∈ entities, ∀ row ∈ db e.mapping.entityType, row.length = e.mapping.slotCount
  /-- A row has a key, no part of which is null. -/
  keyed : ∀ e ∈ entities, ∀ row ∈ db e.mapping.entityType, (e.mapping.key? row).isSome
  /-- Two rows of a table have different keys. -/
  distinct : ∀ e ∈ entities, (db e.mapping.entityType).Pairwise fun row row' =>
    e.mapping.key? row ≠ e.mapping.key? row'
  /-- Two rows that references could refer to differ in what they are referred to by. -/
  unique : ∀ parent ∈ entities, ∀ fk ∈ parent.mapping.foreignKeys, ∀ e ∈ entities,
    e.mapping.entityType = fk.principal →
    (db fk.principal).Pairwise fun row row' =>
      e.mapping.valueOf fk.principalProperty row = e.mapping.valueOf fk.principalProperty row' →
        (e.mapping.valueOf fk.principalProperty row).isNull

/-- The types and keys in the rows that a plan joins. -/
def Plan.joinedIdentities (p : Plan) (db : Tables) : List IdentityKey :=
  (p.leftJoin db).flatMap fun row =>
    (p.entities.zip row).filterMap fun (e, values) => values.bind e.mapping.identity?

/-- The parts of a joined row; where there is no row, all is null. -/
def Plan.fragments (p : Plan) (row : JoinedRow) : List Fragment :=
  (p.entities.zip row).map fun (e, values) =>
    ⟨values.getD (List.replicate e.mapping.slotCount .null)⟩

section
variable {p : Plan} {db : Tables} {r : Registry} {root : EntityMapping} {row : JoinedRow}
variable {i : Nat} {e : PlannedEntity} {x : List Value} {values : Option (List Value)}
variable {resolved : List (Option Nat)}

/-- What is made of two lists stays beside the items of the first one. -/
lemma exists_of_mem_zip_map {α β γ : Type} {l : List α} {m : List β} {f : α × β → γ} {a : α} {c : γ}
    (h : (a, c) ∈ l.zip ((l.zip m).map f)) : ∃ b, (a, b) ∈ l.zip m ∧ c = f (a, b) := by
  induction l generalizing m with
  | nil => cases h
  | cons a' l ih =>
    cases m with
    | nil => cases h
    | cons b m =>
      rw [List.zip_cons_cons, List.map_cons, List.zip_cons_cons, List.mem_cons] at h
      rcases h with same | h
      · cases same
        exact ⟨b, List.mem_cons_self .., rfl⟩
      · obtain ⟨b', hb, same⟩ := ih h
        exact ⟨b', List.mem_cons_of_mem _ hb, same⟩

/-- What a joined row has of a type is a row of its table. -/
lemma Plan.mem_table (grown : PlanDraft.Grown r root ⟨p.entities, p.joins⟩)
    (hrow : row ∈ p.leftJoin db) (h : (e, some x) ∈ p.entities.zip row) :
    e ∈ p.entities ∧ x ∈ db e.mapping.entityType := by
  obtain ⟨i, hi⟩ := List.getElem?_of_mem h
  obtain ⟨he, hx⟩ := List.getElem?_zip_eq_some.1 hi
  exact ⟨List.mem_of_getElem? he, (Plan.reached_of_mem_leftJoin grown hrow he hx).1⟩

/-- A joined row is split into its parts. -/
lemma Plan.split_flat (grown : PlanDraft.Grown r root ⟨p.entities, p.joins⟩)
    (sound : db.Sound p.entities) :
    ∃ l, p.layout p.columns = .ok l ∧
      ∀ row ∈ p.leftJoin db, l.split (p.flat row) = .ok (p.fragments row) := by
  obtain ⟨l, hl, split⟩ := p.split_arrange grown
  refine ⟨l, hl, fun row hrow => ?_⟩
  have length := ((Plan.mem_leftJoin grown).1 hrow).1
  have found := split ((p.entities.zip row).map fun (e, values) =>
    values.getD (List.replicate e.mapping.slotCount .null)) (by simp [length]) ?_
  · rw [Plan.flat, found, Plan.fragments, List.map_map]
    rfl
  · rintro ⟨e, part⟩ hpart
    obtain ⟨values, hv, rfl⟩ := exists_of_mem_zip_map hpart
    cases values with
    | none => exact List.length_replicate
    | some x =>
      obtain ⟨he, hx⟩ := p.mem_table grown hrow hv
      exact sound.widths e he x hx

/-- The part of a joined row at a place. -/
lemma Plan.getElem?_parts (hi : p.entities[i]? = some e) (hx : row[i]? = some values) :
    (p.parts (p.fragments row))[i]? =
      some (e, ⟨values.getD (List.replicate e.mapping.slotCount .null)⟩) := by
  have both := (@List.getElem?_zip_eq_some _ _ _ _ (e, values) i).2 ⟨hi, hx⟩
  rw [Plan.parts, List.getElem?_zip_eq_some]
  refine ⟨hi, ?_⟩
  rw [Plan.fragments, List.getElem?_map, both]
  rfl

lemma isAllNull_replicate (n : Nat) : Fragment.isAllNull ⟨List.replicate n .null⟩ = true := by
  simp [Fragment.isAllNull, Value.isNull]

lemma Tables.Sound.isAllNull_eq_false (sound : db.Sound p.entities) (he : e ∈ p.entities)
    (hx : x ∈ db e.mapping.entityType) : Fragment.isAllNull ⟨x⟩ = false :=
  EntityMapping.not_all_isNull (sound.keyed e he x hx)

lemma Tables.Sound.eq_of_key?_eq {x' : List Value} (sound : db.Sound p.entities)
    (he : e ∈ p.entities) (hx : x ∈ db e.mapping.entityType) (hx' : x' ∈ db e.mapping.entityType)
    (same : e.mapping.key? x = e.mapping.key? x') : x = x' :=
  List.inj_on_of_nodup_map (List.pairwise_map.2 (sound.distinct e he)) hx hx' same

/-- Exactly those parts of a joined row are instances for which there is a row. -/
lemma ResolvesPresent.isSome_iff (grown : PlanDraft.Grown r root ⟨p.entities, p.joins⟩)
    (sound : db.Sound p.entities) (hrow : row ∈ p.leftJoin db)
    (present : ResolvesPresent (p.parts (p.fragments row)) resolved)
    (hi : p.entities[i]? = some e) : (resolved[i]?).join.isSome ↔ (row[i]?).join.isSome := by
  -- By induction on the place, since a part hangs off one before it.
  induction i using Nat.strongRecOn generalizing e with
  | ind i ih =>
    obtain ⟨values, hv, hx⟩ := ((Plan.mem_leftJoin grown).1 hrow).2 i e hi
    have he := List.mem_of_getElem? hi
    rw [present.2 i e _ (Plan.getElem?_parts hi hx), hx, Option.join_some]
    cases values with
    | none =>
      refine iff_of_false (fun h => ?_) nofun
      rw [Option.getD_none, isAllNull_replicate] at h
      cases h.1
    | some x =>
      obtain ⟨stored, _⟩ := Plan.reached_of_mem_leftJoin grown hrow hi hx
      refine iff_of_true ⟨sound.isAllNull_eq_false he stored, fun l hl => ?_⟩ rfl
      obtain ⟨parent, before, hp, hb, _⟩ := Plan.exists_before grown hrow hi hl hx
      rw [ih l.parent (grown.parent_lt hi hl) hp, hb]
      rfl

end

/-- The instance of a row of a type, as far as joined rows have it. -/
def Plan.instanceOf (p : Plan) (joined : List JoinedRow) (resolved : List (List (Option Nat)))
    (type : String) (row : List Value) : Nat :=
  (((p.occurrences (joined.map p.fragments) resolved).find? fun o =>
    o.mapping.entityType = type ∧ o.values = row).map (·.id)).getD 0

/-- The rows that a plan joins, in some order, and what a run made of them. -/
structure JoinedRun (r : Registry) (root : EntityMapping) (p : Plan) (db : Tables)
    (keys : List IdentityKey) (joined : List JoinedRow) (resolved : List (List (Option Nat)))
    (s : RunState) : Prop where
  /-- The plan was grown from its root. -/
  grown : PlanDraft.Grown r root ⟨p.entities, p.joins⟩
  /-- It follows the navigations of its types. -/
  follows : PlanDraft.Follows r ⟨p.entities, p.joins⟩
  /-- Every row of a table has a key of its own. -/
  sound : db.Sound p.entities
  /-- The rows are those that the plan joins. -/
  mem_iff : ∀ row, row ∈ joined ↔ row ∈ p.leftJoin db
  /-- There is an answer for every row. -/
  length : resolved.length = joined.length
  /-- Exactly the present parts are instances. -/
  present : ∀ pair ∈ joined.zip resolved, ResolvesPresent (p.parts (p.fragments pair.1)) pair.2
  /-- The state is what the occurrences and links of the rows lead to. -/
  tracks : Tracks keys (p.occurrences (joined.map p.fragments) resolved)
    (p.links (joined.map p.fragments) resolved) s

namespace JoinedRun

variable {r : Registry} {root : EntityMapping} {p : Plan} {db : Tables} {keys : List IdentityKey}
variable {joined : List JoinedRow} {resolved : List (List (Option Nat))} {s : RunState}
variable {pair : JoinedRow × List (Option Nat)} {i : Nat} {e parent : PlannedEntity} {l : Link}
variable {x before : List Value} {o o' : Occurrence}

/-- Every row of the join has an answer. -/
lemma exists_pair (h : JoinedRun r root p db keys joined resolved s) {row : JoinedRow}
    (hrow : row ∈ p.leftJoin db) : ∃ ids, (row, ids) ∈ joined.zip resolved := by
  obtain ⟨i, hi⟩ := List.getElem?_of_mem ((h.mem_iff row).2 hrow)
  have lt : i < resolved.length := h.length ▸ (List.getElem?_eq_some_iff.1 hi).1
  exact ⟨_, mem_zip_of_getElem? hi (List.getElem?_eq_getElem lt)⟩

/-- The rows are those of the join. -/
lemma mem_leftJoin (h : JoinedRun r root p db keys joined resolved s)
    (hpair : pair ∈ joined.zip resolved) : pair.1 ∈ p.leftJoin db :=
  (h.mem_iff _).1 (List.of_mem_zip hpair).1

/-- Exactly those parts of a row are instances for which there is a row. -/
lemma isSome_iff (h : JoinedRun r root p db keys joined resolved s)
    (hpair : pair ∈ joined.zip resolved) (hi : p.entities[i]? = some e) :
    (∃ id, pair.2[i]? = some (some id)) ↔ ∃ x, pair.1[i]? = some (some x) := by
  have same := ResolvesPresent.isSome_iff h.grown h.sound (h.mem_leftJoin hpair)
    (h.present pair hpair) hi
  simpa only [Option.isSome_iff_exists, Option.join_eq_some_iff] using same

/-- The occurrences are the rows of tables in the joined rows. -/
lemma mem_occurrences (h : JoinedRun r root p db keys joined resolved s) :
    o ∈ p.occurrences (joined.map p.fragments) resolved ↔
      ∃ pair ∈ joined.zip resolved, ∃ (i : Nat) (e : PlannedEntity), p.entities[i]? = some e ∧
        pair.1[i]? = some (some o.values) ∧ pair.2[i]? = some (some o.id) ∧
        e.mapping = o.mapping := by
  rw [Plan.occurrences, List.zip_map_left, List.flatMap_map, List.mem_flatMap]
  refine exists_congr fun pair => and_congr_right fun hpair => ?_
  simp only [Prod.map_fst, Prod.map_snd, id_eq]
  rw [mem_occurrencesOf]
  constructor
  · rintro ⟨i, e, f, hpart, hid, mapping, values⟩
    have he : p.entities[i]? = some e := (List.getElem?_zip_eq_some.1 hpart).1
    obtain ⟨x, hx⟩ := (h.isSome_iff hpair he).1 ⟨_, hid⟩
    rw [Plan.getElem?_parts he hx, Option.some.injEq, Prod.mk.injEq] at hpart
    obtain ⟨_, rfl⟩ := hpart
    cases values
    exact ⟨i, e, he, hx, hid, mapping⟩
  · rintro ⟨i, e, he, hx, hid, mapping⟩
    exact ⟨i, e, _, Plan.getElem?_parts he hx, hid, mapping, rfl⟩

/-- The links are those between the rows of tables in the joined rows. -/
lemma mem_links (h : JoinedRun r root p db keys joined resolved s) {made : Linked} :
    made ∈ p.links (joined.map p.fragments) resolved ↔
      ∃ pair ∈ joined.zip resolved, ∃ (i : Nat) (e : PlannedEntity) (l : Link),
        p.entities[i]? = some e ∧ pair.2[i]? = some (some made.item) ∧ e.link = some l ∧
        pair.2[l.parent]? = some (some made.owner) ∧
        l.navigation = made.navigation ∧ l.kind = made.kind := by
  rw [Plan.links, List.zip_map_left, List.flatMap_map, List.mem_flatMap]
  refine exists_congr fun pair => and_congr_right fun hpair => ?_
  simp only [Prod.map_fst, Prod.map_snd, id_eq]
  rw [mem_linksOf]
  constructor
  · rintro ⟨i, e, f, l, hpart, rest⟩
    exact ⟨i, e, l, (List.getElem?_zip_eq_some.1 hpart).1, rest⟩
  · rintro ⟨i, e, l, he, hid, rest⟩
    obtain ⟨x, hx⟩ := (h.isSome_iff hpair he).1 ⟨_, hid⟩
    exact ⟨i, e, _, l, Plan.getElem?_parts he hx, hid, rest⟩

/-- Types of a plan with one name have one mapping. -/
lemma mapping_eq (h : JoinedRun r root p db keys joined resolved s) {e' : PlannedEntity}
    (he : e ∈ p.entities) (he' : e' ∈ p.entities)
    (same : e.mapping.entityType = e'.mapping.entityType) : e.mapping = e'.mapping := by
  have first := h.follows.mapped e he
  rw [same, h.follows.mapped e' he'] at first
  exact (Except.ok.inj first).symm

/-- What occurs is a row of the table of a planned type. -/
lemma stored (h : JoinedRun r root p db keys joined resolved s)
    (ho : o ∈ p.occurrences (joined.map p.fragments) resolved) :
    ∃ e ∈ p.entities, e.mapping = o.mapping ∧ o.values ∈ db e.mapping.entityType := by
  obtain ⟨pair, hpair, i, e, he, hx, _, mapping⟩ := h.mem_occurrences.1 ho
  exact ⟨e, List.mem_of_getElem? he, mapping,
    (Plan.reached_of_mem_leftJoin h.grown (h.mem_leftJoin hpair) he hx).1⟩

/-- Two occurrences are one instance exactly when they are one row of one table. -/
lemma id_eq_iff (h : JoinedRun r root p db keys joined resolved s)
    (ho : o ∈ p.occurrences (joined.map p.fragments) resolved)
    (ho' : o' ∈ p.occurrences (joined.map p.fragments) resolved) :
    o.id = o'.id ↔ o.mapping = o'.mapping ∧ o.values = o'.values := by
  obtain ⟨e, he, mapping, hx⟩ := h.stored ho
  obtain ⟨e', he', mapping', hx'⟩ := h.stored ho'
  obtain ⟨key, hkey⟩ := Option.isSome_iff_exists.1 (h.sound.keyed e he o.values hx)
  have identity : o.identity? = some ⟨e.mapping.entityType, key⟩ := by
    rw [Occurrence.identity?, EntityMapping.identity?, ← mapping, hkey]
    rfl
  constructor
  · intro same
    have equal := h.tracks.identity_eq ho ho' same
    rw [identity, Occurrence.identity?, EntityMapping.identity?, ← mapping', eq_comm] at equal
    obtain ⟨key', hkey', made⟩ := Option.map_eq_some_iff.1 equal
    obtain ⟨type, rfl⟩ := IdentityKey.mk.inj made
    -- One key in one table is one row.
    have one := h.mapping_eq he he' type.symm
    rw [← one] at hkey' hx'
    rw [← mapping, ← mapping', one]
    exact ⟨rfl, h.sound.eq_of_key?_eq he hx hx' (hkey.trans hkey'.symm)⟩
  · rintro ⟨one, values⟩
    refine h.tracks.id_eq ho ho' ⟨by rw [identity]; rfl, ?_⟩
    rw [Occurrence.identity?, Occurrence.identity?, one, values]

/-- An instance is the row that it occurs as. -/
lemma content? (h : JoinedRun r root p db keys joined resolved s)
    (ho : o ∈ p.occurrences (joined.map p.fragments) resolved) :
    s.store.content? o.id = some (o.mapping, o.values) := by
  obtain ⟨content, hc⟩ := Option.isSome_iff_exists.1
    (Store.isSome_content?_iff.2 (h.tracks.id_lt ho))
  have first := hc
  rw [h.tracks.content] at first
  obtain ⟨o', ho', rfl⟩ := Option.map_eq_some_iff.1 first
  have same := List.find?_some ho'
  rw [decide_eq_true_iff] at same
  obtain ⟨mapping, values⟩ := (h.id_eq_iff (List.mem_of_find?_eq_some ho') ho).1 same
  rw [hc, mapping, values]

/-- The instance of a row is the one that it occurs as. -/
lemma instanceOf_eq (h : JoinedRun r root p db keys joined resolved s)
    (ho : o ∈ p.occurrences (joined.map p.fragments) resolved) :
    p.instanceOf joined resolved o.mapping.entityType o.values =
      o.id := by
  rw [Plan.instanceOf]
  cases hf : (p.occurrences (joined.map p.fragments) resolved).find? fun o' =>
      o'.mapping.entityType = o.mapping.entityType ∧ o'.values = o.values with
  | none => simpa using List.find?_eq_none.1 hf o ho
  | some o' =>
    have same := List.find?_some hf
    rw [decide_eq_true_iff] at same
    have ho' := List.mem_of_find?_eq_some hf
    obtain ⟨e, he, mapping, _⟩ := h.stored ho
    obtain ⟨e', he', mapping', _⟩ := h.stored ho'
    have one := h.mapping_eq he' he (by rw [mapping, mapping', same.1])
    rw [mapping, mapping'] at one
    exact (h.id_eq_iff ho' ho).2 ⟨one, same.2⟩

/-- What a row has of a type is the instance of what it holds for that type. -/
lemma id_eq_instanceOf (h : JoinedRun r root p db keys joined resolved s)
    (hpair : pair ∈ joined.zip resolved) (hi : p.entities[i]? = some e)
    (hx : pair.1[i]? = some (some x)) {id : Nat} (hid : pair.2[i]? = some (some id)) :
    id = p.instanceOf joined resolved e.mapping.entityType x :=
  (h.instanceOf_eq (o := ⟨e.mapping, x, id⟩)
    (h.mem_occurrences.2 ⟨pair, hpair, i, e, hi, hx, hid, rfl⟩)).symm

/-- A row that is reached is an instance. -/
lemma exists_occurrence (h : JoinedRun r root p db keys joined resolved s)
    (hi : p.entities[i]? = some e) (hx : p.Reached db i x) :
    ∃ o ∈ p.occurrences (joined.map p.fragments) resolved, o.mapping = e.mapping ∧
      o.values = x := by
  obtain ⟨row, hrow, hx⟩ := hx.exists_mem_leftJoin h.grown
  obtain ⟨ids, hpair⟩ := h.exists_pair hrow
  obtain ⟨id, hid⟩ := (h.isSome_iff hpair hi).2 ⟨x, hx⟩
  exact ⟨⟨e.mapping, x, id⟩, h.mem_occurrences.2 ⟨_, hpair, i, e, hi, hx, hid, rfl⟩, rfl, rfl⟩

/-- Rows that are reached are one instance only if they are one row of one table. -/
lemma eq_of_instanceOf_eq (h : JoinedRun r root p db keys joined resolved s) {j : Nat}
    {e' : PlannedEntity} {x' : List Value} (hi : p.entities[i]? = some e)
    (hj : p.entities[j]? = some e') (hx : p.Reached db i x) (hx' : p.Reached db j x')
    (same : p.instanceOf joined resolved e.mapping.entityType x =
      p.instanceOf joined resolved e'.mapping.entityType x') :
    e.mapping = e'.mapping ∧ x = x' := by
  obtain ⟨o, ho, mapping, rfl⟩ := h.exists_occurrence hi hx
  obtain ⟨o', ho', mapping', rfl⟩ := h.exists_occurrence hj hx'
  rw [← mapping, ← mapping', h.instanceOf_eq ho, h.instanceOf_eq ho', h.id_eq_iff ho ho'] at same
  rw [← mapping, ← mapping']
  exact same

/-- What matches a row that is reached does not depend on where in the plan it is reached. -/
lemma matching_eq (h : JoinedRun r root p db keys joined resolved s) {j : Nat}
    {e' parent' : PlannedEntity} {l' : Link} (hi : p.entities[i]? = some e) (hl : e.link = some l)
    (hp : p.entities[l.parent]? = some parent) (hj : p.entities[j]? = some e')
    (hl' : e'.link = some l') (hp' : p.entities[l'.parent]? = some parent')
    (same : parent'.mapping = parent.mapping) (navigation : l'.navigation = l.navigation) :
    l'.kind = l.kind ∧ e'.mapping = e.mapping ∧
      db.matching l' parent'.mapping e'.mapping = db.matching l parent.mapping e.mapping := by
  obtain ⟨q, n, fol⟩ := h.follows.linked e (List.mem_of_getElem? hi) l hl
  obtain ⟨q', n', fol'⟩ := h.follows.linked e' (List.mem_of_getElem? hj) l' hl'
  cases hp.symm.trans fol.planned
  cases hp'.symm.trans fol'.planned
  -- Both links stand for the navigation of one name of one type.
  have one := fol'.navigation
  rw [same, navigation, fol.navigation] at one
  cases one
  have kind : l'.kind = l.kind := fol'.kind.trans fol.kind.symm
  have mapping : e'.mapping = e.mapping :=
    Except.ok.inj (fol'.related.symm.trans fol.related)
  refine ⟨kind, mapping, ?_⟩
  have compared : l'.compared? = l.compared? := by
    unfold Link.compared?
    rw [kind, navigation]
  have matched : l'.matches = l.matches := by
    unfold Link.matches
    rw [compared]
  unfold Tables.matching
  rw [matched, same, mapping]

/-- An instance is linked to the instances of the rows that match it, and to no others. -/
lemma mem_links_iff (h : JoinedRun r root p db keys joined resolved s)
    (hi : p.entities[i]? = some e) (hl : e.link = some l)
    (hp : p.entities[l.parent]? = some parent) (hb : p.Reached db l.parent before)
    {kind : IncludeKind} {item : Nat} :
    ⟨p.instanceOf joined resolved parent.mapping.entityType before,
        l.navigation, kind, item⟩ ∈ p.links (joined.map p.fragments) resolved ↔
      l.kind = kind ∧ ∃ x ∈ db.matching l parent.mapping e.mapping before,
        p.instanceOf joined resolved e.mapping.entityType x =
          item := by
  rw [h.mem_links]
  constructor
  · rintro ⟨pair, hpair, j, e', l', hj, hitem, hl', howner, navigation, rfl⟩
    dsimp only at hitem howner navigation
    have hrow := h.mem_leftJoin hpair
    obtain ⟨x, hx⟩ := (h.isSome_iff hpair hj).1 ⟨item, hitem⟩
    obtain ⟨parent', before', hp', hb', hm⟩ := Plan.exists_before h.grown hrow hj hl' hx
    have reached := (Plan.reached_of_mem_leftJoin h.grown hrow hp' hb').2
    -- The owner is the same row at both places, and so matches the same rows.
    obtain ⟨mapping, rfl⟩ := h.eq_of_instanceOf_eq hp hp' hb reached
      (h.id_eq_instanceOf hpair hp' hb' howner)
    obtain ⟨kind, one, matching⟩ := h.matching_eq hi hl hp hj hl' hp' mapping.symm navigation
    have instance_eq := h.id_eq_instanceOf hpair hj hx hitem
    rw [matching] at hm
    rw [one] at instance_eq
    exact ⟨kind.symm, x, hm, instance_eq.symm⟩
  · rintro ⟨rfl, x, hx, rfl⟩
    obtain ⟨row, hrow, hb'⟩ := hb.exists_mem_leftJoin h.grown
    have lt := h.grown.parent_lt hi hl
    have added : some x ∈ p.extensions db (row.take i) e := by
      rw [Plan.extensions_take fun l hl => h.grown.parent_lt hi hl, Plan.some_mem_extensions hl,
        Plan.candidates_eq hp hb']
      exact hx
    -- The beginning of a row with the owner goes on with every row that matches it.
    obtain ⟨row', hrow', front, hx'⟩ :=
      Plan.exists_mem_leftJoin h.grown (Plan.take_mem_joinAll hrow i) hi added
    have hb'' : row'[l.parent]? = some (some before) := by
      rw [← hb', ← List.getElem?_take_of_lt lt, front, List.getElem?_take_of_lt lt]
    obtain ⟨ids, hpair⟩ := h.exists_pair hrow'
    obtain ⟨item, hitem⟩ := (h.isSome_iff hpair hi).2 ⟨x, hx'⟩
    obtain ⟨owner, howner⟩ := (h.isSome_iff hpair hp).2 ⟨before, hb''⟩
    rw [← h.id_eq_instanceOf hpair hi hx' hitem, ← h.id_eq_instanceOf hpair hp hb'' howner]
    exact ⟨_, hpair, i, e, l, hi, hitem, hl, howner, rfl, rfl⟩

end JoinedRun

end RelMap
