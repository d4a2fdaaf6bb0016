import RelMap.Proofs.Graph.Tracks
import RelMap.Proofs.Include.Plan

/-!
# Whole rows

What is true of the occurrences and links of single parts, put together for rows and for all rows.
-/

namespace RelMap

section
variable {done parts : List (PlannedEntity × Fragment)} {before resolved more : List (Option Nat)}
variable {e : PlannedEntity} {f : Fragment} {id : Option Nat}

/-- What comes behind does not matter to a part that hangs off one before it. -/
lemma linked?_append (nested : ∀ l, e.link = some l → l.parent < before.length) :
    linked? (before ++ more) e id = linked? before e id := by
  unfold linked?
  cases hl : e.link with
  | none => rfl
  | some l =>
    dsimp only [Option.bind_eq_bind, Option.bind_some]
    rw [List.getElem?_append_left (nested l hl)]

/-- One more part is one more occurrence, if it is an instance. -/
lemma occurrencesOf_concat (length : done.length = before.length) :
    occurrencesOf (done ++ [(e, f)]) (before ++ [id]) =
      occurrencesOf done before ++ (id.map (⟨e.mapping, f.values, ·⟩)).toList := by
  unfold occurrencesOf
  rw [List.zip_append length, List.filterMap_append]
  cases id <;> rfl

/-- One more part is one more link, if it is an instance that hangs off another. -/
lemma linksOf_concat (length : done.length = before.length) (nested : Nested (done ++ [(e, f)])) :
    linksOf (done ++ [(e, f)]) (before ++ [id]) =
      linksOf done before ++ (linked? before e id).toList := by
  unfold linksOf
  rw [List.zip_append length, List.filterMap_append]
  congr 1
  · refine List.filterMap_congr fun part hp => ?_
    obtain ⟨⟨e', f'⟩, id'⟩ := part
    obtain ⟨i, hi, eq⟩ := List.mem_iff_getElem.1 hp
    rw [List.length_zip, length, Nat.min_self] at hi
    refine linked?_append fun l hl => Nat.lt_trans (nested i e' f' l ?_ hl) hi
    rw [List.getElem?_append_left (length ▸ hi), List.getElem?_eq_getElem (length ▸ hi)]
    rw [List.getElem_zip, Prod.mk.injEq] at eq
    rw [eq.1]
  · have bound : ∀ l, e.link = some l → l.parent < before.length := fun l hl =>
      length ▸ nested done.length e f l (List.getElem?_concat_length ..) hl
    simp only [List.zip_cons_cons, List.zip_nil_right, List.filterMap_cons, List.filterMap_nil,
      linked?_append bound]
    cases linked? before e id <;> rfl

/-- A part is reached exactly when the part that it hangs off, if any, is an instance. -/
lemma isReached_iff {e : PlannedEntity} {before : List (Option Nat)} :
    e.isReached (before.map (·.isSome)) = true ↔
      ∀ l, e.link = some l → (before[l.parent]?).join.isSome := by
  cases hl : e.link with
  | none => simp [PlannedEntity.isReached, hl]
  | some l => simp [Tracks.isReached_map hl]

/-- One more part keeps exactly the present parts resolved. -/
lemma ResolvesPresent.concat (h : ResolvesPresent done before) (nested : Nested (done ++ [(e, f)]))
    (hid : id.isSome = (e.isReached (before.map (·.isSome)) && !f.isAllNull)) :
    ResolvesPresent (done ++ [(e, f)]) (before ++ [id]) := by
  obtain ⟨length, present⟩ := h
  have parents (i : Nat) (e' : PlannedEntity) (f' : Fragment) (l : Link) (hi : i ≤ before.length)
      (at_i : (done ++ [(e, f)])[i]? = some (e', f')) (hl : e'.link = some l) :
      (before ++ [id])[l.parent]? = before[l.parent]? :=
    List.getElem?_append_left (Nat.lt_of_lt_of_le (nested i e' f' l at_i hl) hi)
  refine ⟨by simp [length], fun i e' f' at_i => ?_⟩
  rcases getElem?_concat_eq_some.1 at_i with old | ⟨rfl, last⟩
  · have lt : i < before.length := length ▸ (List.getElem?_eq_some_iff.1 old).1
    rw [List.getElem?_append_left lt, present i e' f' old]
    refine and_congr_right fun _ => forall_congr' fun l => imp_congr_right fun hl => ?_
    rw [parents i e' f' l (Nat.le_of_lt lt) at_i hl]
  · cases last
    have found : (before ++ [id])[done.length]? = some id := by
      rw [← length, List.getElem?_concat_length]
    rw [found, Option.join_some, hid, Bool.and_eq_true, Bool.not_eq_true', isReached_iff, and_comm]
    refine and_congr_right fun _ => forall_congr' fun l => imp_congr_right fun hl => ?_
    rw [parents _ e f l (Nat.le_of_eq length.symm) at_i hl]

/-- Every instance of a row's parts occurs in the row. -/
lemma exists_occurrence (length : done.length = before.length) {i : Nat} (h : some i ∈ before) :
    ∃ o ∈ occurrencesOf done before, o.id = i := by
  obtain ⟨n, hn⟩ := List.getElem?_of_mem h
  have hd : n < done.length := length ▸ (List.getElem?_eq_some_iff.1 hn).1
  exact ⟨⟨done[n].1.mapping, done[n].2.values, i⟩,
    mem_occurrencesOf.2 ⟨n, _, _, List.getElem?_eq_getElem hd, hn, rfl, rfl⟩, rfl⟩

/-- The parts of a row that are resolved are occurrences and links, behind those before them. -/
lemma Tracks.resolveParts {keys : List IdentityKey} {occurrences : List Occurrence}
    {links : List Linked} {s t : RunState}
    (h : Tracks keys (occurrences ++ occurrencesOf done before) (links ++ linksOf done before) s)
    (present : ResolvesPresent done before) (nested : Nested (done ++ parts))
    (hr : s.resolveParts before parts = .ok (resolved, t))
    (hk : ∀ part ∈ presentParts (before.map (·.isSome)) parts, ∀ key,
      part.1.mapping.identity? part.2.values = some key → key ∈ keys) :
    ResolvesPresent (done ++ parts) resolved ∧
      Tracks keys (occurrences ++ occurrencesOf (done ++ parts) resolved)
        (links ++ linksOf (done ++ parts) resolved) t := by
  -- By induction on the parts that are left; those that are done grow at their end.
  induction parts generalizing done before s with
  | nil =>
    cases hr
    rw [List.append_nil]
    exact ⟨present, h⟩
  | cons part rest ih =>
    obtain ⟨e, f⟩ := part
    obtain ⟨⟨id, u⟩, hid, hr⟩ := bind_eq_ok.1 hr
    have length : done.length = before.length := present.1.symm
    have split : done ++ (e, f) :: rest = done ++ [(e, f)] ++ rest := by simp
    have nested' : Nested (done ++ [(e, f)]) := by
      intro i e' f' l hi
      refine nested i e' f' l ?_
      rw [split, List.getElem?_append_left (List.getElem?_eq_some_iff.1 hi).1, hi]
    obtain ⟨isSome, next⟩ := h.resolvePart
      (fun i hi => by
        obtain ⟨o, ho, same⟩ := exists_occurrence length hi
        exact ⟨o, List.mem_append_right _ ho, same⟩)
      hid
      (fun reached some => hk (e, f) (by simp [presentParts, reached, some]))
    rw [List.append_assoc, ← occurrencesOf_concat length, List.append_assoc,
      ← linksOf_concat length nested'] at next
    rw [split] at nested ⊢
    refine ih next (present.concat nested' isSome) nested hr fun part hp => hk part ?_
    rw [List.map_append, List.map_singleton, isSome] at hp
    unfold presentParts
    split
    next here =>
      rw [here] at hp
      exact List.mem_cons_of_mem _ hp
    next absent =>
      rw [Bool.not_eq_true] at absent
      rw [absent] at hp
      exact hp

end

namespace Plan

variable {p : Plan}

/-- The parts of a row with the types that they belong to. -/
def parts (p : Plan) (fragments : List Fragment) : List (PlannedEntity × Fragment) :=
  p.entities.zip fragments

/-- The occurrences in several rows, given the instances of their parts. -/
def occurrences (p : Plan) (rows : List (List Fragment)) (resolved : List (List (Option Nat))) :
    List Occurrence :=
  (rows.zip resolved).flatMap fun row => occurrencesOf (p.parts row.1) row.2

/-- The links that several rows ask for, given the instances of their parts. -/
def links (p : Plan) (rows : List (List Fragment)) (resolved : List (List (Option Nat))) :
    List Linked :=
  (rows.zip resolved).flatMap fun row => linksOf (p.parts row.1) row.2

/-- The types and keys in the parts of rows that become instances. -/
def identities (p : Plan) (rows : List (List Fragment)) : List IdentityKey :=
  rows.flatMap fun fragments => identitiesOf (p.parts fragments)

/-- In a plan every part of a row hangs off one before it. -/
lemma nested_parts {r : Registry} {root : EntityMapping}
    (grown : PlanDraft.Grown r root ⟨p.entities, p.joins⟩) (fragments : List Fragment) :
    Nested (p.parts fragments) := by
  intro i e f l hi hl
  exact grown.parent_lt (List.getElem?_zip_eq_some.1 hi).1 hl

end Plan

/-- The root instances of rows, given the instances of their parts. -/
def rootIds (resolved : List (List (Option Nat))) : List Nat :=
  resolved.filterMap fun row => row.head?.join

/-- The key of an instance. -/
def Store.key? (s : Store) (id : Nat) : Option (List Value) :=
  (s.content? id).bind fun content => content.1.key? content.2

/-- The roots seen so far: each instance once, and the keys of those that have one. -/
structure Seen (p : Plan) (occurrences : List Occurrence) (s : Store) (roots : Run.Roots)
    (ids : List Nat) : Prop where
  /-- Each root instance was seen once. -/
  once : roots.ids = ids.eraseDups
  /-- The keys are those of the root instances. -/
  keyed : ∀ key, key ∈ roots.keys ↔ ∃ id ∈ ids, s.key? id = some key
  /-- The root instances occurred as such. -/
  occurs : ∀ id ∈ ids, ∃ o ∈ occurrences, o.id = id ∧ o.mapping = p.root

section
variable {p : Plan} {keys : List IdentityKey} {occurrences more : List Occurrence}
variable {links links' : List Linked} {s t : RunState} {roots : Run.Roots} {ids : List Nat}

/-- The key of an instance is that of each of its occurrences. -/
lemma Tracks.key?_eq {o : Occurrence} (h : Tracks keys occurrences links s) (ho : o ∈ occurrences) :
    s.store.key? o.id = o.mapping.key? o.values := by
  obtain ⟨content, hc⟩ := Option.isSome_iff_exists.1 (Store.isSome_content?_iff.2 (h.id_lt ho))
  have first := hc
  rw [h.content] at first
  obtain ⟨f, hf, rfl⟩ := Option.map_eq_some_iff.1 first
  have same := List.find?_some hf
  rw [decide_eq_true_iff] at same
  have identity := h.identity_eq (List.mem_of_find?_eq_some hf) ho same
  have key := congrArg (Option.map IdentityKey.key) identity
  rw [Store.key?, hc]
  simpa [Occurrence.identity?, EntityMapping.identity?, Option.map_map, Function.comp_def] using key

lemma Seen.start : Seen p [] s.store {} [] where
  once := rfl
  keyed := fun key => by simp
  occurs := List.forall_mem_nil _

/-- What was seen stays seen when more occurs. -/
lemma Seen.mono (seen : Seen p occurrences s.store roots ids) (h : Tracks keys occurrences links s)
    (h' : Tracks keys (occurrences ++ more) links' t) :
    Seen p (occurrences ++ more) t.store roots ids where
  once := seen.once
  keyed := fun key => by
    rw [seen.keyed]
    refine exists_congr fun id => and_congr_right fun hid => ?_
    obtain ⟨o, ho, rfl, _⟩ := seen.occurs id hid
    rw [h.key?_eq ho, h'.key?_eq (List.mem_append_left _ ho)]
  occurs := fun id hid => by
    obtain ⟨o, ho, same⟩ := seen.occurs id hid
    exact ⟨o, List.mem_append_left _ ho, same⟩

/-- Seeing one more root keeps each root once. -/
lemma Seen.see (seen : Seen p occurrences s.store roots ids) (h : Tracks keys occurrences links s)
    {o : Occurrence} (ho : o ∈ occurrences) (root : o.mapping = p.root) :
    Seen p occurrences s.store (roots.see o.id (s.store.key? o.id)) (ids ++ [o.id]) := by
  have occurs : ∀ id ∈ ids ++ [o.id], ∃ o ∈ occurrences, o.id = id ∧ o.mapping = p.root := by
    intro id hid
    rcases List.mem_append.1 hid with hid | hid
    · exact seen.occurs id hid
    · cases List.mem_singleton.1 hid
      exact ⟨o, ho, rfl, root⟩
  have keyed (key : List Value) : (∃ id ∈ ids ++ [o.id], s.store.key? id = some key) ↔
      key ∈ roots.keys ∨ s.store.key? o.id = some key := by
    rw [seen.keyed]
    simp [or_and_right, exists_or]
  unfold Run.Roots.see
  cases hk : s.store.key? o.id with
  | some k =>
    -- Two roots of one key are one instance, so looking for the key finds the instance.
    have known : k ∈ roots.keys ↔ o.id ∈ ids := by
      rw [seen.keyed]
      constructor
      · rintro ⟨id, hid, hkey⟩
        obtain ⟨o', ho', rfl, root'⟩ := seen.occurs id hid
        rw [h.key?_eq ho'] at hkey
        rw [h.key?_eq ho] at hk
        have alike : o'.Alike o := by
          rw [Occurrence.Alike, Occurrence.identity?, Occurrence.identity?,
            EntityMapping.identity?, EntityMapping.identity?, hkey, hk, root, root']
          exact ⟨rfl, rfl⟩
        exact h.id_eq ho' ho alike ▸ hid
      · exact fun hid => ⟨o.id, hid, hk⟩
    dsimp only
    split
    next old =>
      refine ⟨?_, fun key => ?_, occurs⟩
      · rw [eraseDups_concat, if_pos (known.1 old), seen.once]
      · rw [keyed, hk, Option.some.injEq]
        exact ⟨.inl, fun either => either.elim id fun same => same ▸ old⟩
    next new =>
      refine ⟨?_, fun key => ?_, occurs⟩
      · rw [eraseDups_concat, if_neg fun hid => new (known.2 hid), seen.once]
      · rw [keyed, hk, Option.some.injEq, List.mem_append, List.mem_singleton, eq_comm (a := key)]
  | none =>
    dsimp only
    have same (key) : key ∈ roots.keys ↔ ∃ id ∈ ids ++ [o.id], s.store.key? id = some key := by
      rw [keyed, hk]
      simp
    split
    next old =>
      rw [seen.once, List.mem_eraseDups] at old
      exact ⟨by rw [eraseDups_concat, if_pos old, seen.once], same, occurs⟩
    next new =>
      rw [seen.once, List.mem_eraseDups] at new
      exact ⟨by rw [eraseDups_concat, if_neg new, seen.once], same, occurs⟩

lemma Store.key?_eq (s : Store) (id : Nat) : s.key? id = (s.get? id).bind Instance.key? := by
  unfold Store.key? Store.content?
  cases s.get? id <;> rfl

/-- A root instance is an occurrence of the root type. -/
lemma exists_root_occurrence {r : Registry} {root : EntityMapping} (hp : p.root = root)
    (grown : PlanDraft.Grown r root ⟨p.entities, p.joins⟩) {fragments : List Fragment}
    {resolved : List (Option Nat)} {id : Nat}
    (length : resolved.length = (p.parts fragments).length) (h : resolved.head?.join = some id) :
    ∃ o ∈ occurrencesOf (p.parts fragments) resolved, o.id = id ∧ o.mapping = p.root := by
  obtain ⟨e, he, mapping, _⟩ := grown.first
  rw [List.head?_eq_getElem?, Option.join_eq_some_iff] at h
  have lt : 0 < (p.parts fragments).length := length ▸ (List.getElem?_eq_some_iff.1 h).1
  have part := List.getElem?_eq_getElem lt
  have at_root := (List.getElem?_zip_eq_some.1 part).1
  cases he.symm.trans at_root
  exact ⟨⟨_, _, id⟩, mem_occurrencesOf.2 ⟨0, _, _, part, h, rfl, rfl⟩, rfl, mapping.trans hp.symm⟩

/-- What a run of several rows keeps true, and what the rows are. -/
lemma Tracks.rows {r : Registry} {root : EntityMapping} (hp : p.root = root)
    (grown : PlanDraft.Grown r root ⟨p.entities, p.joins⟩)
    {given : List (Except Error (List Fragment))} {result : Run.Roots}
    (h : Tracks keys occurrences links s) (seen : Seen p occurrences s.store roots ids)
    (hr : (Run.rows p roots given).run.run s = (.ok result, t))
    (hk : ∀ fragments, .ok fragments ∈ given → ∀ key ∈ identitiesOf (p.parts fragments),
      key ∈ keys) :
    ∃ (rows : List (List Fragment)) (resolved : List (List (Option Nat))),
      given = rows.map .ok ∧ resolved.length = rows.length ∧
      (∀ fragments ∈ rows, fragments.length = p.entities.length) ∧
      (∀ row ∈ rows.zip resolved, ResolvesPresent (p.parts row.1) row.2) ∧
      Tracks keys (occurrences ++ p.occurrences rows resolved)
        (links ++ p.links rows resolved) t ∧
      result.ids = (ids ++ rootIds resolved).eraseDups := by
  -- By induction on the rows that are left; what was seen of the others grows with each.
  induction given generalizing occurrences links s roots ids with
  | nil =>
    cases hr
    refine ⟨[], [], rfl, rfl, List.forall_mem_nil _, List.forall_mem_nil _, ?_, ?_⟩
    · simpa [Plan.occurrences, Plan.links] using h
    · simpa [rootIds] using seen.once
  | cons r rest ih =>
    obtain ⟨fragments, top, u, rfl, hrow, hrest⟩ := Run.run_rows_cons_eq_ok.1 hr
    obtain ⟨width, row, hparts, rfl⟩ := Run.run_row_eq_ok.1 hrow
    change s.resolveParts [] (p.parts fragments) = _ at hparts
    have start : Tracks keys (occurrences ++ occurrencesOf [] []) (links ++ linksOf [] []) s := by
      simpa [occurrencesOf, linksOf] using h
    have nested : Nested ([] ++ p.parts fragments) := p.nested_parts grown fragments
    have known := hk fragments (List.mem_cons_self ..)
    obtain ⟨present, next⟩ := start.resolveParts ⟨rfl, fun _ _ _ h => by cases h⟩ nested hparts
      fun part hpart key hkey => known key (List.mem_filterMap.2 ⟨part, hpart, hkey⟩)
    rw [List.nil_append] at present next
    have seen' := seen.mono h next
    -- A row with a root shows it, and any other row shows nothing new.
    have seen'' : Seen p (occurrences ++ occurrencesOf (p.parts fragments) row) u.store
        (row.head?.join.elim roots fun id => roots.see id ((u.store.get? id).bind Instance.key?))
        (ids ++ row.head?.join.toList) := by
      cases top : row.head?.join with
      | none => simpa using seen'
      | some id =>
        obtain ⟨o, ho, rfl, mapping⟩ := exists_root_occurrence hp grown present.1 top
        rw [Option.elim_some, ← Store.key?_eq]
        exact seen'.see next (List.mem_append_right _ ho) mapping
    obtain ⟨rows, resolved, rfl, length, widths, presents, tracks, result⟩ :=
      ih next seen'' hrest fun fragments hf => hk fragments (List.mem_cons_of_mem _ hf)
    refine ⟨fragments :: rows, row :: resolved, rfl, by simp [length], ?_, ?_, ?_, ?_⟩
    · intro fragments' hf
      rcases List.mem_cons.1 hf with rfl | hf
      · exact width
      · exact widths fragments' hf
    · intro row' hrow'
      rcases List.mem_cons.1 hrow' with rfl | hrow'
      · exact present
      · exact presents row' hrow'
    · simpa [Plan.occurrences, Plan.links, List.append_assoc] using tracks
    · rw [result, List.append_assoc]
      cases top : row.head?.join <;> simp [rootIds, top]

end

end RelMap
