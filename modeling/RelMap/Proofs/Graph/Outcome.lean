import RelMap.Proofs.Graph.Blocking
import RelMap.Proofs.Graph.Materialize
import Mathlib.Data.List.Forall2

/-!
# How a run ends

Whether a run over some rows fails, and with which error, can be read off the rows: the first part
that should become an instance but lacks the key of its type, or the first row that does not fit.
The same is true of the keys of the roots. What the identity cache evicts plays no role in either,
unless the plan mixes what goes to a collection: then it decides whether the run waits for itself.
-/

namespace RelMap

/-- Why a part cannot become an instance: its type has a key and the part has none. -/
def partFault? (part : PlannedEntity × Fragment) : Option Error :=
  if part.1.mapping.isKeyless ∨ (part.1.mapping.key? part.2.values).isSome then none
  else some (.mapping part.1.mapping.entityType (.nullKey part.1.mapping.keys))

/-- Whether a part becomes an instance, given which of those before it do. -/
def isPresent (before : List Bool) (part : PlannedEntity × Fragment) : Bool :=
  part.1.isReached before && !part.2.isAllNull

/-- The fault of the first part of a row that should become an instance and cannot. -/
def Plan.rowFault? (p : Plan) (fragments : List Fragment) : Option Error :=
  if fragments.length ≠ p.entities.length then
    some (.mapping p.root.entityType (.fragmentCount fragments.length p.entities.length))
  else (presentParts [] (p.parts fragments)).findSome? partFault?

/-- The fault of the first row that cannot be split or has a part that cannot be resolved. -/
def Plan.fault? (p : Plan) (given : List (Except Error (List Fragment))) : Option Error :=
  given.findSome? fun
    | .error e => some e
    | .ok fragments => p.rowFault? fragments

/-- The root part of a row, unless it is all null. -/
def rootPart? (fragments : List Fragment) : Option Fragment :=
  fragments.head?.filter (!·.isAllNull)

lemma findSome?_presentParts {before : List Bool} {part : PlannedEntity × Fragment}
    {rest : List (PlannedEntity × Fragment)} :
    (presentParts before (part :: rest)).findSome? partFault? =
      (if isPresent before part then partFault? part else none).or
        ((presentParts (before ++ [isPresent before part]) rest).findSome? partFault?) := by
  obtain ⟨e, f⟩ := part
  rw [presentParts, isPresent]
  cases e.isReached before && !f.isAllNull with
  | true =>
    rw [if_pos rfl, if_pos rfl, List.findSome?_cons]
    cases partFault? (e, f) <;> rfl
  | false => rfl

namespace Run

variable {α β : Type} {s t : RunState} {waits : Nat → RunState → Prop}
variable {fault? fault'? : Option Error}

/--
How a run ends: with a fault if there is one, and otherwise with a result that is right. Before that
it may come to wait for an instance, in a state in which there is a reason for it.
-/
def Ends (m : Run α) (s : RunState) (waits : Nat → RunState → Prop) (fault? : Option Error)
    (right : α → RunState → Prop) : Prop :=
  match m.run.run s with
  | (.error (.blocked owner), t) => waits owner t
  | (.error (.fault e), _) => fault? = some e
  | (.ok a, t) => fault? = none ∧ right a t

variable {m : Run α} {right : α → RunState → Prop} {right' : β → RunState → Prop}

lemma Ends.pure {a : α} (h : right a s) : Ends (pure a) s waits none right := ⟨rfl, h⟩

lemma Ends.throw (e : Error) : Ends (throw (.fault e) : Run α) s waits (some e) right := rfl

lemma Ends.imp (h : Ends m s waits fault? right) {weaker : α → RunState → Prop}
    (imp : ∀ a t, right a t → weaker a t) : Ends m s waits fault? weaker := by
  unfold Ends at h ⊢
  generalize m.run.run s = result at h ⊢
  obtain ⟨(_ | _) | a, t⟩ := result
  · exact h
  · exact h
  · exact ⟨h.1, imp a t h.2⟩

/-- A chain of two steps ends with the fault of the first, or with that of the second after it. -/
lemma Ends.bind {f : α → Run β} (h : Ends m s waits fault? right)
    (h' : ∀ a t, right a t → Ends (f a) t waits fault'? right') :
    Ends (m >>= f) s waits (fault?.or fault'?) right' := by
  unfold Ends at h ⊢
  rw [run_bind]
  generalize m.run.run s = result at h ⊢
  obtain ⟨(e | _) | a, t⟩ := result
  · obtain rfl : fault? = some e := h
    rfl
  · exact h
  · obtain ⟨rfl, done⟩ := h
    exact h' a t done

/-- A run that does not wait for itself and has no fault succeeds. -/
lemma Ends.exists_ok (h : Ends m s waits none right) (apart : ∀ i t, ¬waits i t) :
    ∃ a t, m.run.run s = (.ok a, t) ∧ right a t := by
  unfold Ends at h
  rcases hr : m.run.run s with ⟨(_ | _) | a, t⟩
  · rw [hr] at h
    cases h
  · rw [hr] at h
    exact absurd h (apart _ _)
  · rw [hr] at h
    exact ⟨a, t, rfl, h.2⟩

/-- A run that does not wait for itself and has a fault fails with it. -/
lemma Ends.exists_error {e : Error} (h : Ends m s waits (some e) right)
    (apart : ∀ i t, ¬waits i t) : ∃ t, m.run.run s = (.error (.fault e), t) := by
  unfold Ends at h
  rcases hr : m.run.run s with ⟨(_ | _) | a, t⟩
  · rw [hr] at h
    cases h
    exact ⟨t, rfl⟩
  · rw [hr] at h
    exact absurd h (apart _ _)
  · rw [hr] at h
    cases h.1

/-- A step after one that cannot fail. -/
lemma Ends.bind_right {f : α → Run β} (h : Ends m s waits none right)
    (h' : ∀ a t, right a t → Ends (f a) t waits fault? right') :
    Ends (m >>= f) s waits fault? right' := by
  have both := h.bind h'
  rwa [Option.none_or] at both

/-- A step before one that cannot fail. -/
lemma Ends.bind_left {f : α → Run β} (h : Ends m s waits fault? right)
    (h' : ∀ a t, right a t → Ends (f a) t waits none right') :
    Ends (m >>= f) s waits fault? right' := by
  have both := h.bind h'
  rwa [Option.or_none] at both

end Run

namespace RunState

variable {p : Plan} {s t u : RunState} {before : List (Option Nat)}

/-- What a step does that fills collections as the plan says and keeps the instances. -/
structure Keeps (p : Plan) (s t : RunState) : Prop where
  filled : t.Filled p
  within : s.store.Within t.store

lemma Keeps.refl (h : s.Filled p) : s.Keeps p s := ⟨h, .refl⟩

lemma Keeps.trans (h : s.Keeps p t) (h' : t.Keeps p u) : s.Keeps p u :=
  ⟨h'.filled, h.within.trans h'.within⟩

/-- The instances of the first parts of a row are of the types that the plan has there. -/
def Knows (p : Plan) (s : RunState) (before : List (Option Nat)) : Prop :=
  ∀ i id : Nat, before[i]? = some (some id) →
    ∃ (e : PlannedEntity) (f : Fragment),
      p.entities[i]? = some e ∧ s.store.Bears e.mapping f id

lemma Knows.nil : s.Knows p [] := by
  intro i id h
  cases h

/-- One more part has an instance of its type, or none. -/
lemma Knows.concat (h : s.Knows p before) (within : s.store.Within t.store) {e : PlannedEntity}
    {f : Fragment} {id : Option Nat} (he : p.entities[before.length]? = some e)
    (hid : ∀ i, id = some i → t.store.Bears e.mapping f i) : t.Knows p (before ++ [id]) := by
  intro i j hj
  rcases getElem?_concat_eq_some.1 hj with old | ⟨rfl, last⟩
  · obtain ⟨e', f', he', bears⟩ := h i j old
    exact ⟨e', f', he', bears.mono within⟩
  · exact ⟨e, f, he, hid j last⟩

end RunState

namespace Run

variable {p : Plan} {s : RunState} {e : PlannedEntity} {f : Fragment} {before : List (Option Nat)}

/-- A part becomes an instance with its key unless it lacks one. -/
lemma ends_resolve (h : s.Filled p) (e : PlannedEntity) (f : Fragment) :
    Ends (resolve e.mapping f) s (RunState.WaitsFor p) (partFault? (e, f)) fun id t =>
      s.Keeps p t ∧ t.store.Bears e.mapping f id ∧
        (e.mapping.isKeyless = true → id = s.store.nextId) := by
  have ends {id t} (hr : s.resolve e.mapping f = .ok (id, t)) :
      Ends (resolve e.mapping f) s (RunState.WaitsFor p) none fun id t =>
        s.Keeps p t ∧ t.store.Bears e.mapping f id ∧
          (e.mapping.isKeyless = true → id = s.store.nextId) := by
    obtain ⟨filled, within, bears, fresh⟩ := h.resolve hr
    unfold Ends
    rw [run_resolve_eq_ok.2 hr]
    exact ⟨rfl, ⟨filled, within⟩, bears, fresh⟩
  unfold partFault?
  split
  next fits =>
    cases keyless : e.mapping.isKeyless with
    | true =>
      have created : s.resolve e.mapping f = .ok (s.store.nextId,
          { s with store := s.store.add { mapping := e.mapping, values := f.values } }) := by
        rw [RunState.resolve, if_pos keyless]
      exact keyless ▸ ends created
    | false =>
      obtain ⟨key, hkey⟩ := Option.isSome_iff_exists.1 (fits.resolve_left (by rw [keyless]; nofun))
      have identity : e.mapping.identity? f.values = some ⟨e.mapping.entityType, key⟩ := by
        rw [EntityMapping.identity?, hkey]
        rfl
      obtain ⟨id, t, hr⟩ := RunState.exists_resolve_of_identity keyless identity s
      exact keyless ▸ ends hr
  next fault =>
    rw [not_or, Option.not_isSome_iff_eq_none] at fault
    rw [resolve, if_neg fault.1, fault.2]
    exact .throw _

/-- A link is made, unless the run waits for the owner because of what the plan mixes. -/
lemma ends_link (h : s.Filled p) {parent : PlannedEntity} {l : Link} {f' : Fragment}
    {owner item : Nat} (he : e ∈ p.entities) (hl : e.link = some l)
    (hp : p.entities[l.parent]? = some parent) (howner : s.store.Bears parent.mapping f' owner)
    (hitem : s.store.Bears e.mapping f item) (apart : e.mapping.isKeyless = true → item ≠ owner) :
    Ends (link owner l item) s (RunState.WaitsFor p) none fun _ t => s.Keeps p t := by
  unfold Ends
  rw [run_link]
  cases made : s.link owner l item with
  | ok t =>
    rw [RunState.eq_attach_of_link hitem.valid made]
    exact ⟨rfl, h.attach he hl hp howner hitem apart, Store.within_attach⟩
  | error halt =>
    unfold RunState.link at made
    split at made
    next => cases made
    next waits =>
      cases made
      exact h.waitsFor_of_link he hl hp howner hitem apart waits

/-- A part becomes an instance if it is reached and not all null, unless it lacks a key. -/
lemma ends_resolvePart (h : s.Filled p) (known : s.Knows p before) (he : e ∈ p.entities) :
    Ends (resolvePart e f before) s (RunState.WaitsFor p)
      (if isPresent (before.map (·.isSome)) (e, f) then partFault? (e, f) else none) fun id t =>
        s.Keeps p t ∧ id.isSome = isPresent (before.map (·.isSome)) (e, f) ∧
          ∀ i, id = some i → t.store.Bears e.mapping f i := by
  have absent : Ends (pure none) s (RunState.WaitsFor p) none fun (id : Option Nat) t =>
      s.Keeps p t ∧ id.isSome = false ∧ ∀ i, id = some i → t.store.Bears e.mapping f i :=
    .pure ⟨.refl h, rfl, nofun⟩
  unfold resolvePart isPresent
  cases hl : e.link with
  | none =>
    have reached : e.isReached (before.map (·.isSome)) = true := by
      rw [PlannedEntity.isReached, hl]
    rw [reached, Bool.true_and]
    cases f.isAllNull with
    | true => exact absent
    | false =>
      refine (ends_resolve h e f).bind_left fun id t done => .pure ⟨done.1, rfl, ?_⟩
      rintro _ ⟨⟩
      exact done.2.1
  | some l =>
    rw [Tracks.isReached_map hl]
    dsimp only
    cases howner : (before[l.parent]?).join with
    | none => exact absent
    | some owner =>
      rw [Option.isSome_some, Bool.true_and]
      cases f.isAllNull with
      | true => exact absent
      | false =>
        obtain ⟨parent, f', hp, bears⟩ := known _ _ (Option.join_eq_some_iff.1 howner)
        refine (ends_resolve h e f).bind_left fun id t done => ?_
        obtain ⟨keeps, key, fresh⟩ := done
        -- An instance without a key is new, and its owner is not.
        have apart (keyless : e.mapping.isKeyless = true) : id ≠ owner :=
          fresh keyless ▸ (Nat.ne_of_lt bears.valid).symm
        have linked := ends_link keeps.filled he hl hp (bears.mono keeps.within) key apart
        refine linked.bind_left fun _ u done => .pure ⟨keeps.trans done, rfl, ?_⟩
        rintro _ ⟨⟩
        exact key.mono done.within

/-- The parts of a row become instances, unless one of those that should lacks a key. -/
lemma ends_resolveParts (h : s.Filled p) (known : s.Knows p before) {fragments : List Fragment}
    {done parts : List (PlannedEntity × Fragment)} (row : p.parts fragments = done ++ parts)
    (length : done.length = before.length) :
    Ends (resolveParts before parts) s (RunState.WaitsFor p)
      ((presentParts (before.map (·.isSome)) parts).findSome? partFault?) fun resolved t =>
        s.Keeps p t ∧ before <+: resolved := by
  induction parts generalizing s before done with
  | nil => exact .pure ⟨.refl h, List.prefix_rfl⟩
  | cons part rest ih =>
    obtain ⟨e, f⟩ := part
    have here : (p.parts fragments)[before.length]? = some (e, f) := by
      rw [row, ← length, List.getElem?_append_right (Nat.le_refl _), Nat.sub_self]
      rfl
    have he := (List.getElem?_zip_eq_some.1 here).1
    rw [findSome?_presentParts, resolveParts]
    refine (ends_resolvePart h known (List.mem_of_getElem? he)).bind fun id t made => ?_
    obtain ⟨keeps, isSome, bears⟩ := made
    rw [← isSome, ← List.map_singleton, ← List.map_append]
    rw [List.append_cons] at row
    refine (ih keeps.filled (known.concat keeps.within he bears) row (by simp [length])).imp ?_
    exact fun resolved u made =>
      ⟨keeps.trans made.1, (List.prefix_append ..).trans made.2⟩

/-- A row has a root exactly when its root part is not all null, and the root has its key. -/
lemma ends_row {r : Registry} (grown : PlanDraft.Grown r p.root ⟨p.entities, p.joins⟩)
    (h : s.Filled p) (fragments : List Fragment) :
    Ends (row p fragments) s (RunState.WaitsFor p) (p.rowFault? fragments) fun top t =>
      s.Keeps p t ∧ Option.Rel (t.store.Bears p.root) (rootPart? fragments) top := by
  unfold row Plan.rowFault?
  split
  next => exact .throw _
  next width =>
    obtain ⟨e, es, entities, mapping, link, -⟩ := grown.head
    dsimp only at entities
    cases fragments with
    | nil =>
      rw [entities] at width
      exact absurd (Nat.zero_ne_add_one es.length) width
    | cons f fs =>
      have parts : p.parts (f :: fs) = [(e, f)] ++ es.zip fs := by
        rw [Plan.parts, entities]
        rfl
      have first : p.entities[0]? = some e := by
        rw [entities]
        rfl
      change Ends (resolveParts [] (p.parts (f :: fs)) >>= _) s _ _ _
      rw [parts, List.singleton_append, findSome?_presentParts]
      -- The root is resolved first, and what is resolved behind it leaves it the first.
      refine Ends.bind_left ?_ fun resolved t done => .pure done
      refine (ends_resolvePart h .nil (List.mem_of_getElem? first)).bind fun id t done => ?_
      obtain ⟨keeps, isSome, bears⟩ := done
      rw [List.map_nil] at isSome
      rw [← isSome]
      have start : s.Knows p [] := .nil
      have known : t.Knows p ([] ++ [id]) := start.concat keeps.within first bears
      refine (ends_resolveParts keeps.filled known parts rfl).imp ?_
      rintro _ u ⟨more, rest, rfl⟩
      refine ⟨keeps.trans more, ?_⟩
      have present : id.isSome = !f.isAllNull := by
        rw [isSome, isPresent, PlannedEntity.isReached, link]
        rfl
      unfold rootPart?
      cases id with
      | none =>
        rw [List.head?_cons, Option.filter_some, ← present, Option.isSome_none,
          if_neg Bool.false_ne_true]
        exact .none
      | some i =>
        rw [List.head?_cons, Option.filter_some, ← present, Option.isSome_some, if_pos rfl]
        exact .some (mapping ▸ (bears i rfl).mono more.within)

/-- Roots of the given keys, each key once and in the order in which they come first. -/
structure Tops (s : Store) (roots : Roots) (seen : List (List Value)) : Prop where
  ids : List.Forall₂ (fun id key => s.key? id = some key) roots.ids roots.keys
  keys : roots.keys = seen.eraseDups

lemma Tops.mono {s t : Store} {roots : Roots} {seen : List (List Value)} (h : Tops s roots seen)
    (within : s.Within t) : Tops t roots seen :=
  ⟨h.ids.imp fun _ _ key => within.key? key, h.keys⟩

lemma Tops.see {s : Store} {roots : Roots} {seen : List (List Value)} (h : Tops s roots seen)
    {id : Nat} {key : List Value} (hk : s.key? id = some key) :
    Tops s (roots.see id (some key)) (seen ++ [key]) := by
  unfold Roots.see
  dsimp only
  split
  next old =>
    refine ⟨h.ids, ?_⟩
    rw [h.keys, List.mem_eraseDups] at old
    rw [eraseDups_concat, if_pos old, h.keys]
  next new =>
    refine ⟨List.rel_append h.ids (.cons hk .nil), ?_⟩
    rw [h.keys, List.mem_eraseDups] at new
    rw [eraseDups_concat, if_neg new, h.keys]

/-- The keys of a keyed root type in several rows are those of its roots. -/
lemma ends_rows {r : Registry} (grown : PlanDraft.Grown r p.root ⟨p.entities, p.joins⟩)
    (h : s.Filled p) (given : List (Except Error (List Fragment))) {roots : Roots}
    {seen : List (List Value)} (tops : p.root.isKeyless = false → Tops s.store roots seen) :
    Ends (rows p roots given) s (RunState.WaitsFor p) (p.fault? given) fun result t =>
      p.root.isKeyless = false → ∃ keys : List (List Value),
        ((given.filterMap Except.toOption).filterMap rootPart?).map (p.root.key? ·.values) =
          keys.map some ∧ Tops t.store result (seen ++ keys) := by
  induction given generalizing s roots seen with
  | nil =>
    refine .pure fun keyed => ⟨[], rfl, ?_⟩
    rw [List.append_nil]
    exact tops keyed
  | cons row rest ih =>
    cases row with
    | error e => exact .throw e
    | ok fragments =>
      have first :
          p.fault? (.ok fragments :: rest) = (p.rowFault? fragments).or (p.fault? rest) := by
        rw [Plan.fault?, List.findSome?_cons]
        dsimp only
        cases p.rowFault? fragments <;> rfl
      rw [first]
      refine (ends_row grown h fragments).bind fun top t done => ?_
      obtain ⟨keeps, bears⟩ := done
      have older := fun keyed => (tops keyed).mono keeps.within
      cases hpart : rootPart? fragments with
      | none =>
        rw [hpart] at bears
        cases bears
        refine (ih keeps.filled older).imp fun result u done keyed => ?_
        obtain ⟨keys, hkeys, tops⟩ := done keyed
        exact ⟨keys, by simpa [Except.toOption, hpart] using hkeys, tops⟩
      | some f =>
        rw [hpart] at bears
        cases bears with
        | @some _ id bears =>
          have known : Ends (keyOf id) t (RunState.WaitsFor p) none fun key u =>
              key = t.store.key? id ∧ u = t :=
            ⟨rfl, (Store.key?_eq t.store id).symm, rfl⟩
          refine known.bind_right fun key u done => ?_
          obtain ⟨rfl, rfl⟩ := done
          have newer (keyed : p.root.isKeyless = false) : Tops u.store
              (roots.see id (u.store.key? id)) (seen ++ (p.root.key? f.values).toList) := by
            obtain ⟨key, hf, hi⟩ := bears.exists_identity? keyed
            have hi := Store.key?_of_identity? hi
            rw [hf, hi]
            exact (older keyed).see hi
          refine (ih keeps.filled newer).imp fun result v done keyed => ?_
          obtain ⟨key, hf, -⟩ := bears.exists_identity? keyed
          obtain ⟨keys, hkeys, tops⟩ := done keyed
          refine ⟨key :: keys, ?_, ?_⟩
          · simpa [Except.toOption, hpart, hf] using hkeys
          · rw [hf, List.append_assoc] at tops
            exact tops

end Run

namespace Materializer

/-- The fault of the first row that is not fit for a materializer. -/
def fault? (m : Materializer) (given : List (List Value)) : Option Error :=
  m.plan.fault? (given.map m.layout.split)

variable {dialect : Dialect} {r : Registry} {root : EntityMapping} {tree : IncludeTree} {p : Plan}
variable {columns : List String} {m : Materializer}

lemma filterMap_toOption_map_split (m : Materializer) (given : List (List Value)) :
    (given.map m.layout.split).filterMap Except.toOption = m.split given := by
  rw [List.filterMap_map]
  rfl

/--
Whatever the size of its identity cache, a run that does not wait for itself fails exactly when its
rows have a fault, and then with the first one. If the root type has a key and the run succeeds, all
root parts that are not all null have keys, and the roots are of those keys: one of each, in the
order in which they come first. A run waits for itself only over an instance in a set of its own,
and only if its plan mixes what goes to a collection, which the plans of resolved trees do not.
-/
theorem ofRows_ends (hp : Plan.build dialect r root tree = .ok p)
    (hm : ofColumns p columns = .ok m) (given : List (List Value)) (sizing : IdentitySizing) :
    (Run.Ends (m.ofRows given) { identities := .empty sizing } (RunState.WaitsFor p)
      (m.fault? given) fun roots t => root.isKeyless = false → ∃ keys : List (List Value),
        ((m.split given).filterMap rootPart?).map (root.key? ·.values) = keys.map some ∧
          roots.map t.store.key? = keys.eraseDups.map some) ∧
    ∀ type paths, IncludeTree.resolve r type paths = .ok tree → r.require type = .ok root →
      ¬p.Mixes := by
  constructor
  · obtain ⟨_, rfl, grown⟩ := Plan.of_build hp
    cases plan_of_ofColumns hm
    have rows := @Run.ends_rows m.plan { identities := .empty sizing } r grown .start
      (given.map m.layout.split) {} [] fun _ => ⟨.nil, rfl⟩
    refine rows.bind_left fun result t done => .pure fun keyed => ?_
    obtain ⟨keys, hkeys, tops⟩ := done keyed
    rw [filterMap_toOption_map_split] at hkeys
    refine ⟨keys, hkeys, ?_⟩
    rw [← List.nil_append keys, ← tops.keys, ← List.forall₂_eq_eq_eq, List.forall₂_map_left_iff,
      List.forall₂_map_right_iff]
    exact tops.ids
  · exact fun type paths htree hroot => Plan.not_mixes_of_follows (Plan.follows htree hroot hp)

end Materializer

/-- Three rows with two owners, the first of whom comes back after the second. -/
def sampleVisits : List (List Value) :=
  [[.int32 1, .int32 5, .int32 1, .null, .null], [.int32 2, .int32 6, .int32 2, .null, .null],
    [.int32 1, .int32 7, .int32 1, .null, .null]]

/-- With room for one instance only, each owner is a root once, and an item without a key fails. -/
theorem ofRows_ends_visits :
    ∃ (p : Plan) (m : Materializer),
      Plan.build .mySql sampleRegistry sampleOwner sampleTree = .ok p ∧
      Materializer.ofColumns p p.columns = .ok m ∧
      (∃ roots t,
        (m.ofRows sampleVisits).run.run { identities := .empty (.fixed 1) } = (.ok roots, t) ∧
        roots.map t.store.key? = [some [.int32 1], some [.int32 2]]) ∧
      ∃ t, (m.ofRows (sampleVisits ++ [[.int32 3, .null, .int32 3, .null, .null]])).run.run
        { identities := .empty (.fixed 1) } =
          (.error (.fault (.mapping "K" (.nullKey ["Id"]))), t) := by
  have planned : ∃ (p : Plan) (m : Materializer),
      Plan.build .mySql sampleRegistry sampleOwner sampleTree = .ok p ∧
      Materializer.ofColumns p p.columns = .ok m ∧ ¬p.Mixes ∧ m.fault? sampleVisits = none ∧
      ((m.split sampleVisits).filterMap rootPart?).map (sampleOwner.key? ·.values) =
        [[.int32 1], [.int32 2], [.int32 1]].map some ∧
      m.fault? (sampleVisits ++ [[.int32 3, .null, .int32 3, .null, .null]]) =
        some (.mapping "K" (.nullKey ["Id"])) :=
    ⟨_, _, rfl, rfl, by decide, by decide, by decide, by decide⟩
  obtain ⟨p, m, hp, hm, apart, sound, keys, fault⟩ := planned
  refine ⟨p, m, hp, hm, ?_, ?_⟩
  · obtain ⟨ends, -⟩ := Materializer.ofRows_ends hp hm sampleVisits (.fixed 1)
    rw [sound] at ends
    obtain ⟨roots, t, hr, known⟩ := ends.exists_ok fun _ _ waits => apart waits.mixes
    obtain ⟨keys', hkeys, tops⟩ := known rfl
    cases List.map_injective_iff.2 (fun _ _ => Option.some.inj) (keys.symm.trans hkeys)
    exact ⟨roots, t, hr, tops⟩
  · obtain ⟨ends, -⟩ := Materializer.ofRows_ends hp hm
      (sampleVisits ++ [[.int32 3, .null, .int32 3, .null, .null]]) (.fixed 1)
    rw [fault] at ends
    exact ends.exists_error fun _ _ waits => apart waits.mixes

/-- An owner that may belong to another one. -/
def sampleNode : EntityMapping where
  entityType := "P"
  table := "Ps"
  keys := ["Id"]
  properties := [{ name := "Id" }, { name := "ParentId" }]
  foreignKeys := [⟨"Parent", "ParentId", "P", "Id"⟩]
  slots := [("ParentId", 1), ("Id", 0)]
  keySlots := [0]
  columns := ["Id", "ParentId"]
  built := rfl

/-- A tree that puts owners and items without a key into one set of their owner. -/
def sampleMixedTree : IncludeTree where
  root := "P"
  nodes := [.node "Ks" "K" (.collection .list) [], .node "Items" "P" (.collection .set) [],
    .node "Items" "L" (.collection .set) []]

/-- A row with an owner that belongs to itself, and an item with and one without a key. -/
def sampleLoop : List Value :=
  [.int32 1, .int32 1, .int32 5, .int32 1, .int32 1, .int32 1, .int32 7, .int32 1]

/-- How a run ends, and the items of the instance that was made first. -/
def Materializer.firstItems (m : Materializer) (sizing : IdentitySizing)
    (given : List (List Value)) : Except Halt (List Nat) × List Nat :=
  let (result, t) := (m.ofRows given).run.run { identities := .empty sizing }
  (result, t.store.itemsOf 0 "Items")

/--
With room for all instances the set of an owner holds the owner itself, and the run waits for it to
tell whether the item without a key is in. With room for one only, the owner was forgotten when it
comes again, the set holds a second instance of it, and the run succeeds.
-/
theorem blocks_unless_evicted :
    ∃ (p : Plan) (m : Materializer) (t t' : RunState),
      Plan.build .mySql (.ofList [sampleNode, sampleItem, sampleRecord]) sampleNode
        sampleMixedTree = .ok p ∧
      Materializer.ofColumns p p.columns = .ok m ∧
      (m.ofRows [sampleLoop]).run.run { identities := .empty {} } = (.error (.blocked 0), t) ∧
      t.store.itemsOf 0 "Items" = [0] ∧
      (m.ofRows [sampleLoop]).run.run { identities := .empty (.fixed 1) } = (.ok [0], t') ∧
      t'.store.itemsOf 0 "Items" = [2, 3] := by
  have runs : ∃ (p : Plan) (m : Materializer),
      Plan.build .mySql (.ofList [sampleNode, sampleItem, sampleRecord]) sampleNode
        sampleMixedTree = .ok p ∧
      Materializer.ofColumns p p.columns = .ok m ∧
      m.firstItems {} [sampleLoop] = (.error (.blocked 0), [0]) ∧
      m.firstItems (.fixed 1) [sampleLoop] = (.ok [0], [2, 3]) :=
    ⟨_, _, rfl, rfl, by decide +kernel, by decide +kernel⟩
  obtain ⟨p, m, hp, hm, roomy, tight⟩ := runs
  obtain ⟨blocked, items⟩ := Prod.ext_iff.1 roomy
  obtain ⟨done, items'⟩ := Prod.ext_iff.1 tight
  exact ⟨p, m, _, _, hp, hm, Prod.ext blocked rfl, items, Prod.ext done rfl, items'⟩

end RelMap
