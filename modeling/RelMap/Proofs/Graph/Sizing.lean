import RelMap.Proofs.Graph.Keyed
import RelMap.Proofs.Graph.Materialize
import Mathlib.Data.List.Forall2

/-!
# Runs with identity caches of different sizes

Two runs over the same rows, whose identity caches evict what they like, side by side. They come to
parts of the same types and keys and link them alike, so they return roots with the same keys. What
is below a root is the same if no instance was made twice in either run; otherwise it is spread over
the instances of the root's type and key, of which only the first is returned.
-/

namespace RelMap

/-- Instances of one type and key, each in a store of its own. -/
def Named (s t : Store) (i j : Nat) : Prop :=
  ∃ k, s.identity? i = some k ∧ t.identity? j = some k

namespace Named

variable {s t u v : Store} {i j : Nat}

/-- What has the same name keeps it when the stores grow. -/
lemma mono (h : Named s t i j) (left : s.Within u) (right : t.Within v) : Named u v i j := by
  obtain ⟨k, hi, hj⟩ := h
  exact ⟨k, left.identity? hi, right.identity? hj⟩

/-- The same where there may be no instance. -/
lemma rel_mono {a b : Option Nat} (h : Option.Rel (Named s t) a b) (left : s.Within u)
    (right : t.Within v) : Option.Rel (Named u v) a b := by
  cases h with
  | none => exact .none
  | some h => exact .some (h.mono left right)

/-- Where names are unique, what has the same name is the same instance. -/
lemma eq_of_unique (h : Named s s i j) (unique : s.Unique) : i = j := by
  obtain ⟨k, hi, hj⟩ := h
  exact unique i j k hi hj

/-- What has the same name has the same key. -/
lemma key?_eq (h : Named s t i j) : ∃ key, s.key? i = some key ∧ t.key? j = some key := by
  obtain ⟨k, hi, hj⟩ := h
  exact ⟨k.key, Store.key?_of_identity? hi, Store.key?_of_identity? hj⟩

/-- Lists of what has the same names have the same keys. -/
lemma map_key?_eq {ids ids' : List Nat} (h : List.Forall₂ (Named s t) ids ids') :
    ids'.map t.key? = ids.map s.key? := by
  induction h with
  | nil => rfl
  | cons named _ ih =>
    obtain ⟨key, hi, hj⟩ := named.key?_eq
    rw [List.map_cons, List.map_cons, ih, hi, hj]

/-- Instances of the same parts, or none in either store. -/
lemma join_getElem? {before before' : List (Option Nat)}
    (h : List.Forall₂ (Option.Rel (Named s t)) before before') (n : Nat) :
    Option.Rel (Named s t) (before[n]?).join (before'[n]?).join := by
  induction h generalizing n with
  | nil => exact .none
  | cons first _ ih =>
    cases n with
    | zero => exact first
    | succ n => exact ih n

end Named

/--
The states of two runs that have come to the same parts: what the instances of a type and key hold,
taken together, is the same, and without a second instance of any of them all is the same.
-/
structure Twins (s t : RunState) : Prop where
  left : s.Keyed
  right : t.Keyed
  holds : ∀ owner navigation item,
    s.store.Holds owner navigation item ↔ t.store.Holds owner navigation item
  equal : s.store.Unique → t.store.Unique → s.store = t.store

/-- Two runs go on to further states. -/
structure Advance (s t u v : RunState) : Prop where
  twins : Twins u v
  left : s.store.Within u.store
  right : t.store.Within v.store

namespace Twins

variable {s t u v : RunState} {e : PlannedEntity} {f : Fragment} {m : EntityMapping}

/-- Two runs begin as twins, whatever the sizes of their caches. -/
lemma start (sizing sizing' : IdentitySizing) :
    Twins { identities := .empty sizing } { identities := .empty sizing' } where
  left := .start
  right := .start
  holds _ _ _ := Iff.rfl
  equal _ _ := rfl

lemma refl_advance (h : Twins s t) : Advance s t s t := ⟨h, .refl, .refl⟩

/--
Twins resolve a fragment to instances of the same name, which one may have kept and the other made
anew.
-/
lemma resolve (h : Twins s t) (keyed : m.isKeyless = false) {i : Nat}
    (hr : s.resolve m f = .ok (i, u)) :
    ∃ j v, t.resolve m f = .ok (j, v) ∧ Advance s t u v ∧ Named u.store v.store i j := by
  obtain ⟨k, hk, done⟩ := h.left.resolve keyed hr
  obtain ⟨j, v, hr'⟩ := RunState.exists_resolve_of_identity keyed hk t
  obtain ⟨k', hk', done'⟩ := h.right.resolve keyed hr'
  obtain rfl : k = k' := Option.some.inj (hk.symm.trans hk')
  refine ⟨j, v, hr', ⟨⟨done.keyed, done'.keyed, ?_, ?_⟩, done.within, done'.within⟩,
    k, done.identity, done'.identity⟩
  · intro owner navigation item
    rw [done.holds, done'.holds]
    exact h.holds owner navigation item
  · intro unique unique'
    have same := h.equal (unique.of_within done.within) (unique'.of_within done'.within)
    obtain ⟨_, hk₁, -, ⟨kept, known⟩ | ⟨added, rfl⟩⟩ := RunState.resolve_cases keyed hr <;>
      obtain ⟨_, hk₂, -, ⟨kept', known'⟩ | ⟨added', rfl⟩⟩ := RunState.resolve_cases keyed hr' <;>
      cases hk.symm.trans hk₁ <;> cases hk.symm.trans hk₂
    · rw [kept, kept', same]
    -- Where one run finds an instance and the other makes one, the other has two of them.
    · have old := h.left.cached _ known
      rw [same] at old
      exact absurd unique' (Store.not_unique_of_new old done'.within done'.identity)
    · have old := h.right.cached _ known'
      rw [← same] at old
      exact absurd unique (Store.not_unique_of_new old done.within done.identity)
    · rw [added, added', same]

/-- Twins attach what has the same name to what has the same name. -/
lemma attach (h : Twins s t) {owner owner' item item' : Nat}
    (howner : Named s.store t.store owner owner') (hitem : Named s.store t.store item item')
    (l : Link) : Advance s t (s.attach owner l item) (t.attach owner' l item') := by
  obtain ⟨k, hk, hk'⟩ := howner
  obtain ⟨k', hi, hi'⟩ := hitem
  refine ⟨⟨h.left.attach hk hi, h.right.attach hk' hi', fun o navigation i => ?_, ?_⟩,
    Store.within_attach, Store.within_attach⟩
  · rw [RunState.holds_attach hk hi, RunState.holds_attach hk' hi', h.holds]
  · intro unique unique'
    have within : s.store.Within (s.attach owner l item).store := Store.within_attach
    have within' : t.store.Within (t.attach owner' l item').store := Store.within_attach
    have same := h.equal (unique.of_within within) (unique'.of_within within')
    have single := unique'.of_within within'
    rw [same] at hk hi
    rw [RunState.attach, RunState.attach, same, single _ _ k hk hk', single _ _ k' hi hi']

/-- Twins resolve a part of a row alike. -/
lemma resolvePart (h : Twins s t) (keyed : e.mapping.isKeyless = false)
    {before before' : List (Option Nat)}
    (hb : List.Forall₂ (Option.Rel (Named s.store t.store)) before before') {i : Option Nat}
    (hr : s.resolvePart e f before = .ok (i, u)) :
    ∃ j v, t.resolvePart e f before' = .ok (j, v) ∧ Advance s t u v ∧
      Option.Rel (Named u.store v.store) i j := by
  unfold RunState.resolvePart at hr ⊢
  cases hlink : e.link with
  | none =>
    rw [hlink] at hr
    dsimp only at hr ⊢
    split at hr
    next null =>
      cases hr
      exact ⟨none, t, if_pos null, h.refl_advance, .none⟩
    next present =>
      obtain ⟨⟨id, w⟩, hi, hr⟩ := bind_eq_ok.1 hr
      cases hr
      obtain ⟨id', v, hi', advance, named⟩ := h.resolve keyed hi
      exact ⟨some id', v, by rw [if_neg present, hi']; rfl, advance, .some named⟩
  | some l =>
    rw [hlink] at hr
    dsimp only at hr ⊢
    have owners := Named.join_getElem? hb l.parent
    generalize (before[l.parent]?).join = owner at hr owners
    generalize (before'[l.parent]?).join = owner' at owners ⊢
    cases owners with
    | none =>
      cases hr
      exact ⟨none, t, rfl, h.refl_advance, .none⟩
    | some howner =>
      dsimp only at hr ⊢
      split at hr
      next null =>
        cases hr
        exact ⟨none, t, if_pos null, h.refl_advance, .none⟩
      next present =>
        obtain ⟨⟨id, w⟩, hi, hr⟩ := bind_eq_ok.1 hr
        obtain ⟨id', v, hi', advance, named⟩ := h.resolve keyed hi
        have linked := advance.twins.attach (howner.mono advance.left advance.right) named l
        -- Both items have keys, so that neither run waits for their owners.
        have ⟨k, hk, hk'⟩ := named
        dsimp only at hr
        rw [RunState.link_of_keyed hk] at hr
        cases hr
        refine ⟨some id', _, ?_, ⟨linked.twins, ?_, ?_⟩, .some (named.mono linked.left linked.right)⟩
        · rw [if_neg present, hi', ok_bind]
          dsimp only
          rw [RunState.link_of_keyed hk']
          rfl
        · exact advance.left.trans linked.left
        · exact advance.right.trans linked.right

/-- Twins resolve all parts of a row alike, one after the other. -/
lemma resolveParts (h : Twins s t) {parts : List (PlannedEntity × Fragment)}
    (keyed : ∀ part ∈ parts, part.1.mapping.isKeyless = false)
    {before before' resolved : List (Option Nat)}
    (hb : List.Forall₂ (Option.Rel (Named s.store t.store)) before before')
    (hr : s.resolveParts before parts = .ok (resolved, u)) :
    ∃ resolved' v, t.resolveParts before' parts = .ok (resolved', v) ∧ Advance s t u v ∧
      List.Forall₂ (Option.Rel (Named u.store v.store)) resolved resolved' := by
  induction parts generalizing s t before before' with
  | nil =>
    cases hr
    exact ⟨before', t, rfl, h.refl_advance, hb⟩
  | cons part rest ih =>
    obtain ⟨e, f⟩ := part
    obtain ⟨⟨i, w⟩, hi, hr⟩ := bind_eq_ok.1 hr
    obtain ⟨j, x, hj, first, named⟩ := h.resolvePart (keyed _ List.mem_cons_self) hb hi
    have older : List.Forall₂ (Option.Rel (Named w.store x.store)) before before' :=
      hb.imp fun _ _ h => Named.rel_mono h first.left first.right
    obtain ⟨resolved', v, hv, others, all⟩ := ih first.twins
      (fun part hp => keyed part (List.mem_cons_of_mem _ hp))
      (List.rel_append older (.cons named .nil)) hr
    refine ⟨resolved', v, by rw [RunState.resolveParts, hj]; exact hv, ⟨others.twins, ?_, ?_⟩, all⟩
    · exact first.left.trans others.left
    · exact first.right.trans others.right

end Twins

/-- Roots of two runs that are of the same keys, one by one. -/
structure SameRoots (s t : Store) (roots roots' : Run.Roots) : Prop where
  keys : roots.keys = roots'.keys
  ids : List.Forall₂ (Named s t) roots.ids roots'.ids

namespace SameRoots

variable {s t u v : Store} {roots roots' : Run.Roots} {i j : Nat}

/-- What has the same name keeps it when the stores grow. -/
lemma mono (h : SameRoots s t roots roots') (left : s.Within u) (right : t.Within v) :
    SameRoots u v roots roots' :=
  ⟨h.keys, h.ids.imp fun _ _ named => named.mono left right⟩

/-- Roots with the same name are seen by both runs, or were seen before by both. -/
lemma see (h : SameRoots s t roots roots') (named : Named s t i j) :
    SameRoots s t (roots.see i (s.key? i)) (roots'.see j (t.key? j)) := by
  obtain ⟨key, hi, hj⟩ := named.key?_eq
  rw [hi, hj]
  unfold Run.Roots.see
  dsimp only
  rw [← h.keys]
  split
  next => exact h
  next => exact ⟨rfl, List.rel_append h.ids (.cons named .nil)⟩

/-- Where names are unique, the same roots are the same instances. -/
lemma ids_eq (h : SameRoots s s roots roots') (unique : s.Unique) : roots'.ids = roots.ids := by
  have equal := h.ids.imp fun _ _ named => named.eq_of_unique unique
  rw [List.forall₂_eq_eq_eq] at equal
  exact equal.symm

end SameRoots

/-- Twins see the same roots in the same rows. -/
lemma Twins.rows {s t u : RunState} {p : Plan} {roots roots' result : Run.Roots}
    {given : List (Except Error (List Fragment))} (h : Twins s t)
    (keyed : ∀ e ∈ p.entities, e.mapping.isKeyless = false)
    (seen : SameRoots s.store t.store roots roots')
    (hr : (Run.rows p roots given).run.run s = (.ok result, u)) :
    ∃ result' v, (Run.rows p roots' given).run.run t = (.ok result', v) ∧ Twins u v ∧
      SameRoots u.store v.store result result' := by
  induction given generalizing s t roots roots' with
  | nil =>
    cases hr
    exact ⟨roots', t, rfl, h, seen⟩
  | cons r rest ih =>
    obtain ⟨fragments, top, w, rfl, hrow, hrest⟩ := Run.run_rows_cons_eq_ok.1 hr
    obtain ⟨width, row, hparts, rfl⟩ := Run.run_row_eq_ok.1 hrow
    have parts (part) (hp : part ∈ p.entities.zip fragments) : part.1.mapping.isKeyless = false :=
      keyed part.1 (List.of_mem_zip hp).1
    obtain ⟨row', x, hparts', advance, named⟩ := h.resolveParts parts .nil hparts
    have older := seen.mono advance.left advance.right
    -- Both runs see the same key as the root of the row, or none.
    have newer : SameRoots w.store x.store
        (row.head?.join.elim roots fun id => roots.see id ((w.store.get? id).bind Instance.key?))
        (row'.head?.join.elim roots' fun id =>
          roots'.see id ((x.store.get? id).bind Instance.key?)) := by
      have tops := Named.join_getElem? named 0
      rw [← List.head?_eq_getElem?, ← List.head?_eq_getElem?] at tops
      generalize row.head?.join = top at tops
      generalize row'.head?.join = top' at tops
      cases tops with
      | none => exact older
      | some top =>
        rw [Option.elim_some, Option.elim_some, ← Store.key?_eq, ← Store.key?_eq]
        exact older.see top
    obtain ⟨result', v, hv, twins, same⟩ := ih advance.twins newer hrest
    exact ⟨result', v, Run.run_rows_cons_eq_ok.2 ⟨fragments, _, x, rfl,
      Run.run_row_eq_ok.2 ⟨width, row', hparts', rfl⟩, hv⟩, twins, same⟩

/-- Where nothing was evicted no instance was made twice. -/
lemma Tracks.unique {keys : List IdentityKey} {occurrences : List Occurrence}
    {links : List Linked} {s : RunState} (h : Tracks keys occurrences links s) :
    s.store.Unique := by
  have occurs {i : Nat} {k : IdentityKey} (hi : s.store.identity? i = some k) :
      ∃ o ∈ occurrences, o.id = i ∧ o.identity? = some k := by
    obtain ⟨content, hc, hk⟩ := Option.bind_eq_some_iff.1 hi
    rw [h.content] at hc
    obtain ⟨o, ho, rfl⟩ := Option.map_eq_some_iff.1 hc
    have same := List.find?_some ho
    rw [decide_eq_true_iff] at same
    exact ⟨o, List.mem_of_find?_eq_some ho, same, hk⟩
  intro i j k hi hj
  obtain ⟨o, ho, rfl, hk⟩ := occurs hi
  obtain ⟨o', ho', rfl, hk'⟩ := occurs hj
  exact h.id_eq ho ho' ⟨by rw [hk]; rfl, hk.trans hk'.symm⟩

namespace Materializer

variable {dialect : Dialect} {r : Registry} {root : EntityMapping} {tree : IncludeTree} {p : Plan}
variable {columns : List String} {m : Materializer} {sizing : IdentitySizing}
variable {given : List (List Value)} {roots : List Nat} {t : RunState}

/-- A run with room for all types and keys in its rows makes no instance twice. -/
lemma unique_of_room (hp : Plan.build dialect r root tree = .ok p)
    (hm : ofColumns p columns = .ok m)
    (hr : (m.ofRows given).run.run { identities := .empty sizing } = (.ok roots, t))
    (room : (p.identities (m.split given)).eraseDups.length ≤ max sizing.initialCapacity 1) :
    t.store.Unique := by
  obtain ⟨_, hroot, grown⟩ := Plan.of_build hp
  cases plan_of_ofColumns hm
  cases hroot
  obtain ⟨result, u, hrows, done⟩ := run_bind_eq_ok.1 hr
  cases done
  obtain ⟨_, _, _, _, _, _, tracks, _⟩ :=
    (Tracks.start room).rows rfl grown .start hrows fun _ hf _ => mem_identities_split hf
  exact tracks.unique

/--
If all types of a plan have keys, and a run over some rows succeeds with an identity cache of one
size, then it does so with every other, and returns roots with the same keys in the same order. The
items of all instances of a type and key, taken together, are of the same types and keys. As long as
neither run makes an instance twice, which a run with room for all of them does not, the roots and
the whole graph are the same, and each collection holds each item once.
-/
theorem ofRows_sizing (hp : Plan.build dialect r root tree = .ok p)
    (hm : ofColumns p columns = .ok m) (keyed : ∀ e ∈ p.entities, e.mapping.isKeyless = false)
    (hr : (m.ofRows given).run.run { identities := .empty sizing } = (.ok roots, t)) :
    ((p.identities (m.split given)).eraseDups.length ≤ max sizing.initialCapacity 1 →
        t.store.Unique) ∧
      (t.store.Unique → ∀ id navigation,
        ((t.store.itemsOf id navigation).map t.store.identity?).Nodup) ∧
      ∀ sizing' : IdentitySizing, ∃ roots' t',
        (m.ofRows given).run.run { identities := .empty sizing' } = (.ok roots', t') ∧
        roots'.map t'.store.key? = roots.map t.store.key? ∧
        (∀ owner navigation item,
          t.store.Holds owner navigation item ↔ t'.store.Holds owner navigation item) ∧
        (t.store.Unique → t'.store.Unique → roots' = roots ∧ t'.store = t.store) := by
  refine ⟨unique_of_room hp hm hr, ?_⟩
  cases plan_of_ofColumns hm
  obtain ⟨result, u, hrows, done⟩ := run_bind_eq_ok.1 hr
  cases done
  have runs (sizing' : IdentitySizing) := (Twins.start sizing sizing').rows keyed ⟨rfl, .nil⟩ hrows
  refine ⟨fun unique id navigation => ?_, fun sizing' => ?_⟩
  · obtain ⟨_, _, _, twins, _⟩ := runs sizing
    exact twins.left.nodup_map_identity? unique navigation
  · obtain ⟨result', v, hv, twins, same⟩ := runs sizing'
    refine ⟨result'.ids, v, run_bind_eq_ok.2 ⟨result', v, hv, rfl⟩, Named.map_key?_eq same.ids,
      twins.holds, fun unique unique' => ?_⟩
    have equal := twins.equal unique unique'
    rw [← equal] at same ⊢
    exact ⟨same.ids_eq unique, rfl⟩

end Materializer

/-- A tree that puts items with a key into a set. -/
def sampleKeyedTree : IncludeTree where
  root := "P"
  nodes := [.node "Items" "K" (.collection .set) []]

/-- Two rows with one owner and an item each. -/
def sampleRows : List (List Value) :=
  [[.int32 1, .int32 5, .int32 1], [.int32 1, .int32 6, .int32 1]]

/-- A run is its result and the state that it ends in. -/
lemma run_eq_of_fst {m : Run (List Nat)} {s : RunState} {roots : List Nat}
    (h : (m.run.run s).1 = .ok roots) : m.run.run s = (.ok roots, (m.run.run s).2) := by
  exact Prod.ext h rfl

/-- The roots of a run, and the keys of the items of the instance that was made first. -/
def Materializer.itemKeys (m : Materializer) (sizing : IdentitySizing) (given : List (List Value)) :
    Except Halt (List Nat) × List (Option (List Value)) :=
  let (result, t) := (m.ofRows given).run.run { identities := .empty sizing }
  (result, (t.store.itemsOf 0 "Items").map t.store.key?)

/-- A cache for three instances is as good for these rows as one for many. -/
theorem ofRows_sizing_three :
    ∃ (p : Plan) (m : Materializer) (t t' : RunState),
      Plan.build .mySql sampleRegistry sampleOwner sampleKeyedTree = .ok p ∧
      Materializer.ofColumns p p.columns = .ok m ∧
      (m.ofRows sampleRows).run.run { identities := .empty (.fixed 3) } = (.ok [0], t) ∧
      (m.ofRows sampleRows).run.run { identities := .empty {} } = (.ok [0], t') ∧
      t'.store = t.store := by
  have runs : ∃ (p : Plan) (m : Materializer),
      Plan.build .mySql sampleRegistry sampleOwner sampleKeyedTree = .ok p ∧
      Materializer.ofColumns p p.columns = .ok m ∧
      (∀ e ∈ p.entities, e.mapping.isKeyless = false) ∧
      ((m.ofRows sampleRows).run.run { identities := .empty (.fixed 3) }).1 = .ok [0] ∧
      ((m.ofRows sampleRows).run.run { identities := .empty {} }).1 = .ok [0] ∧
      (p.identities (m.split sampleRows)).eraseDups.length ≤ 3 :=
    ⟨_, _, rfl, rfl, by decide, by decide +kernel, by decide +kernel, by decide⟩
  obtain ⟨p, m, hp, hm, keyed, small, large, room⟩ := runs
  obtain ⟨unique, -, others⟩ := Materializer.ofRows_sizing hp hm keyed (run_eq_of_fst small)
  obtain ⟨unique', -, -⟩ := Materializer.ofRows_sizing hp hm keyed (run_eq_of_fst large)
  obtain ⟨roots, u, hu, -, -, same⟩ := others {}
  rw [run_eq_of_fst large] at hu
  cases hu
  have roomy : 3 ≤ max ({} : IdentitySizing).initialCapacity 1 := by decide
  exact ⟨p, m, _, _, hp, hm, run_eq_of_fst small, run_eq_of_fst large,
    (same (unique room) (unique' (Nat.le_trans room roomy))).2⟩

/--
With room for one instance only, the item of the second row hangs off a second instance of its
owner, and the one that is returned lacks it.
-/
theorem lacks_item_after_eviction :
    ∃ (p : Plan) (m : Materializer) (t t' : RunState),
      Plan.build .mySql sampleRegistry sampleOwner sampleKeyedTree = .ok p ∧
      Materializer.ofColumns p p.columns = .ok m ∧
      (m.ofRows sampleRows).run.run { identities := .empty (.fixed 1) } = (.ok [0], t) ∧
      (m.ofRows sampleRows).run.run { identities := .empty {} } = (.ok [0], t') ∧
      (t.store.itemsOf 0 "Items").map t.store.key? = [some [.int32 5]] ∧
      (t'.store.itemsOf 0 "Items").map t'.store.key? = [some [.int32 5], some [.int32 6]] := by
  have runs : ∃ (p : Plan) (m : Materializer),
      Plan.build .mySql sampleRegistry sampleOwner sampleKeyedTree = .ok p ∧
      Materializer.ofColumns p p.columns = .ok m ∧
      m.itemKeys (.fixed 1) sampleRows = (.ok [0], [some [.int32 5]]) ∧
      m.itemKeys {} sampleRows = (.ok [0], [some [.int32 5], some [.int32 6]]) :=
    ⟨_, _, rfl, rfl, by decide +kernel, by decide +kernel⟩
  obtain ⟨p, m, hp, hm, small, large⟩ := runs
  obtain ⟨small, items⟩ := Prod.ext_iff.1 small
  obtain ⟨large, items'⟩ := Prod.ext_iff.1 large
  exact ⟨p, m, _, _, hp, hm, run_eq_of_fst small, run_eq_of_fst large, items, items'⟩

end RelMap
