import RelMap.Proofs.Except
import RelMap.Proofs.Graph.Store
import RelMap.Graph.Materialize

/-!
# Runs as functions

A run that succeeds, seen as a function from state to state.
-/

namespace RelMap

namespace RunState

/-- The instance of a part that is not all null, and the state afterwards. -/
def resolve (s : RunState) (m : EntityMapping) (f : Fragment) : Except Halt (Nat × RunState) :=
  if m.isKeyless then
    .ok (s.store.nextId, { s with store := s.store.add { mapping := m, values := f.values } })
  else
    match m.key? f.values with
    | none => .error (.fault (.mapping m.entityType (.nullKey m.keys)))
    | some key =>
      let (id, created, identities) :=
        s.identities.getOrInsert ⟨m.entityType, key⟩ s.store.nextId
      let store := if created then s.store.add { mapping := m, values := f.values } else s.store
      .ok (id, ⟨store, identities⟩)

/-- The state after an instance was linked to its owner. -/
def link (s : RunState) (owner : Nat) (l : Link) (item : Nat) : Except Halt RunState :=
  match s.store.link owner l.navigation l.kind item with
  | some store => .ok { s with store }
  | none => .error (.blocked owner)

/-- The state after an instance was linked to its owner, if nothing has to be waited for. -/
def attach (s : RunState) (owner : Nat) (l : Link) (item : Nat) : RunState :=
  { s with store := s.store.attach owner l.navigation l.kind item }

/-- The instance of a part, if it has one, and the state afterwards. -/
def resolvePart (s : RunState) (e : PlannedEntity) (f : Fragment) (resolved : List (Option Nat)) :
    Except Halt (Option Nat × RunState) :=
  match e.link with
  | none =>
    if f.isAllNull then .ok (none, s)
    else do
      let (id, t) ← s.resolve e.mapping f
      return (some id, t)
  | some l =>
    match (resolved[l.parent]?).join with
    | none => .ok (none, s)
    | some owner =>
      if f.isAllNull then .ok (none, s)
      else do
        let (id, t) ← s.resolve e.mapping f
        let u ← t.link owner l id
        return (some id, u)

/-- The instances of the parts of a row behind those before them, and the state afterwards. -/
def resolveParts (s : RunState) (resolved : List (Option Nat)) :
    List (PlannedEntity × Fragment) → Except Halt (List (Option Nat) × RunState)
  | [] => .ok (resolved, s)
  | (e, f) :: rest => do
    let (id, t) ← s.resolvePart e f resolved
    t.resolveParts (resolved ++ [id]) rest

/-- A link between instances that is made makes of a state what it would without the lock. -/
lemma eq_attach_of_link {s t : RunState} {owner item : Nat} {l : Link}
    (valid : item < s.store.nextId) (h : s.link owner l item = .ok t) :
    t = s.attach owner l item := by
  unfold link at h
  split at h
  next store made =>
    cases h
    rw [attach, Store.eq_attach_of_link valid made]
  next => cases h

end RunState

namespace Run

variable {s t : RunState}

/-- Resolving a part as a function. -/
lemma run_resolve_eq_ok {m : EntityMapping} {f : Fragment} {id : Nat} :
    (resolve m f).run.run s = (.ok id, t) ↔ s.resolve m f = .ok (id, t) := by
  unfold resolve RunState.resolve
  split
  next => exact ⟨fun h => by cases h; rfl, fun h => by cases h; rfl⟩
  next =>
    cases m.key? f.values with
    | some key => exact ⟨fun h => by cases h; rfl, fun h => by cases h; rfl⟩
    | none => exact ⟨nofun, nofun⟩

/-- A link as a function. -/
lemma run_link {owner item : Nat} {l : Link} :
    (link owner l item).run.run s =
      match s.link owner l item with
      | .ok t => (.ok (), t)
      | .error halt => (.error halt, s) := by
  unfold RunState.link
  change (match s.store.link owner l.navigation l.kind item with
    | some store => set { s with store }
    | none => throw (.blocked owner) : Run Unit).run.run s = _
  cases s.store.link owner l.navigation l.kind item <;> rfl

/-- Resolving a part of a row as a function. -/
lemma run_resolvePart_eq_ok {e : PlannedEntity} {f : Fragment} {resolved : List (Option Nat)}
    {id : Option Nat} :
    (resolvePart e f resolved).run.run s = (.ok id, t) ↔
      s.resolvePart e f resolved = .ok (id, t) := by
  unfold resolvePart RunState.resolvePart
  cases e.link with
  | none =>
    dsimp only
    split
    · exact ⟨fun h => by cases h; rfl, fun h => by cases h; rfl⟩
    · simp only [run_bind_eq_ok, bind_eq_ok, Prod.exists, run_resolve_eq_ok]
      refine exists_congr fun id => exists_congr fun u => and_congr_right fun _ => ?_
      exact ⟨fun h => by cases h; rfl, fun h => by cases h; rfl⟩
  | some l =>
    dsimp only
    cases (resolved[l.parent]?).join with
    | none => exact ⟨fun h => by cases h; rfl, fun h => by cases h; rfl⟩
    | some owner =>
      dsimp only
      split
      · exact ⟨fun h => by cases h; rfl, fun h => by cases h; rfl⟩
      · simp only [run_bind_eq_ok, bind_eq_ok, Prod.exists, run_resolve_eq_ok]
        refine exists_congr fun id => exists_congr fun u => and_congr_right fun _ => ?_
        simp only [run_link]
        cases u.link owner l id with
        | error halt =>
          constructor
          · rintro ⟨_, _, linked, _⟩
            cases linked
          · rintro ⟨_, linked, _⟩
            cases linked
        | ok v =>
          constructor
          · rintro ⟨_, _, linked, done⟩
            cases linked
            cases done
            exact ⟨_, rfl, rfl⟩
          · rintro ⟨_, linked, done⟩
            cases linked
            cases done
            exact ⟨(), _, rfl, rfl⟩

/-- Resolving the parts of a row as a function. -/
lemma run_resolveParts_eq_ok {parts : List (PlannedEntity × Fragment)}
    {before resolved : List (Option Nat)} :
    (resolveParts before parts).run.run s = (.ok resolved, t) ↔
      s.resolveParts before parts = .ok (resolved, t) := by
  induction parts generalizing before s with
  | nil => exact ⟨fun h => by cases h; rfl, fun h => by cases h; rfl⟩
  | cons part rest ih =>
    obtain ⟨e, f⟩ := part
    simp only [resolveParts, RunState.resolveParts, run_bind_eq_ok, bind_eq_ok, Prod.exists,
      run_resolvePart_eq_ok, ih]

/-- A row as a function. -/
lemma run_row_eq_ok {p : Plan} {fragments : List Fragment} {root : Option Nat} :
    (row p fragments).run.run s = (.ok root, t) ↔
      fragments.length = p.entities.length ∧
        ∃ resolved, s.resolveParts [] (p.entities.zip fragments) = .ok (resolved, t) ∧
          root = resolved.head?.join := by
  unfold row
  split
  next other => exact ⟨nofun, fun h => absurd h.1 other⟩
  next same =>
    simp only [run_bind_eq_ok, run_resolveParts_eq_ok]
    constructor
    · rintro ⟨resolved, u, hr, done⟩
      cases done
      exact ⟨Decidable.not_not.1 same, resolved, hr, rfl⟩
    · rintro ⟨_, resolved, hr, rfl⟩
      exact ⟨resolved, t, hr, rfl⟩

/-- Several rows, the first of them apart. -/
lemma run_rows_cons_eq_ok {p : Plan} {roots result : Roots} {r : Except Error (List Fragment)}
    {rest : List (Except Error (List Fragment))} :
    (rows p roots (r :: rest)).run.run s = (.ok result, t) ↔
      ∃ fragments root u, r = .ok fragments ∧ (row p fragments).run.run s = (.ok root, u) ∧
        (rows p (root.elim roots fun id =>
          roots.see id ((u.store.get? id).bind Instance.key?)) rest).run.run u =
            (.ok result, t) := by
  cases r with
  | error err => exact ⟨nofun, fun ⟨_, _, _, h, _⟩ => nomatch h⟩
  | ok fragments =>
    have first : (rows p roots (.ok fragments :: rest)).run.run s = (.ok result, t) ↔
        ∃ root u, (row p fragments).run.run s = (.ok root, u) ∧
          (rows p (root.elim roots fun id =>
            roots.see id ((u.store.get? id).bind Instance.key?)) rest).run.run u =
              (.ok result, t) := by
      change (row p fragments >>= fun root =>
        match root with
        | none => rows p roots rest
        | some id => keyOf id >>= fun key => rows p (roots.see id key) rest).run.run s =
          (.ok result, t) ↔ _
      refine run_bind_eq_ok.trans (exists_congr fun root => exists_congr fun u => ?_)
      refine and_congr_right fun _ => ?_
      cases root <;> rfl
    rw [first]
    constructor
    · rintro ⟨root, u, h⟩
      exact ⟨fragments, root, u, rfl, h⟩
    · rintro ⟨_, root, u, same, h⟩
      cases same
      exact ⟨root, u, h⟩

end Run

end RelMap
