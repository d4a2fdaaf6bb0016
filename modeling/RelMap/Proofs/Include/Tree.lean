import RelMap.Proofs.Include.Insertion
import RelMap.Proofs.Include.Plan

/-!
# Trees of navigations

A tree that was resolved from paths has a node only where a navigation of the type above leads, and
so has every type of its plan: what it hangs off, how, and what it is are those of a navigation.
-/

namespace RelMap

/-- A node stands for a navigation of a type, and so do all below it. -/
inductive IncludeNode.Follows (require : Resolver) : String → IncludeNode → Prop where
  | node {owner navigation m n children} :
    require owner = .ok m →
    m.navigation? navigation = some n →
    (∀ child ∈ children, Follows require n.related child) →
    Follows require owner (.node navigation n.related n.includeKind children)

namespace IncludeTree

variable {require : Resolver}

/-- Inserting a path adds nodes only where navigations lead. -/
lemma Inserts.follows {owner : String} {q : List String} {nodes nodes' : List IncludeNode}
    (h : Inserts require owner q nodes nodes') (start : ∀ a ∈ nodes, a.Follows require owner) :
    ∀ a ∈ nodes', a.Follows require owner := by
  induction h with
  | done => exact start
  | follow hm apart _ ih =>
    intro a ha
    have others := fun b hb => start b (List.mem_append.2 hb)
    rcases List.mem_append.1 ha with ha | ha
    · exact others a (.inl ha)
    · rcases List.mem_cons.1 ha with rfl | ha
      · cases others _ (.inr (List.mem_cons_self ..)) with
        | node hm hn below => exact .node hm hn (ih below)
      · exact others a (.inr (List.mem_cons_of_mem _ ha))
  | add hm _ hn _ ih =>
    intro a ha
    rcases List.mem_append.1 ha with ha | ha
    · exact start a ha
    · cases List.mem_singleton.1 ha
      exact .node hm hn (ih (List.forall_mem_nil _))

/-- Inserting paths adds nodes only where navigations lead. -/
lemma InsertsAll.follows {owner : String} {qs : List (List String)}
    {nodes nodes' : List IncludeNode} (h : InsertsAll require owner qs nodes nodes')
    (start : ∀ a ∈ nodes, a.Follows require owner) : ∀ a ∈ nodes', a.Follows require owner := by
  induction h with
  | nil => exact start
  | cons first _ ih => exact ih (first.follows start)

/-- The nodes of a resolved tree stand for navigations. -/
lemma resolve_follows {root : String} {paths : List String} {tree : IncludeTree}
    (h : resolveFrom require root paths = .ok tree) :
    tree.root = root ∧ ∀ a ∈ tree.nodes, a.Follows require root := by
  obtain ⟨_, root, all⟩ := resolveFrom_eq_ok.1 h
  exact ⟨root, all.follows (List.forall_mem_nil _)⟩

end IncludeTree

namespace Registry

variable {r : Registry} {type : String} {m : EntityMapping}

/-- The mapping of a type is of that type. -/
lemma entityType_of_require (h : r.require type = .ok m) : m.entityType = type := by
  unfold require find? at h
  split at h
  next found =>
    cases h
    simpa using List.find?_some found
  next => cases h

end Registry

/-- What a planned type hangs off, how, and what it is are those of a navigation. -/
structure Link.Follows (r : Registry) (entities : List PlannedEntity) (l : Link)
    (e : PlannedEntity) (parent : PlannedEntity) (n : Navigation) : Prop where
  /-- The type that it hangs off was planned. -/
  planned : entities[l.parent]? = some parent
  /-- That type has the navigation. -/
  navigation : parent.mapping.navigation? l.navigation = some n
  /-- The navigation says how it hangs off that type. -/
  kind : l.kind = n.includeKind
  /-- The navigation says what it is. -/
  related : r.require n.related = .ok e.mapping
  /-- The navigation has columns to compare. -/
  joined : ∃ columns,
    PlanDraft.joinColumns parent.mapping e.mapping l.kind l.navigation = .ok columns

/-- What a link follows stays there when more is planned. -/
lemma Link.Follows.mono {r : Registry} {entities more : List PlannedEntity} {l : Link}
    {e parent : PlannedEntity} {n : Navigation} (h : l.Follows r entities e parent n) :
    l.Follows r (entities ++ more) e parent n where
  planned := getElem?_mono (List.prefix_append ..) h.planned
  navigation := h.navigation
  kind := h.kind
  related := h.related
  joined := h.joined

namespace PlanDraft

/-- Every type of a draft is mapped, and is the root or what a navigation leads to. -/
structure Follows (r : Registry) (d : PlanDraft) : Prop where
  /-- Every type is mapped. -/
  mapped : ∀ e ∈ d.entities, r.require e.mapping.entityType = .ok e.mapping
  /-- Every type but the root is what a navigation leads to. -/
  linked : ∀ e ∈ d.entities, ∀ l, e.link = some l → ∃ parent n, l.Follows r d.entities e parent n

/-- Planning a tree of navigations follows them. -/
lemma Follows.preserved (r : Registry) :
    Preserved r (Follows r) fun e a => a.Follows r.require e.mapping.entityType where
  step := fun {d} place parent _ _ _ _ related _ _ _ h hp fits hr hc he => by
    obtain ⟨_, rfl⟩ := planEntity_eq_ok he
    cases fits with
    | @node _ navigation m n _ hm hn below =>
      have type := Registry.entityType_of_require hr
      have known := h.mapped parent (List.mem_of_getElem? hp)
      rw [hm, Except.ok.injEq] at known
      subst known
      constructor
      · constructor
        · intro e he
          rcases List.mem_append.1 he with he | he
          · exact h.mapped e he
          · cases List.mem_singleton.1 he
            rw [type, hr]
        · intro e he l hl
          rcases List.mem_append.1 he with he | he
          · obtain ⟨parent, n, follows⟩ := h.linked e he l hl
            exact ⟨parent, n, follows.mono⟩
          · cases List.mem_singleton.1 he
            cases hl
            exact ⟨parent, n, getElem?_mono (List.prefix_append ..) hp, hn, rfl, hr, _, hc⟩
      · intro child hchild
        rw [type]
        exact below child hchild

/-- The root alone follows a registry that has it. -/
lemma Follows.root {root : EntityMapping} {r : Registry} {entity : PlannedEntity}
    (hroot : r.require root.entityType = .ok root)
    (he : PlanDraft.planEntity 0 rootAlias root none = .ok entity) :
    Follows r ⟨[entity], []⟩ := by
  obtain ⟨_, rfl⟩ := planEntity_eq_ok he
  constructor
  · intro e he
    cases List.mem_singleton.1 he
    exact hroot
  · intro e he l hl
    cases List.mem_singleton.1 he
    cases hl

end PlanDraft

/-- A node is planned below the type at a place, and all below it are planned below its own. -/
inductive IncludeNode.Planned (entities : List PlannedEntity) : Nat → IncludeNode → Prop where
  | node {place i e navigation related kind children} :
    entities[i]? = some e →
    e.link = some ⟨place, navigation, kind⟩ →
    e.mapping.entityType = related →
    (∀ child ∈ children, Planned entities i child) →
    Planned entities place (.node navigation related kind children)

/-- What is planned stays planned when more is. -/
lemma IncludeNode.Planned.mono {entities entities' : List PlannedEntity} {place : Nat}
    {a : IncludeNode} (h : a.Planned entities place) (before : entities <+: entities') :
    a.Planned entities' place := by
  induction h with
  | node hi hl hm _ ih => exact .node (getElem?_mono before hi) hl hm ih

namespace PlanDraft

variable {r : Registry} {dialect : Dialect}

lemma Preserved.trivial (r : Registry) : Preserved r (fun _ => True) fun _ _ => True where
  step := fun _ _ _ _ _ _ => ⟨True.intro, fun _ _ => True.intro⟩

mutual

/-- Planning a node plans it and all below it. -/
lemma planned_of_addNode {parent : PlannedEntity} {place : Nat} {b b' : Planning dialect} :
    ∀ (a : IncludeNode), Planning.addNode r parent place b a = .ok b' →
      a.Planned b'.entities place
  | .node navigation relatedType kind children, h => by
    simp only [Planning.addNode, bind_eq_ok, Prod.exists] at h
    obtain ⟨related, hr, column, parentColumn, _, entity, he, h⟩ := h
    obtain ⟨_, rfl⟩ := planEntity_eq_ok he
    have last := @List.getElem?_concat_length _ b.entities
      ⟨joinAlias b.entities.length, related, some ⟨place, navigation, kind⟩, b.columns.length⟩
    have before := ((Preserved.trivial r).addNodes True.intro last children
      (fun _ _ => True.intro) h).2
    exact .node (getElem?_mono before last) rfl (Registry.entityType_of_require hr)
      (planned_of_addNodes last children h)

/-- Planning several nodes plans them and all below them. -/
lemma planned_of_addNodes {parent : PlannedEntity} {place : Nat} {b b' : Planning dialect}
    (hp : b.entities[place]? = some parent) :
    ∀ (nodes : List IncludeNode), Planning.addNodes r parent place b nodes = .ok b' →
      ∀ a ∈ nodes, a.Planned b'.entities place
  | [], _ => List.forall_mem_nil _
  | a :: as, h => by
    simp only [Planning.addNodes, bind_eq_ok] at h
    obtain ⟨next, ha, has⟩ := h
    obtain ⟨_, before⟩ := (Preserved.trivial r).addNode True.intro hp a True.intro ha
    have hp' := getElem?_mono before hp
    have before' := ((Preserved.trivial r).addNodes True.intro hp' as (fun _ _ => True.intro) has).2
    rintro c (_ | ⟨_, hc⟩)
    · exact (planned_of_addNode a ha).mono before'
    · exact planned_of_addNodes hp' as has c hc

end

end PlanDraft

/-- All nodes of a tree are planned below its root. -/
lemma Plan.planned {dialect : Dialect} {r : Registry} {root : EntityMapping} {tree : IncludeTree}
    {p : Plan} (h : Plan.build dialect r root tree = .ok p) :
    ∀ a ∈ tree.nodes, a.Planned p.entities 0 := by
  unfold Plan.build at h
  split at h
  next => cases h
  next =>
    simp only [bind_eq_ok, pure_eq_ok] at h
    obtain ⟨entity, _, draft, hd, h⟩ := h
    cases h
    exact PlanDraft.planned_of_addNodes rfl tree.nodes hd

/-- The plan of a resolved tree follows its navigations. -/
lemma Plan.follows {dialect : Dialect} {r : Registry} {type : String} {root : EntityMapping}
    {paths : List String} {tree : IncludeTree} {p : Plan}
    (htree : IncludeTree.resolve r type paths = .ok tree) (hroot : r.require type = .ok root)
    (h : Plan.build dialect r root tree = .ok p) :
    PlanDraft.Follows r ⟨p.entities, p.joins⟩ := by
  obtain ⟨_, nodes⟩ := IncludeTree.resolve_follows htree
  have same := Registry.entityType_of_require hroot
  refine (Plan.of_build_preserved h (PlanDraft.Follows.preserved r) fun entity he => ?_).2.2.2
  refine ⟨.root (same.symm ▸ hroot) he, fun a ha => ?_⟩
  obtain ⟨_, rfl⟩ := PlanDraft.planEntity_eq_ok he
  exact same.symm ▸ nodes a ha

end RelMap
