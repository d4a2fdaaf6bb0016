import RelMap.Proofs.Include.Address
import RelMap.Proofs.Include.Ranges

/-!
# The structure of a plan

A plan has the types of its tree in the order of the tree's nodes, each reached from the type of the
node above.
-/

namespace RelMap

open IncludeNode (At)

namespace PlanDraft

variable {r : Registry} {dialect : Dialect}

/-- Behind the first one, the types are those of some nodes with the given addresses. -/
structure Mirrors (r : Registry) (nodes : List IncludeNode) (addresses : List (List Nat))
    (entities : List PlannedEntity) : Prop where
  /-- There is a type for the root and for every node. -/
  count : entities.length = nodes.length + 1
  /-- There is an address for the root and for every node. -/
  addressed : addresses.length = nodes.length + 1
  /-- The type of a node is reached from the one whose address its own goes on from. -/
  node : ∀ i a, nodes[i]? = some a → ∃ e parent q k, entities[i + 1]? = some e ∧
    e.link = some ⟨parent, a.navigation, a.kind⟩ ∧ r.require a.related = .ok e.mapping ∧
      addresses[parent]? = some q ∧ addresses[i + 1]? = some (q ++ [k])

/-- One more type is that of one more node. -/
lemma Mirrors.step {nodes : List IncludeNode} {addresses : List (List Nat)}
    {entities : List PlannedEntity} (h : Mirrors r nodes addresses entities) {place : Nat}
    {q : List Nat} (hq : addresses[place]? = some q) (a : IncludeNode) {e : PlannedEntity}
    (hl : e.link = some ⟨place, a.navigation, a.kind⟩) (hr : r.require a.related = .ok e.mapping)
    (k : Nat) : Mirrors r (nodes ++ [a]) (addresses ++ [q ++ [k]]) (entities ++ [e]) where
  count := by simp [h.count]
  addressed := by simp [h.addressed]
  node := fun i b hb => by
    rcases getElem?_concat_eq_some.1 hb with hb | ⟨rfl, rfl⟩
    · obtain ⟨e', parent, q', k', he, hl', hr', hq', own⟩ := h.node i b hb
      exact ⟨e', parent, q', k', getElem?_concat_eq_some.2 (.inl he), hl', hr',
        getElem?_concat_eq_some.2 (.inl hq'), getElem?_concat_eq_some.2 (.inl own)⟩
    · exact ⟨e, place, q, k, getElem?_concat_eq_some.2 (.inr ⟨h.count.symm, rfl⟩), hl, hr,
        getElem?_concat_eq_some.2 (.inl hq),
        getElem?_concat_eq_some.2 (.inr ⟨h.addressed.symm, rfl⟩)⟩

mutual

/-- Planning a node plans it and all below it, parents before children. -/
lemma Mirrors.addNode {nodes : List IncludeNode} {addresses : List (List Nat)}
    {b b' : Planning dialect} (h : Mirrors r nodes addresses b.entities) {parent : PlannedEntity}
    {place : Nat} {q : List Nat} (hq : addresses[place]? = some q) (k : Nat) :
    ∀ a : IncludeNode, Planning.addNode r parent place b a = .ok b' →
      Mirrors r (nodes ++ a.preorder) (addresses ++ a.addresses (q ++ [k])) b'.entities
  | .node navigation relatedType kind children, ha => by
    simp only [Planning.addNode, bind_eq_ok, Prod.exists] at ha
    obtain ⟨related, hr, _, _, _, entity, he, ha⟩ := ha
    obtain ⟨_, planned⟩ := planEntity_eq_ok he
    have next : Mirrors r _ _ (b.entities ++ [entity]) :=
      h.step hq (.node navigation relatedType kind children) (by rw [planned]; rfl)
        (by rw [planned]; exact hr) k
    have own : (addresses ++ [q ++ [k]])[b.entities.length]? = some (q ++ [k]) :=
      getElem?_concat_eq_some.2 (.inr ⟨h.count.trans h.addressed.symm, rfl⟩)
    have done := Mirrors.addNodes next own 0 children ha
    rw [List.append_assoc, List.append_assoc] at done
    exact done

/-- Planning several nodes plans each of them and all below it, one after the other. -/
lemma Mirrors.addNodes {nodes : List IncludeNode} {addresses : List (List Nat)}
    {b b' : Planning dialect} (h : Mirrors r nodes addresses b.entities) {parent : PlannedEntity}
    {place : Nat} {q : List Nat} (hq : addresses[place]? = some q) (k : Nat) :
    ∀ as : List IncludeNode, Planning.addNodes r parent place b as = .ok b' →
      Mirrors r (nodes ++ IncludeNode.preorderList as)
        (addresses ++ IncludeNode.addressesList q k as) b'.entities
  | [], ha => by
    cases ha
    rw [IncludeNode.preorderList, IncludeNode.addressesList, List.append_nil, List.append_nil]
    exact h
  | a :: as, ha => by
    simp only [Planning.addNodes, bind_eq_ok] at ha
    obtain ⟨next, ha, has⟩ := ha
    have first := Mirrors.addNode h hq k a ha
    have done := Mirrors.addNodes first (getElem?_mono (List.prefix_append ..) hq) (k + 1) as has
    rw [List.append_assoc, List.append_assoc] at done
    exact done

end

end PlanDraft

namespace Plan

/-- The types of a plan are the root and those of a tree's nodes, in the order of the nodes. -/
structure Mirrors (r : Registry) (root : EntityMapping) (t : IncludeTree) (p : Plan) : Prop where
  /-- There is a type for the root and for every node. -/
  count : p.entities.length = t.preorder.length + 1
  /-- The first type is the root. -/
  root : p.entities[0]? = some ⟨"a", root, none, 0⟩
  /-- No two nodes have the same address. -/
  distinct : t.addresses.Nodup
  /-- The type of a node is named for its place, and is reached from that of the node above. -/
  node : ∀ i a, t.preorder[i]? = some a → ∃ e parent q k, p.entities[i + 1]? = some e ∧
    e.tableAlias = "b" ++ toString (i + 1) ∧ e.link = some ⟨parent, a.navigation, a.kind⟩ ∧
      r.require a.related = .ok e.mapping ∧ parent < i + 1 ∧ At t.nodes (q ++ [k]) a ∧
        t.addresses[parent]? = some q ∧ t.addresses[i + 1]? = some (q ++ [k])

/-- A plan that was built for a tree, for a root, has all types of the tree. -/
structure Structured (dialect : Dialect) (r : Registry) (root : EntityMapping) (t : IncludeTree)
    (p : Plan) : Prop where
  /-- The plan is for the dialect and the root, which is that of the tree. -/
  parameters : p.dialect = dialect ∧ p.root = root ∧ t.root = root.entityType
  /-- The root and all nodes are counted. -/
  count : p.typeCount = t.size + 1
  /-- The types are those of the tree. -/
  mirrors : p.Mirrors r root t
  /-- The columns lie in ranges, one for each type. -/
  partitioned : p.Partitioned
  /-- The statement selects the columns in order, and joins each type to the one above. -/
  selects : ∃ items joins, p.Selects items joins

variable {dialect : Dialect} {r : Registry} {root : EntityMapping} {t : IncludeTree} {p : Plan}

lemma mirrors (h : Plan.build dialect r root t = .ok p) : p.Mirrors r root t := by
  obtain ⟨_, _, grown⟩ := of_build h
  unfold Plan.build at h
  split at h
  next => cases h
  next =>
    simp only [bind_eq_ok, pure_eq_ok] at h
    obtain ⟨entity, he, b, hb, h⟩ := h
    cases h
    obtain ⟨_, rfl⟩ := PlanDraft.planEntity_eq_ok he
    have start : PlanDraft.Mirrors r [] [[]] [⟨rootAlias, root, none, 0⟩] :=
      ⟨rfl, rfl, fun _ _ none => by cases none⟩
    have done : PlanDraft.Mirrors r t.preorder t.addresses b.entities :=
      start.addNodes rfl 0 t.nodes hb
    obtain ⟨_, before⟩ := (PlanDraft.Preserved.trivial r).addNodes True.intro
      (List.getElem?_cons_zero ..) t.nodes (fun _ _ => True.intro) hb
    constructor
    · exact done.count
    · exact getElem?_mono before (List.getElem?_cons_zero ..)
    · exact t.nodup_addresses
    · intro i a ha
      obtain ⟨e, parent, q, k, hi, hl, hr, hq, own⟩ := done.node i a ha
      exact ⟨e, parent, q, k, hi, (grown.alias_eq hi).1, hl, hr, grown.parent_lt hi hl,
        IncludeTree.at_address ha own, hq, own⟩

/-- Every plan that is built has the structure of its tree. -/
theorem build_structured (h : Plan.build dialect r root t = .ok p) :
    p.Structured dialect r root t := by
  obtain ⟨hd, hroot, grown⟩ := of_build h
  have same := (of_build_preserved h (PlanDraft.Preserved.trivial r)
    fun _ _ => ⟨True.intro, fun _ _ => True.intro⟩).2.2.1
  have mirrors := mirrors h
  have count : p.typeCount = t.size + 1 := by
    rw [p.counted, mirrors.count, t.length_preorder]
  exact ⟨⟨hd, hroot, same⟩, count, mirrors, partitioned grown, selects grown⟩

/-- The parent of a folder, its children, and the parent of each of them. -/
def sampleSurroundings : IncludeTree where
  root := "Folder"
  nodes := [.node "Parent" "Folder" .reference [],
    .node "Children" "Folder" (.collection .list) [.node "Parent" "Folder" .reference []]]

/-- The statement for a tree of folders, with the structure of the tree. -/
theorem build_structured_surroundings :
    ∃ p, Plan.build .mySql (.ofList [sampleFolder]) sampleFolder sampleSurroundings = .ok p ∧
      p.entities.map (·.link) = [none, some ⟨0, "Parent", .reference⟩,
        some ⟨0, "Children", .collection .list⟩, some ⟨2, "Parent", .reference⟩] ∧
      p.joins.map (Join.sql .mySql) = [
        "LEFT JOIN \x60Folders\x60 b1 ON b1.\x60Id\x60 = a.\x60Parent_\x60",
        "LEFT JOIN \x60Folders\x60 b2 ON b2.\x60Parent_\x60 = a.\x60Id\x60",
        "LEFT JOIN \x60Folders\x60 b3 ON b3.\x60Id\x60 = b2.\x60Parent_\x60"] ∧
      p.Structured .mySql (.ofList [sampleFolder]) sampleFolder sampleSurroundings :=
  ⟨_, rfl, by decide, by decide, build_structured rfl⟩

end Plan

end RelMap
