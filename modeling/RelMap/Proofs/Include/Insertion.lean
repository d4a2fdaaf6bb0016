import RelMap.Include.Tree
import RelMap.Proofs.Except

/-!
# Inserting paths

What one segment of a path can do to the nodes that it comes to: it leads on below the first node of
its name, or, where there is no such node, below a new one behind all others.
-/

namespace RelMap

/-- Where the first node of a name stands among several. -/
lemma exists_split_of_mem {nodes : List IncludeNode} {segment : String}
    (h : segment ∈ nodes.map (·.navigation)) :
    ∃ before a after, nodes = before ++ a :: after ∧ a.navigation = segment ∧
      segment ∉ before.map (·.navigation) := by
  induction nodes with
  | nil => cases h
  | cons a as ih =>
    by_cases here : a.navigation = segment
    · exact ⟨[], a, as, rfl, here, List.not_mem_nil⟩
    · rw [List.map_cons, List.mem_cons] at h
      obtain ⟨before, b, after, rfl, name, apart⟩ := ih (h.resolve_left fun same => here same.symm)
      refine ⟨a :: before, b, after, rfl, name, ?_⟩
      rw [List.map_cons, List.mem_cons, not_or]
      exact ⟨fun same => here same.symm, apart⟩

namespace IncludeTree

section
variable {ε : Type} {segment : String} {change : IncludeNode → Except ε IncludeNode}

/-- There is nothing to change where no node has the name. -/
lemma changeNode_of_notMem {nodes : List IncludeNode}
    (h : segment ∉ nodes.map (·.navigation)) : changeNode segment change nodes = .ok none := by
  induction nodes with
  | nil => rfl
  | cons a as ih =>
    rw [List.map_cons, List.mem_cons, not_or] at h
    rw [changeNode, if_neg (Ne.symm h.1), ih h.2]
    rfl

/-- The first node of a name is changed. -/
lemma changeNode_append {before : List IncludeNode} (h : segment ∉ before.map (·.navigation))
    {a : IncludeNode} (name : a.navigation = segment) (after : List IncludeNode) :
    changeNode segment change (before ++ a :: after) =
      change a >>= fun b => .ok (some (before ++ b :: after)) := by
  induction before with
  | nil =>
    rw [List.nil_append, changeNode, if_pos name]
    rfl
  | cons c before ih =>
    rw [List.map_cons, List.mem_cons, not_or] at h
    rw [List.cons_append, changeNode, if_neg (Ne.symm h.1), ih h.2]
    cases change a <;> rfl

end

/-- Segments of a path lead from a type, some nodes below it being there, to more nodes. -/
inductive Inserts (require : Resolver) :
    String → List String → List IncludeNode → List IncludeNode → Prop where
  | done {owner nodes} :
    Inserts require owner [] nodes nodes
  | follow {owner m segment segments before related kind children children' after} :
    require owner = .ok m →
    segment ∉ before.map (·.navigation) →
    Inserts require related segments children children' →
    Inserts require owner (segment :: segments)
      (before ++ .node segment related kind children :: after)
      (before ++ .node segment related kind children' :: after)
  | add {owner m segment n segments nodes children} :
    require owner = .ok m →
    segment ∉ nodes.map (·.navigation) →
    m.navigation? segment = some n →
    Inserts require n.related segments [] children →
    Inserts require owner (segment :: segments) nodes
      (nodes ++ [.node segment n.related n.includeKind children])

variable {require : Resolver}

/-- What inserting the segments of a path comes to. -/
lemma insertSegments_eq_ok {path owner : String} {segments : List String}
    {nodes nodes' : List IncludeNode} :
    insertSegments require path owner segments nodes = .ok nodes' ↔
      Inserts require owner segments nodes nodes' := by
  induction segments generalizing owner nodes nodes' with
  | nil =>
    constructor
    · intro h
      cases h
      exact .done
    · intro h
      cases h
      rfl
  | cons segment segments ih =>
    constructor
    · intro h
      simp only [insertSegments, bind_eq_ok] at h
      obtain ⟨m, hm, found, hf, h⟩ := h
      by_cases here : segment ∈ nodes.map (·.navigation)
      · obtain ⟨before, ⟨_, related, kind, children⟩, after, rfl, rfl, apart⟩ :=
          exists_split_of_mem here
        simp only [changeNode_append apart rfl, bind_eq_ok] at hf
        obtain ⟨_, ⟨children', hc, changed⟩, hf⟩ := hf
        cases changed
        cases hf
        cases h
        exact .follow hm apart (ih.1 hc)
      · rw [changeNode_of_notMem here] at hf
        cases hf
        simp only [newNode, bind_eq_ok] at h
        obtain ⟨a, ha, _, ⟨children, hc, added⟩, h⟩ := h
        cases hn : m.navigation? segment with
        | none =>
          rw [hn] at ha
          cases ha
        | some n =>
          rw [hn] at ha
          cases ha
          cases added
          cases h
          exact .add hm here hn (ih.1 hc)
    · intro h
      cases h with
      | @follow _ _ _ _ _ related kind children children' _ hm apart rest =>
        have name : (IncludeNode.node segment related kind children).navigation = segment := rfl
        have below : insertSegments require path
            (IncludeNode.node segment related kind children).related segments
            (IncludeNode.node segment related kind children).children = .ok children' := ih.2 rest
        simp only [insertSegments, hm, ok_bind, changeNode_append apart name, below]
        rfl
      | @add _ _ _ n _ _ children hm apart hn rest =>
        have below : insertSegments require path
            (IncludeNode.node segment n.related n.includeKind []).related segments
            (IncludeNode.node segment n.related n.includeKind []).children = .ok children :=
          ih.2 rest
        simp only [insertSegments, hm, ok_bind, changeNode_of_notMem apart, newNode, hn, below]
        rfl

/-- The segments of several paths lead one after the other to more nodes. -/
inductive InsertsAll (require : Resolver) (owner : String) :
    List (List String) → List IncludeNode → List IncludeNode → Prop where
  | nil {nodes} : InsertsAll require owner [] nodes nodes
  | cons {q qs nodes next nodes'} :
    Inserts require owner q nodes next →
    InsertsAll require owner qs next nodes' →
    InsertsAll require owner (q :: qs) nodes nodes'

/-- What inserting several paths comes to. -/
lemma insertPaths_eq_ok {root : String} {paths : List String} {nodes nodes' : List IncludeNode} :
    insertPaths require root paths nodes = .ok nodes' ↔
      InsertsAll require root (paths.map pathSegments) nodes nodes' := by
  induction paths generalizing nodes with
  | nil =>
    constructor
    · intro h
      cases h
      exact .nil
    · intro h
      cases h
      rfl
  | cons path paths ih =>
    rw [insertPaths, bind_eq_ok]
    constructor
    · rintro ⟨next, hn, h⟩
      exact .cons (insertSegments_eq_ok.1 hn) (ih.1 h)
    · intro h
      cases h with
      | cons hn h => exact ⟨_, insertSegments_eq_ok.2 hn, ih.2 h⟩

/-- What resolving paths comes to. -/
lemma resolveFrom_eq_ok {root : String} {paths : List String} {t : IncludeTree} :
    resolveFrom require root paths = .ok t ↔ (∃ m, require root = .ok m) ∧ t.root = root ∧
      InsertsAll require root (paths.map pathSegments) [] t.nodes := by
  simp only [resolveFrom, bind_eq_ok, pure_eq_ok, insertPaths_eq_ok]
  constructor
  · rintro ⟨m, hm, nodes, h, same⟩
    cases same
    exact ⟨⟨m, hm⟩, rfl, h⟩
  · rintro ⟨⟨m, hm⟩, rfl, h⟩
    exact ⟨m, hm, t.nodes, h, rfl⟩

end IncludeTree

end RelMap
