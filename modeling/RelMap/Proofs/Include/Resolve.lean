import RelMap.Proofs.Include.Paths
import RelMap.Proofs.Include.Places
import RelMap.Proofs.Text.Part

/-!
# Resolved trees

Paths are resolved exactly when each of their segments is a navigation of the type that it comes to.
The tree then has a node for every prefix of a path and no other, and its own paths are resolved to
the same tree.
-/

namespace RelMap

/-- Segments that lead on from a type, each a navigation of the mapped type reached so far. -/
inductive Navigable (require : Resolver) : String → List String → Prop where
  | nil {owner} :
    Navigable require owner []
  | cons {owner m segment n segments} :
    require owner = .ok m →
    m.navigation? segment = some n →
    Navigable require n.related segments →
    Navigable require owner (segment :: segments)

namespace IncludeTree

open IncludeNode (Distinct names paths pathsList)

variable {require : Resolver} {owner : String} {q : List String} {qs : List (List String)}
variable {nodes nodes' : List IncludeNode}

/-- A path that is inserted consists of navigations. -/
lemma Inserts.navigable (h : Inserts require owner q nodes nodes')
    (start : ∀ a ∈ nodes, a.Follows require owner) : Navigable require owner q := by
  induction h with
  | done => exact .nil
  | @follow _ _ _ _ before _ _ _ _ after _ _ _ ih =>
    cases start _ (List.mem_append_right before (List.mem_cons_self ..)) with
    | node hm hn below => exact .cons hm hn (ih below)
  | add hm _ hn _ ih => exact .cons hm hn (ih (List.forall_mem_nil _))

/-- A path that consists of navigations can be inserted. -/
lemma exists_inserts (h : Navigable require owner q)
    (start : ∀ a ∈ nodes, a.Follows require owner) :
    ∃ nodes', Inserts require owner q nodes nodes' := by
  induction h generalizing nodes with
  | nil => exact ⟨nodes, .done⟩
  | @cons owner m segment n segments hm hn _ ih =>
    by_cases here : segment ∈ nodes.map (·.navigation)
    · obtain ⟨before, a, after, rfl, name, apart⟩ := exists_split_of_mem here
      cases start a (List.mem_append_right _ (List.mem_cons_self ..)) with
      | node hm' hn' below =>
        cases name
        cases hm.symm.trans hm'
        cases hn.symm.trans hn'
        obtain ⟨children, rest⟩ := ih below
        exact ⟨_, .follow hm apart rest⟩
    · obtain ⟨children, rest⟩ := @ih [] (List.forall_mem_nil _)
      exact ⟨_, .add hm here hn rest⟩

/-- Paths can be inserted exactly when they consist of navigations. -/
lemma exists_insertsAll_iff (start : ∀ a ∈ nodes, a.Follows require owner) :
    (∃ nodes', InsertsAll require owner qs nodes nodes') ↔
      ∀ q ∈ qs, Navigable require owner q := by
  induction qs generalizing nodes with
  | nil => exact iff_of_true ⟨nodes, .nil⟩ (List.forall_mem_nil _)
  | cons q qs ih =>
    rw [List.forall_mem_cons]
    constructor
    · rintro ⟨nodes', h⟩
      cases h with
      | cons first rest =>
        exact ⟨first.navigable start, (ih (first.follows start)).1 ⟨nodes', rest⟩⟩
    · rintro ⟨hq, hqs⟩
      obtain ⟨next, first⟩ := exists_inserts hq start
      obtain ⟨nodes', rest⟩ := (ih (first.follows start)).2 hqs
      exact ⟨nodes', .cons first rest⟩

/-- The paths to all nodes of a tree, parents before children. -/
def paths (t : IncludeTree) : List (List String) := pathsList t.nodes

/-- The dotted paths to all nodes of a tree, parents before children. -/
def dottedPaths (t : IncludeTree) : List String := t.paths.map (Text.joined ".")

/-- A tree that was resolved from paths has their prefixes, and stands for navigations. -/
structure Resolved (require : Resolver) (root : String) (includes : List String)
    (t : IncludeTree) : Prop where
  /-- The root is that of the tree. -/
  rooted : t.root = root
  /-- No two siblings have the same name. -/
  distinct : Distinct t.nodes
  /-- There is a path for every node, in the order of the nodes, which ends with its name. -/
  listed : t.paths.map List.getLast? = t.preorder.map fun a => some a.navigation
  /-- The paths to nodes are the prefixes of the given paths. -/
  mem_paths : ∀ q, q ∈ t.paths ↔ q ≠ [] ∧ ∃ path ∈ includes, q <+: pathSegments path
  /-- Every node is of the kind and the type of its navigation. -/
  follows : ∀ a ∈ t.nodes, a.Follows require root
  /-- Siblings stand in the order in which their names are first mentioned. -/
  order : ∀ q, names t.nodes q =
    ((includes.map pathSegments).filterMap (next? q)).eraseDups

lemma resolved_of_eq_ok {root : String} {includes : List String} {t : IncludeTree}
    (h : resolveFrom require root includes = .ok t) : t.Resolved require root includes := by
  obtain ⟨_, rfl, all⟩ := resolveFrom_eq_ok.1 h
  have distinct : Distinct t.nodes := all.distinct (.siblings .nil (List.forall_mem_nil _))
  have order (q) : names t.nodes q =
      ((includes.map pathSegments).filterMap (next? q)).eraseDups := by
    have start : names [] q = ([] : List String).eraseDups := IncludeNode.names_nil q
    have run := all.names q start
    rwa [List.nil_append] at run
  refine ⟨rfl, distinct, IncludeNode.getLast?_pathsList t.nodes, fun q => ?_,
    all.follows (List.forall_mem_nil _), order⟩
  rcases List.eq_nil_or_concat q with rfl | ⟨above, s, rfl⟩
  · exact iff_of_false IncludeNode.nil_notMem_pathsList fun both => both.1 rfl
  · rw [List.concat_eq_append, paths, IncludeNode.mem_pathsList_concat distinct, order,
      List.mem_eraseDups, List.mem_filterMap]
    simp [next?_eq_some]

/-- Inserting more paths goes on from what was inserted before. -/
lemma InsertsAll.append {next : List IncludeNode} {more : List (List String)}
    (h : InsertsAll require owner qs nodes next) (h' : InsertsAll require owner more next nodes') :
    InsertsAll require owner (qs ++ more) nodes nodes' := by
  induction h with
  | nil => exact h'
  | cons first _ ih => exact .cons first (ih h')

/-- Paths that begin with the name of the last node are inserted below it. -/
lemma InsertsAll.under {m : EntityMapping} (hm : require owner = .ok m) {segment related : String}
    {kind : IncludeKind} {before children children' : List IncludeNode}
    (apart : segment ∉ before.map (·.navigation))
    (h : InsertsAll require related qs children children') :
    InsertsAll require owner (qs.map (segment :: ·))
      (before ++ [.node segment related kind children])
      (before ++ [.node segment related kind children']) := by
  induction h with
  | nil => exact .nil
  | cons first _ ih => exact .cons (.follow hm apart first) ih

mutual

/-- The paths of a node rebuild it. -/
lemma insertsAll_paths {owner : String} {before : List IncludeNode} :
    ∀ a : IncludeNode, a.Follows require owner → Distinct a.children →
      a.navigation ∉ before.map (·.navigation) →
      InsertsAll require owner a.paths before (before ++ [a])
  | .node navigation _ _ children, .node hm hn follows, .siblings nodup below, apart => by
    have rest := @insertsAll_pathsList _ [] children follows below nodup
    exact .cons (.add hm apart hn .done) (rest.under hm apart)

/-- The paths of several nodes rebuild them, one after the other. -/
lemma insertsAll_pathsList {owner : String} {before : List IncludeNode} :
    ∀ as : List IncludeNode, (∀ a ∈ as, a.Follows require owner) →
      (∀ a ∈ as, Distinct a.children) → ((before ++ as).map (·.navigation)).Nodup →
      InsertsAll require owner (pathsList as) before (before ++ as)
  | [], _, _, _ => by
    rw [List.append_nil]
    exact .nil
  | a :: as, follows, below, nodup => by
    have apart : a.navigation ∉ before.map (·.navigation) := by
      rw [List.map_append, List.map_cons] at nodup
      intro again
      exact (List.nodup_append.1 nodup).2.2 _ again _ (List.mem_cons_self ..) rfl
    have first := insertsAll_paths a (follows a (List.mem_cons_self ..))
      (below a (List.mem_cons_self ..)) apart
    rw [← List.singleton_append, ← List.append_assoc] at nodup ⊢
    exact first.append (insertsAll_pathsList as (fun b hb => follows b (List.mem_cons_of_mem _ hb))
      (fun b hb => below b (List.mem_cons_of_mem _ hb)) nodup)

end

/-- No segment of a resolved tree's path has a separator. -/
lemma Resolved.notMem_of_mem_paths {root : String} {includes : List String} {t : IncludeTree}
    (h : t.Resolved require root includes) (hq : q ∈ t.paths) :
    ∀ segment ∈ q, pathSeparator ∉ segment.toList := by
  obtain ⟨_, path, _, before⟩ := (h.mem_paths q).1 hq
  exact fun segment hs => Text.notMem_of_mem_split (before.subset hs)

/-- The dotted paths of a resolved tree consist of the segments of its paths. -/
lemma Resolved.segments_dottedPaths {root : String} {includes : List String} {t : IncludeTree}
    (h : t.Resolved require root includes) : t.dottedPaths.map pathSegments = t.paths := by
  rw [dottedPaths, List.map_map]
  conv_rhs => rw [← List.map_id t.paths]
  apply List.map_congr_left
  intro q hq
  obtain ⟨segment, segments, rfl⟩ := List.exists_cons_of_ne_nil ((h.mem_paths q).1 hq).1
  exact Text.split_joined (h.notMem_of_mem_paths hq)

/--
Resolving succeeds exactly when the root is mapped and each segment of the paths is a navigation of
the mapped type reached so far. The tree then has the prefixes of the paths, whatever their order
and repetition, and its own paths are resolved to the same tree.
-/
theorem resolveFrom_resolved (require : Resolver) (root : String) (includes : List String) :
    ((∃ t, resolveFrom require root includes = .ok t) ↔
      (∃ m, require root = .ok m) ∧
        ∀ path ∈ includes, Navigable require root (pathSegments path)) ∧
    ∀ t, resolveFrom require root includes = .ok t →
      t.Resolved require root includes ∧
      (∀ includes', (∀ path, path ∈ includes' ↔ path ∈ includes) →
        ∃ t', resolveFrom require root includes' = .ok t' ∧ ∀ q, q ∈ t'.paths ↔ q ∈ t.paths) ∧
      resolveFrom require root t.dottedPaths = .ok t := by
  have succeeds (includes : List String) : (∃ t, resolveFrom require root includes = .ok t) ↔
      (∃ m, require root = .ok m) ∧
        ∀ path ∈ includes, Navigable require root (pathSegments path) := by
    have inserted := @exists_insertsAll_iff require root (includes.map pathSegments) []
      (List.forall_mem_nil _)
    rw [List.forall_mem_map] at inserted
    rw [← inserted]
    constructor
    · rintro ⟨t, ht⟩
      obtain ⟨hm, _, all⟩ := resolveFrom_eq_ok.1 ht
      exact ⟨hm, t.nodes, all⟩
    · rintro ⟨hm, nodes, all⟩
      exact ⟨⟨root, nodes⟩, resolveFrom_eq_ok.2 ⟨hm, rfl, all⟩⟩
  refine ⟨succeeds includes, fun t ht => ?_⟩
  have resolved := resolved_of_eq_ok ht
  refine ⟨resolved, fun includes' same => ?_, ?_⟩
  · obtain ⟨hm, navigable⟩ := (succeeds includes).1 ⟨t, ht⟩
    have navigable' := fun path hp => navigable path ((same path).1 hp)
    obtain ⟨t', ht'⟩ := (succeeds includes').2 ⟨hm, navigable'⟩
    refine ⟨t', ht', fun q => ?_⟩
    rw [(resolved_of_eq_ok ht').mem_paths, resolved.mem_paths]
    simp only [same]
  · obtain ⟨hm, rooted, _⟩ := resolveFrom_eq_ok.1 ht
    rw [resolveFrom_eq_ok, resolved.segments_dottedPaths]
    refine ⟨hm, rooted, ?_⟩
    cases resolved.distinct with
    | siblings nodup below =>
      exact insertsAll_pathsList t.nodes resolved.follows below nodup

/-- The children of a folder, their parents and their children, and the parent of the folder. -/
def sampleKin : IncludeTree where
  root := "Folder"
  nodes := [.node "Children" "Folder" (.collection .list)
      [.node "Parent" "Folder" .reference [], .node "Children" "Folder" (.collection .list) []],
    .node "Parent" "Folder" .reference []]

/-- Paths of which one is mentioned as the beginning of others before. -/
theorem resolveFrom_resolved_kin :
    resolveFrom (Registry.ofList [sampleFolder]).require "Folder"
        ["Children.Parent", "Parent", "Children.Children", "Children"] = .ok sampleKin ∧
      sampleKin.dottedPaths = ["Children", "Children.Parent", "Children.Children", "Parent"] ∧
      sampleKin.Resolved (Registry.ofList [sampleFolder]).require "Folder"
        ["Children.Parent", "Parent", "Children.Children", "Children"] ∧
      resolveFrom (Registry.ofList [sampleFolder]).require "Folder" sampleKin.dottedPaths =
        .ok sampleKin := by
  have resolved : resolveFrom (Registry.ofList [sampleFolder]).require "Folder"
      ["Children.Parent", "Parent", "Children.Children", "Children"] = .ok sampleKin := by
    rfl
  obtain ⟨structured, _, again⟩ := (resolveFrom_resolved _ _ _).2 sampleKin resolved
  exact ⟨resolved, by decide, structured, again⟩

end IncludeTree

end RelMap
