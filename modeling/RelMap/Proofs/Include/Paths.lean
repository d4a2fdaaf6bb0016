import RelMap.Proofs.Include.Tree

/-!
# Paths of a tree

The paths that lead from the root of a tree to its nodes. Inserting a path into a tree adds its
prefixes, each new navigation behind its siblings, so that no two siblings have the same name and
siblings stand in the order of their first mention.
-/

namespace RelMap

namespace IncludeNode

/-- No two siblings have the same name. -/
inductive Distinct : List IncludeNode → Prop where
  | siblings {nodes} :
    (nodes.map (·.navigation)).Nodup →
    (∀ a ∈ nodes, Distinct a.children) →
    Distinct nodes

mutual

/-- The paths to a node and to all below it, parents before children. -/
def paths : IncludeNode → List (List String)
  | .node navigation _ _ children => [navigation] :: (pathsList children).map (navigation :: ·)

/-- The paths to several nodes and to all below them. -/
def pathsList : List IncludeNode → List (List String)
  | [] => []
  | a :: as => paths a ++ pathsList as

end

/-- The names of the nodes right below a path, in order. -/
def names : List IncludeNode → List String → List String
  | nodes, [] => nodes.map (·.navigation)
  | nodes, segment :: q =>
    match nodes.find? (·.navigation == segment) with
    | some a => names a.children q
    | none => []

lemma names_nil (q : List String) : names [] q = [] := by
  cases q <;> rfl

lemma find?_of_notMem {nodes : List IncludeNode} {segment : String}
    (h : segment ∉ nodes.map (·.navigation)) :
    nodes.find? (·.navigation == segment) = none := by
  rw [List.find?_eq_none]
  intro b hb same
  exact h (List.mem_map.2 ⟨b, hb, beq_iff_eq.1 same⟩)

/-- The first node of a name leads on. -/
lemma names_of_split {before : List IncludeNode} {segment : String}
    (h : segment ∉ before.map (·.navigation)) {a : IncludeNode} (name : a.navigation = segment)
    (after : List IncludeNode) (q : List String) :
    names (before ++ a :: after) (segment :: q) = names a.children q := by
  have first : (a :: after).find? (·.navigation == segment) = some a :=
    List.find?_cons_of_pos (beq_iff_eq.2 name)
  rw [names, List.find?_append, find?_of_notMem h, Option.none_or, first]

lemma names_of_notMem {nodes : List IncludeNode} {segment : String}
    (h : segment ∉ nodes.map (·.navigation)) (q : List String) :
    names nodes (segment :: q) = [] := by
  rw [names, find?_of_notMem h]

/-- Other nodes do not matter to what lies below a name. -/
lemma names_congr {before after : List IncludeNode} {a b : IncludeNode} {other : String}
    (ha : a.navigation ≠ other) (hb : b.navigation ≠ other) (q : List String) :
    names (before ++ a :: after) (other :: q) = names (before ++ b :: after) (other :: q) := by
  rw [names, names, List.find?_append, List.find?_append,
    List.find?_cons_of_neg (by simpa using ha), List.find?_cons_of_neg (by simpa using hb)]

lemma names_concat_of_ne {nodes : List IncludeNode} {a : IncludeNode} {other : String}
    (ha : a.navigation ≠ other) (q : List String) :
    names (nodes ++ [a]) (other :: q) = names nodes (other :: q) := by
  rw [names, names, List.find?_append, List.find?_cons_of_neg (by simpa using ha), List.find?_nil,
    Option.or_none]

lemma nil_notMem_pathsList {nodes : List IncludeNode} : [] ∉ pathsList nodes := by
  induction nodes with
  | nil => exact List.not_mem_nil
  | cons a as ih =>
    obtain ⟨navigation, related, kind, children⟩ := a
    rw [pathsList, List.mem_append, not_or, paths, List.mem_cons, not_or, List.mem_map]
    exact ⟨⟨nofun, fun ⟨_, _, eq⟩ => nomatch eq⟩, ih⟩

mutual

lemma getLast?_paths :
    ∀ a : IncludeNode, a.paths.map List.getLast? = a.preorder.map fun b => some b.navigation
  | .node navigation related kind children => by
    rw [paths, preorder, List.map_cons, List.map_cons, List.map_map,
      ← getLast?_pathsList children]
    apply congrArg (some navigation :: ·)
    apply List.map_congr_left
    intro q hq
    cases q with
    | nil => exact absurd hq nil_notMem_pathsList
    | cons s rest => exact List.getLast?_cons_cons

/-- The paths to nodes end with the names of the nodes. -/
lemma getLast?_pathsList :
    ∀ as : List IncludeNode,
      (pathsList as).map List.getLast? = (preorderList as).map fun b => some b.navigation
  | [] => rfl
  | a :: as => by
    rw [pathsList, preorderList, List.map_append, List.map_append, getLast?_paths a,
      getLast?_pathsList as]

end

/-- A path leads to a node of its first name, or to one below such a node. -/
lemma mem_pathsList {nodes : List IncludeNode} {s : String} {q : List String} :
    s :: q ∈ pathsList nodes ↔
      ∃ a ∈ nodes, a.navigation = s ∧ (q = [] ∨ q ∈ pathsList a.children) := by
  induction nodes with
  | nil => exact iff_of_false List.not_mem_nil fun ⟨_, h, _⟩ => List.not_mem_nil h
  | cons a as ih =>
    obtain ⟨navigation, related, kind, children⟩ := a
    rw [pathsList, List.mem_append, ih, paths, List.exists_mem_cons_iff, List.mem_cons,
      List.mem_map]
    apply or_congr_left
    constructor
    · rintro (eq | ⟨p, hp, eq⟩)
      · cases eq
        exact ⟨rfl, .inl rfl⟩
      · cases eq
        exact ⟨rfl, .inr hp⟩
    · rintro ⟨rfl, rfl | hq⟩
      · exact .inl rfl
      · exact .inr ⟨q, hq, rfl⟩

/-- The paths to a node and to those below it begin with its name. -/
lemma navigation_of_mem_paths {a : IncludeNode} {s : String} {q : List String}
    (h : s :: q ∈ a.paths) : a.navigation = s := by
  have among : s :: q ∈ pathsList [a] := List.mem_append_left _ h
  obtain ⟨b, hb, name, _⟩ := mem_pathsList.1 among
  rw [← List.mem_singleton.1 hb, name]

mutual

lemma nodup_paths : ∀ a : IncludeNode, Distinct a.children → a.paths.Nodup
  | .node navigation _ _ children, h => by
    rw [paths, List.nodup_cons]
    refine ⟨fun again => ?_, (nodup_pathsList children h).map List.cons_injective⟩
    obtain ⟨q, hq, eq⟩ := List.mem_map.1 again
    cases eq
    exact nil_notMem_pathsList hq

/-- No two nodes have the same path. -/
lemma nodup_pathsList : ∀ nodes : List IncludeNode, Distinct nodes → (pathsList nodes).Nodup
  | [], _ => .nil
  | a :: as, .siblings nodup below => by
    rw [List.map_cons, List.nodup_cons] at nodup
    have first := nodup_paths a (below a (List.mem_cons_self ..))
    have others := nodup_pathsList as
      (.siblings nodup.2 fun b hb => below b (List.mem_cons_of_mem _ hb))
    refine List.nodup_append.2 ⟨first, others, fun q hq q' hq' same => ?_⟩
    cases q with
    | nil => exact nil_notMem_pathsList (same ▸ hq')
    | cons s q =>
      obtain ⟨b, hb, name, _⟩ := mem_pathsList.1 (same ▸ hq')
      exact nodup.1 (List.mem_map.2 ⟨b, hb, name.trans (navigation_of_mem_paths hq).symm⟩)

end

/-- The paths are those that go on to a name below a path. -/
lemma mem_pathsList_concat {nodes : List IncludeNode} (h : Distinct nodes) {q : List String}
    {s : String} : q ++ [s] ∈ pathsList nodes ↔ s ∈ names nodes q := by
  induction q generalizing nodes with
  | nil =>
    rw [List.nil_append, mem_pathsList, names, List.mem_map]
    exact exists_congr fun a => and_congr_right fun _ => and_iff_left (.inl rfl)
  | cons first q ih =>
    cases h with
    | siblings nodup below =>
      rw [List.cons_append, mem_pathsList]
      by_cases here : first ∈ nodes.map (·.navigation)
      · obtain ⟨before, a, after, rfl, name, apart⟩ := exists_split_of_mem here
        have ha : a ∈ before ++ a :: after := List.mem_append_right _ (List.mem_cons_self ..)
        rw [names_of_split apart name, ← ih (below a ha)]
        constructor
        · rintro ⟨b, hb, same, none | hq⟩
          · exact absurd none (List.append_ne_nil_of_right_ne_nil _ (List.cons_ne_nil s []))
          · have eq : b = a := List.inj_on_of_nodup_map nodup hb ha (same.trans name.symm)
            exact eq ▸ hq
        · intro hq
          exact ⟨a, ha, name, .inr hq⟩
      · rw [names_of_notMem here]
        refine iff_of_false (fun ⟨b, hb, same, _⟩ => ?_) List.not_mem_nil
        exact here (List.mem_map.2 ⟨b, hb, same⟩)

end IncludeNode

/-- The segment that some segments have behind others, if they begin with these. -/
def next? : List String → List String → Option String
  | [], segments => segments.head?
  | _ :: _, [] => none
  | s :: q, segment :: segments => if s = segment then next? q segments else none

lemma next?_nil_right (q : List String) : next? q [] = none := by
  cases q <;> rfl

lemma next?_eq_some {q segments : List String} {s : String} :
    next? q segments = some s ↔ q ++ [s] <+: segments := by
  induction q generalizing segments with
  | nil =>
    cases segments with
    | nil => simp [next?]
    | cons segment segments => simp [next?, eq_comm]
  | cons first q ih =>
    cases segments with
    | nil => simp [next?]
    | cons segment segments =>
      rw [next?, List.cons_append, List.cons_prefix_cons, ← ih]
      split
      next same => simp [same]
      next apart => simp [apart]

/-- A list with one more item, unless it has it already. -/
def mention (l : List String) : Option String → List String
  | none => l
  | some s => if s ∈ l then l else l ++ [s]

namespace IncludeTree

open IncludeNode (Distinct names)

variable {require : Resolver} {owner : String} {q : List String} {nodes nodes' : List IncludeNode}

/-- Inserting a path mentions each of its segments behind those before it. -/
lemma Inserts.names (h : Inserts require owner q nodes nodes') (above : List String) :
    names nodes' above = mention (names nodes above) (next? above q) := by
  induction h generalizing above with
  | done => rw [next?_nil_right, mention]
  | @follow _ _ segment segments before related kind children children' after _ apart _ ih =>
    cases above with
    | nil => simp [IncludeNode.names, next?, mention, IncludeNode.navigation]
    | cons s above =>
      rw [next?]
      by_cases same : s = segment
      · rw [same, if_pos rfl, IncludeNode.names_of_split apart rfl,
          IncludeNode.names_of_split apart rfl]
        exact ih above
      · rw [if_neg same, mention]
        exact IncludeNode.names_congr (Ne.symm same) (Ne.symm same) above
  | @add _ _ segment n segments nodes children _ apart _ _ ih =>
    cases above with
    | nil =>
      rw [IncludeNode.names, IncludeNode.names, List.map_append, next?, List.head?_cons, mention,
        if_neg apart]
      rfl
    | cons s above =>
      rw [next?]
      by_cases same : s = segment
      · rw [same, if_pos rfl, IncludeNode.names_of_split apart rfl,
          IncludeNode.names_of_notMem apart, ← IncludeNode.names_nil above]
        exact ih above
      · rw [if_neg same, mention]
        exact IncludeNode.names_concat_of_ne (Ne.symm same) above

/-- Below every path, the nodes stand in the order in which their names were first mentioned. -/
lemma InsertsAll.names {qs : List (List String)} (h : InsertsAll require owner qs nodes nodes')
    (above : List String) {before : List String}
    (start : names nodes above = before.eraseDups) :
    names nodes' above = (before ++ qs.filterMap (next? above)).eraseDups := by
  induction h generalizing before with
  | nil => rw [List.filterMap_nil, List.append_nil, start]
  | @cons q qs _ _ _ first _ ih =>
    have step := first.names above
    rw [start] at step
    cases hn : next? above q with
    | none =>
      rw [hn] at step
      rw [List.filterMap_cons_none hn]
      exact ih step
    | some s =>
      rw [hn, mention] at step
      rw [List.filterMap_cons_some hn, ← List.singleton_append, ← List.append_assoc]
      apply ih
      rw [step, eraseDups_concat]
      exact if_congr List.mem_eraseDups rfl rfl

/-- Inserting a path keeps the names of siblings distinct. -/
lemma Inserts.distinct (h : Inserts require owner q nodes nodes') (start : Distinct nodes) :
    Distinct nodes' := by
  induction h with
  | done => exact start
  | follow _ _ _ ih =>
    cases start with
    | siblings nodup below =>
      constructor
      · rw [List.map_append, List.map_cons] at nodup ⊢
        exact nodup
      · intro a ha
        rcases List.mem_append.1 ha with ha | ha
        · exact below a (List.mem_append_left _ ha)
        · rcases List.mem_cons.1 ha with rfl | ha
          · exact ih (below _ (List.mem_append_right _ (List.mem_cons_self ..)))
          · exact below a (List.mem_append_right _ (List.mem_cons_of_mem _ ha))
  | @add _ _ segment _ _ _ _ _ apart _ _ ih =>
    cases start with
    | siblings nodup below =>
      constructor
      · rw [List.map_append]
        refine List.nodup_append.2 ⟨nodup, List.nodup_singleton _, fun s hs s' hs' same => ?_⟩
        have last : s = segment := same.trans (List.mem_singleton.1 hs')
        exact apart (last ▸ hs)
      · intro a ha
        rcases List.mem_append.1 ha with ha | ha
        · exact below a ha
        · cases List.mem_singleton.1 ha
          exact ih (.siblings .nil (List.forall_mem_nil _))

lemma InsertsAll.distinct {qs : List (List String)} (h : InsertsAll require owner qs nodes nodes')
    (start : Distinct nodes) : Distinct nodes' := by
  induction h with
  | nil => exact start
  | cons first _ ih => exact ih (first.distinct start)

end IncludeTree

end RelMap
