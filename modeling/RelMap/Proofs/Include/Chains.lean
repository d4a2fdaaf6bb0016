import RelMap.Proofs.Include.Address
import RelMap.Proofs.Include.Resolve

/-!
# Trees of include chains

Chains mention no path twice, and mention a path only behind all of its beginnings. So a tree that
is resolved from chains has a node for each of their paths, and no other one.
-/

namespace RelMap

/-- A call that adds to include chains. -/
inductive ChainCall where
  /-- Start a chain at the root. -/
  | start (navigation : String)
  /-- Extend the current chain. -/
  | extend (navigation : String)

namespace ChainCall

/-- The navigation that a call adds. -/
def navigation : ChainCall → String
  | .start n | .extend n => n

/-- The chains after a call. -/
def apply (c : IncludeChains) : ChainCall → IncludeChains
  | .start n => c.start n
  | .extend n => c.extend n

end ChainCall

namespace IncludeChains

/-- The chains that several calls lead to. -/
def ofCalls (calls : List ChainCall) : IncludeChains := calls.foldl ChainCall.apply .empty

/-- Wherever a path has a dot, what it has before the dot is itself a path, mentioned before. -/
def ParentsFirst (paths : List String) : Prop :=
  ∀ before path after, paths = before ++ path :: after →
    ∀ above below, path = above ++ "." ++ below → above ∈ before

variable {c : IncludeChains} {paths : List String} {path : String}

/-- What stands before a dot of a path is among the paths as well. -/
lemma ParentsFirst.mem (h : ParentsFirst paths) {above below : String}
    (hp : above ++ "." ++ below ∈ paths) : above ∈ paths := by
  obtain ⟨before, after, rfl⟩ := List.append_of_mem hp
  exact List.mem_append_left _ (h _ _ _ rfl above below rfl)

/-- A path may be mentioned behind all of its beginnings. -/
lemma ParentsFirst.concat (h : ParentsFirst paths)
    (beginnings : ∀ above below, path = above ++ "." ++ below → above ∈ paths) :
    ParentsFirst (paths ++ [path]) := by
  intro before p after eq above below hp
  rcases List.eq_nil_or_concat after with rfl | ⟨after, last, rfl⟩
  · obtain ⟨rfl, same⟩ := List.append_inj' eq rfl
    cases same
    exact beginnings above below hp
  · rw [List.concat_eq_append, ← List.cons_append, ← List.append_assoc] at eq
    obtain ⟨rfl, -⟩ := List.append_inj' eq rfl
    exact h before p after rfl above below hp

lemma toList_extended (parent navigation : String) :
    (parent ++ "." ++ navigation).toList = parent.toList ++ pathSeparator :: navigation.toList := by
  rw [String.toList_append, String.toList_append, List.append_assoc]
  rfl

/-- A dot of an extended chain is the one that was added, or one of the chain before. -/
lemma dot_of_extended {parent navigation above below : String}
    (dotFree : pathSeparator ∉ navigation.toList)
    (h : parent ++ "." ++ navigation = above ++ "." ++ below) :
    above = parent ∨ ∃ between, parent = above ++ "." ++ between := by
  have chars := congrArg String.toList h
  rw [toList_extended, toList_extended] at chars
  rcases cut_before_last dotFree chars with same | ⟨between, longer⟩
  · exact .inl (String.toList_inj.1 same)
  · refine .inr ⟨String.ofList between, String.toList_inj.1 ?_⟩
    rw [longer, toList_extended, String.toList_ofList]

/-- No path is mentioned twice or before its beginnings, and the current one is mentioned. -/
structure Sound (c : IncludeChains) : Prop where
  nodup : c.paths.Nodup
  parentsFirst : ParentsFirst c.paths
  current : ∀ path, c.current = some path → path ∈ c.paths

lemma Sound.empty : Sound .empty where
  nodup := .nil
  parentsFirst := fun before _ _ h => absurd h.symm (List.append_ne_nil_of_right_ne_nil before nofun)
  current := nofun

/-- A path that comes behind its beginnings is mentioned once. -/
lemma Sound.push (h : c.Sound)
    (beginnings : ∀ above below, path = above ++ "." ++ below → above ∈ c.paths) :
    (c.push path).Sound := by
  unfold IncludeChains.push
  split
  next old =>
    exact ⟨h.nodup, h.parentsFirst, fun _ same => Option.some.inj same ▸ old⟩
  next new =>
    refine ⟨?_, h.parentsFirst.concat beginnings, fun _ same => ?_⟩
    · exact List.nodup_append.2 ⟨h.nodup, List.nodup_singleton path, fun a ha b hb same =>
        new (List.mem_singleton.1 hb ▸ same ▸ ha)⟩
    · exact List.mem_append_right _ (Option.some.inj same ▸ List.mem_singleton_self path)

/-- Each call keeps the chains sound, as long as it adds a single navigation. -/
lemma Sound.apply (h : c.Sound) {call : ChainCall}
    (dotFree : pathSeparator ∉ call.navigation.toList) : (call.apply c).Sound := by
  -- A path without a dot has no beginnings.
  have single : ∀ above below, call.navigation = above ++ "." ++ below → above ∈ c.paths := by
    intro above below same
    refine absurd ?_ dotFree
    rw [same, toList_extended]
    exact List.mem_append_right _ (List.mem_cons_self ..)
  cases call with
  | start n => exact h.push single
  | extend n =>
    rw [ChainCall.apply, IncludeChains.extend]
    cases current : c.current with
    | none => exact h.push single
    | some parent =>
      have mentioned := h.current parent current
      refine h.push fun above below same => ?_
      rcases dot_of_extended dotFree same with rfl | ⟨between, rfl⟩
      · exact mentioned
      · exact h.parentsFirst.mem mentioned

/-- Calls that add single navigations lead to sound chains. -/
lemma sound_ofCalls {calls : List ChainCall}
    (dotFree : ∀ call ∈ calls, pathSeparator ∉ call.navigation.toList) :
    (ofCalls calls).Sound := by
  unfold ofCalls
  have start : Sound .empty := .empty
  generalize IncludeChains.empty = c at start ⊢
  induction calls generalizing c with
  | nil => exact start
  | cons call calls ih =>
    rw [List.forall_mem_cons] at dotFree
    exact ih dotFree.2 _ (start.apply dotFree.1)

end IncludeChains

namespace IncludeTree

variable {require : Resolver} {root : String} {includes : List String} {t : IncludeTree}

lemma joined_pathSegments (path : String) : Text.joined "." (pathSegments path) = path :=
  Text.joined_split pathSeparator path

/-- The segments that a path begins with are those of a path that is included too. -/
lemma mem_segments_of_prefix (closed : IncludeChains.ParentsFirst includes) {path : String}
    (hp : path ∈ includes) {q : List String} (h : q ≠ []) (before : q <+: pathSegments path) :
    q ∈ includes.map pathSegments := by
  obtain ⟨rest, eq⟩ := before
  cases rest with
  | nil =>
    rw [List.append_nil] at eq
    exact List.mem_map.2 ⟨path, hp, eq.symm⟩
  | cons s rest =>
    have cut : path = Text.joined "." q ++ "." ++ Text.joined "." (s :: rest) := by
      rw [← Text.joined_append h (List.cons_ne_nil s rest), eq, joined_pathSegments]
    rw [cut] at hp
    refine List.mem_map.2 ⟨Text.joined "." q, closed.mem hp, ?_⟩
    obtain ⟨first, others, rfl⟩ := List.exists_cons_of_ne_nil h
    refine Text.split_joined fun segment hs => ?_
    have among : segment ∈ pathSegments path := by
      rw [← eq]
      exact List.mem_append_left _ hs
    exact Text.notMem_of_mem_split among

/-- A tree of paths that come with their beginnings, each once, has their paths. -/
lemma perm_dottedPaths (nodup : includes.Nodup) (closed : IncludeChains.ParentsFirst includes)
    (h : resolveFrom require root includes = .ok t) : t.dottedPaths.Perm includes := by
  have resolved := resolved_of_eq_ok h
  have segments : (includes.map pathSegments).Nodup :=
    nodup.map fun a b same => by rw [← joined_pathSegments a, same, joined_pathSegments]
  have distinct : t.paths.Nodup := IncludeNode.nodup_pathsList t.nodes resolved.distinct
  have perm : t.paths.Perm (includes.map pathSegments) := by
    refine (List.perm_ext_iff_of_nodup distinct segments).2 fun q => ?_
    rw [resolved.mem_paths]
    constructor
    · rintro ⟨some, path, hp, before⟩
      exact mem_segments_of_prefix closed hp some before
    · intro hq
      obtain ⟨path, hp, rfl⟩ := List.mem_map.1 hq
      exact ⟨Text.split_ne_nil _ _, path, hp, List.prefix_rfl⟩
  have same : (includes.map pathSegments).map (Text.joined ".") = includes := by
    rw [List.map_map]
    exact List.map_id'' joined_pathSegments includes
  have dotted := perm.map (Text.joined ".")
  rwa [same] at dotted

end IncludeTree

namespace IncludeChains

/--
Calls that each add a single navigation lead to paths without repetitions, each behind all of its
beginnings. A tree that is resolved from these, whatever the mappings, has as many nodes as there
are paths, and the dotted paths to its nodes are these paths in some order.
-/
theorem ofCalls_resolved (calls : List ChainCall)
    (dotFree : ∀ call ∈ calls, pathSeparator ∉ call.navigation.toList) :
    (ofCalls calls).paths.Nodup ∧ ParentsFirst (ofCalls calls).paths ∧
      ∀ (require : Resolver) (root : String) (t : IncludeTree),
        IncludeTree.resolveFrom require root (ofCalls calls).paths = .ok t →
        t.size = (ofCalls calls).paths.length ∧ t.dottedPaths.Perm (ofCalls calls).paths := by
  obtain ⟨nodup, parentsFirst, -⟩ := sound_ofCalls dotFree
  refine ⟨nodup, parentsFirst, fun require root t h => ?_⟩
  have perm := IncludeTree.perm_dottedPaths nodup parentsFirst h
  -- There is a dotted path for every node.
  have nodes : t.dottedPaths.length = t.size := by
    have listed := congrArg List.length (IncludeTree.resolved_of_eq_ok h).listed
    rw [List.length_map, List.length_map, t.length_preorder] at listed
    rw [IncludeTree.dottedPaths, List.length_map, listed]
  exact ⟨nodes ▸ perm.length_eq, perm⟩

/-- Parts of parts, which a part refers to by a navigation without a name. -/
def samplePart : EntityMapping where
  entityType := "Part"
  table := "Parts"
  keys := ["Id"]
  properties := [{ name := "Id" }, { name := "WholeId" }]
  foreignKeys := [⟨"", "WholeId", "Part", "Id"⟩]
  collections := [{ navigation := "Parts", related := "Part" }]
  slots := [("WholeId", 1), ("Id", 0)]
  keySlots := [0]
  columns := ["Id", "WholeId"]
  built := rfl

/-- Chains that are started again, repeated, and extended by a navigation without a name. -/
def sampleCalls : List ChainCall :=
  [.start "", .extend "", .start "Parts", .extend "", .start "", .extend "Parts", .start "Parts"]

/-- The tree of these chains. -/
def samplePartTree : IncludeTree where
  root := "Part"
  nodes := [.node "" "Part" .reference
      [.node "" "Part" .reference [], .node "Parts" "Part" (.collection .list) []],
    .node "Parts" "Part" (.collection .list) [.node "" "Part" .reference []]]

/-- The paths of chains are in another order than those of their tree. -/
theorem ofCalls_resolved_parts :
    (ofCalls sampleCalls).paths = ["", ".", "Parts", "Parts.", ".Parts"] ∧
      samplePartTree.dottedPaths = ["", ".", ".Parts", "Parts", "Parts."] ∧
      (∀ call ∈ sampleCalls, pathSeparator ∉ call.navigation.toList) ∧
      IncludeTree.resolveFrom (Registry.ofList [samplePart]).require "Part"
        (ofCalls sampleCalls).paths = .ok samplePartTree ∧
      samplePartTree.size = (ofCalls sampleCalls).paths.length ∧
      samplePartTree.dottedPaths.Perm (ofCalls sampleCalls).paths := by
  have dotFree : ∀ call ∈ sampleCalls, pathSeparator ∉ call.navigation.toList := by decide
  have resolved : IncludeTree.resolveFrom (Registry.ofList [samplePart]).require "Part"
      (ofCalls sampleCalls).paths = .ok samplePartTree := by
    rfl
  obtain ⟨-, -, corresponds⟩ := ofCalls_resolved sampleCalls dotFree
  exact ⟨by decide, by decide, dotFree, resolved, corresponds _ _ _ resolved⟩

end IncludeChains

end RelMap
