import RelMap.Proofs.Include.Resolve
import RelMap.Proofs.Mapping.Navigations

/-!
# Planning with a valid registry

With a valid registry only two things can keep a resolved tree from being planned: a type without
columns, and a collection whose items do not have exactly one reference back to the type that it
hangs off. A path is refused only where one of its segments is no navigation of the type reached.
-/

namespace RelMap

/--
A node can be joined to a type, and so can all below it: its own type has columns, and the items of
a collection have exactly one reference back.
-/
inductive IncludeNode.Joinable (r : Registry) : String → IncludeNode → Prop where
  | node {owner navigation related kind children m} :
    r.require related = .ok m →
    m.properties ≠ [] →
    (kind.isCollection = true → (m.foreignKeysTo owner).length = 1) →
    (∀ child ∈ children, Joinable r related child) →
    Joinable r owner (.node navigation related kind children)

/-- Why a node, or one below it, cannot be joined to a type. -/
inductive IncludeNode.Unjoinable (r : Registry) : String → IncludeNode → Error → Prop where
  | noColumns {owner navigation related kind children m} :
    r.require related = .ok m →
    m.properties = [] →
    Unjoinable r owner (.node navigation related kind children) (.mapping related .noColumns)
  | noInverse {owner navigation related kind children m} :
    r.require related = .ok m →
    m.foreignKeysTo owner = [] →
    Unjoinable r owner (.node navigation related (.collection kind) children)
      (.mapping related (.noInverse owner navigation))
  | ambiguous {owner navigation related kind children m} :
    r.require related = .ok m →
    1 < (m.foreignKeysTo owner).length →
    Unjoinable r owner (.node navigation related (.collection kind) children)
      (.mapping related (.ambiguousInverse (m.foreignKeysTo owner).length owner navigation))
  | deeper {owner navigation related kind children child e} :
    child ∈ children →
    Unjoinable r related child e →
    Unjoinable r owner (.node navigation related kind children) e

/-- Segments that lead on from a type until one of them is no navigation of the type reached. -/
inductive Strays (require : Resolver) : String → List String → String → String → Prop where
  | here {owner m segment segments} :
    require owner = .ok m →
    m.navigation? segment = none →
    Strays require owner (segment :: segments) owner segment
  | further {owner m segment n segments last missing} :
    require owner = .ok m →
    m.navigation? segment = some n →
    Strays require n.related segments last missing →
    Strays require owner (segment :: segments) last missing

lemma IncludeNode.Unjoinable.not_joinable {r : Registry} {owner : String} {a : IncludeNode}
    {e : Error} (h : a.Unjoinable r owner e) : ¬ a.Joinable r owner := by
  induction h with
  | noColumns hm none =>
    rintro (⟨hm', some, _, _⟩)
    cases hm.symm.trans hm'
    exact some none
  | noInverse hm none =>
    rintro (⟨hm', _, one, _⟩)
    cases hm.symm.trans hm'
    have one := one rfl
    rw [none] at one
    cases one
  | ambiguous hm many =>
    rintro (⟨hm', _, one, _⟩)
    cases hm.symm.trans hm'
    exact Nat.ne_of_gt many (one rfl)
  | deeper hchild _ ih =>
    rintro (⟨_, _, _, below⟩)
    exact ih (below _ hchild)

namespace PlanDraft

variable {r : Registry} {dialect : Dialect} {owner navigation : String} {n : Navigation}
variable {parent related : EntityMapping}
variable {e : Error}

lemma exists_joinColumn {m : EntityMapping} {name : String} (h : name ∈ m.propertyNames) :
    ∃ c, joinColumn m name = .ok c := by
  obtain ⟨c, hc⟩ := EntityMapping.exists_column? h
  exact ⟨c, by rw [joinColumn, EntityMapping.requireColumn, hc]⟩

lemma planEntity_eq_error {start : Nat} {tableAlias : String} {m : EntityMapping}
    {link : Option Link} (h : planEntity start tableAlias m link = .error e) :
    m.properties = [] ∧ e = .mapping m.entityType .noColumns := by
  unfold planEntity at h
  split at h
  next none =>
    cases h
    exact ⟨List.isEmpty_iff.1 none, rfl⟩
  next => cases h

/-- A collection is joined by the only reference back. -/
lemma length_foreignKeysTo {kind : IncludeKind} {columns : String × String}
    (h : joinColumns parent related kind navigation = .ok columns)
    (collection : kind.isCollection = true) :
    (related.foreignKeysTo parent.entityType).length = 1 := by
  cases kind with
  | reference => cases collection
  | collection k =>
    rw [joinColumns, collectionColumns] at h
    split at h
    next => cases h
    next fk one =>
      rw [one]
      rfl
    next => cases h

/-- What a navigation of a valid registry compares is mapped on both sides. -/
lemma exists_joinColumns (valid : r.validate = .ok ()) (hp : r.require owner = .ok parent)
    (hn : parent.navigation? navigation = some n) (hr : r.require n.related = .ok related)
    (single : n.includeKind.isCollection = true → (related.foreignKeysTo owner).length = 1) :
    ∃ columns, joinColumns parent related n.includeKind navigation = .ok columns := by
  cases n with
  | reference fk =>
    have found := EntityMapping.find?_of_navigation? hn
    have hfk := List.mem_of_find?_eq_some found
    obtain ⟨principal, hprincipal, mapped⟩ :=
      Registry.exists_principal valid (Registry.mem_of_require hp) hfk
    cases hr.symm.trans hprincipal
    obtain ⟨c, hc⟩ := exists_joinColumn mapped
    obtain ⟨c', hc'⟩ :=
      exists_joinColumn (EntityMapping.mem_propertyNames_of_mem_foreignKeys hfk)
    refine ⟨(c, c'), ?_⟩
    rw [Navigation.includeKind, joinColumns, referenceColumns, found]
    simp only [hc, hc', ok_bind, pure_eq_ok]
  | collection c =>
    obtain ⟨fk, one⟩ := List.length_eq_one_iff.1 (single rfl)
    have back : fk ∈ related.foreignKeysTo owner := by
      rw [one]
      exact List.mem_singleton_self fk
    obtain ⟨hfk, principal⟩ := List.mem_filter.1 back
    obtain ⟨_, hprincipal, mapped⟩ :=
      Registry.exists_principal valid (Registry.mem_of_require hr) hfk
    rw [eq_of_beq principal] at hprincipal
    cases hp.symm.trans hprincipal
    obtain ⟨c, hc⟩ := exists_joinColumn (EntityMapping.mem_propertyNames_of_mem_foreignKeys hfk)
    obtain ⟨c', hc'⟩ := exists_joinColumn mapped
    refine ⟨(c, c'), ?_⟩
    rw [Navigation.includeKind, joinColumns, collectionColumns,
      Registry.entityType_of_require hp, one]
    simp only [hc, hc', ok_bind, pure_eq_ok]

/-- Without columns to compare, a navigation is a collection without a single reference back. -/
lemma unjoinable_of_joinColumns (valid : r.validate = .ok ()) (hp : r.require owner = .ok parent)
    (hn : parent.navigation? navigation = some n) (hr : r.require n.related = .ok related)
    (h : joinColumns parent related n.includeKind navigation = .error e)
    (children : List IncludeNode) :
    (IncludeNode.node navigation n.related n.includeKind children).Unjoinable r owner e := by
  have compared := exists_joinColumns valid hp hn hr
  cases n with
  | reference fk =>
    obtain ⟨_, ok⟩ := compared nofun
    cases ok.symm.trans h
  | collection c =>
    have type : related.entityType = c.related := Registry.entityType_of_require hr
    have many : (related.foreignKeysTo owner).length ≠ 1 := by
      intro one
      obtain ⟨_, ok⟩ := compared fun _ => one
      cases ok.symm.trans h
    rw [Navigation.includeKind, joinColumns, collectionColumns,
      Registry.entityType_of_require hp, type] at h
    split at h
    next none =>
      cases h
      exact .noInverse hr none
    next fk one =>
      rw [one] at many
      exact absurd rfl many
    next fks some _ =>
      cases h
      have some : (related.foreignKeysTo owner).length ≠ 0 := by
        rw [ne_eq, List.length_eq_zero_iff]
        exact some
      exact .ambiguous hr (by omega)

mutual

/-- With a valid registry, a navigation that cannot be planned cannot be joined. -/
lemma unjoinable_of_addNode (valid : r.validate = .ok ()) {owner : String} {parent : PlannedEntity}
    {place : Nat} {b : Planning dialect} (hp : r.require owner = .ok parent.mapping) :
    ∀ a : IncludeNode, a.Follows r.require owner → Planning.addNode r parent place b a = .error e →
      a.Unjoinable r owner e
  | .node navigation _ _ children, .node hm hn below, h => by
    cases hp.symm.trans hm
    obtain ⟨related, hr⟩ := Registry.exists_related valid hm hn
    simp only [Planning.addNode, hr, ok_bind, bind_eq_error, Prod.exists] at h
    obtain h | ⟨column, parentColumn, -, h | ⟨entity, he, h⟩⟩ := h
    · exact unjoinable_of_joinColumns valid hm hn hr h children
    · obtain ⟨none, rfl⟩ := planEntity_eq_error h
      rw [Registry.entityType_of_require hr]
      exact .noColumns hr none
    · obtain ⟨_, rfl⟩ := planEntity_eq_ok he
      obtain ⟨child, hchild, fault⟩ := unjoinable_of_addNodes valid hr children below h
      exact .deeper hchild fault

/-- With a valid registry, navigations are planned unless one of them cannot be joined. -/
lemma unjoinable_of_addNodes (valid : r.validate = .ok ()) {owner : String}
    {parent : PlannedEntity} {place : Nat} {b : Planning dialect}
    (hp : r.require owner = .ok parent.mapping) :
    ∀ as : List IncludeNode, (∀ a ∈ as, a.Follows r.require owner) →
      Planning.addNodes r parent place b as = .error e → ∃ a ∈ as, a.Unjoinable r owner e
  | a :: as, follows, h => by
    simp only [Planning.addNodes, bind_eq_error] at h
    obtain h | ⟨next, -, h⟩ := h
    · exact ⟨a, List.mem_cons_self .., unjoinable_of_addNode valid hp a
        (follows a (List.mem_cons_self ..)) h⟩
    · obtain ⟨c, hc, fault⟩ := unjoinable_of_addNodes valid hp as
        (fun c hc => follows c (List.mem_cons_of_mem _ hc)) h
      exact ⟨c, List.mem_cons_of_mem _ hc, fault⟩

end

mutual

/-- A navigation that is planned can be joined. -/
lemma joinable_of_addNode {owner : String} {parent : PlannedEntity} {place : Nat}
    {b b' : Planning dialect} (hp : parent.mapping.entityType = owner) :
    ∀ a : IncludeNode, Planning.addNode r parent place b a = .ok b' → a.Joinable r owner
  | .node navigation relatedType kind children, h => by
    simp only [Planning.addNode, bind_eq_ok, Prod.exists] at h
    obtain ⟨related, hr, column, parentColumn, hc, entity, he, h⟩ := h
    obtain ⟨some, rfl⟩ := planEntity_eq_ok he
    have single := length_foreignKeysTo hc
    rw [hp] at single
    exact .node hr some single
      (joinable_of_addNodes (Registry.entityType_of_require hr) children h)

/-- Navigations that are planned can be joined. -/
lemma joinable_of_addNodes {owner : String} {parent : PlannedEntity} {place : Nat}
    {b b' : Planning dialect} (hp : parent.mapping.entityType = owner) :
    ∀ as : List IncludeNode, Planning.addNodes r parent place b as = .ok b' →
      ∀ a ∈ as, a.Joinable r owner
  | [], _ => List.forall_mem_nil _
  | a :: as, h => by
    simp only [Planning.addNodes, bind_eq_ok] at h
    obtain ⟨next, ha, has⟩ := h
    rw [List.forall_mem_cons]
    exact ⟨joinable_of_addNode hp a ha, joinable_of_addNodes hp as has⟩

end

end PlanDraft

lemma Strays.mapped {require : Resolver} {owner last missing : String} {q : List String}
    (h : Strays require owner q last missing) : ∃ m, require owner = .ok m := by
  cases h with
  | here hm => exact ⟨_, hm⟩
  | further hm => exact ⟨_, hm⟩

lemma Strays.not_navigable {require : Resolver} {owner last missing : String} {q : List String}
    (h : Strays require owner q last missing) : ¬ Navigable require owner q := by
  induction h with
  | here hm absent =>
    rintro (_ | ⟨hm', found, _⟩)
    cases hm.symm.trans hm'
    cases absent.symm.trans found
  | further hm hn _ ih =>
    rintro (_ | ⟨hm', hn', rest⟩)
    cases hm.symm.trans hm'
    cases hn.symm.trans hn'
    exact ih rest

lemma Strays.unique {require : Resolver} {owner last last' missing missing' : String}
    {q : List String} (h : Strays require owner q last missing)
    (h' : Strays require owner q last' missing') : last = last' ∧ missing = missing' := by
  induction h with
  | here hm absent =>
    cases h' with
    | here => exact ⟨rfl, rfl⟩
    | further hm' hn' =>
      cases hm.symm.trans hm'
      cases absent.symm.trans hn'
  | further hm hn _ ih =>
    cases h' with
    | here hm' absent =>
      cases hm.symm.trans hm'
      cases absent.symm.trans hn
    | further hm' hn' rest =>
      cases hm.symm.trans hm'
      cases hn.symm.trans hn'
      exact ih rest

namespace IncludeTree

/-- Why some paths are refused: the root is not mapped, or one of them strays, the first of all. -/
inductive Refuses (r : Registry) (root : String) : List String → Error → Prop where
  | unmapped {paths} :
    r.find? root = none →
    Refuses r root paths (.mapping root .unmappedType)
  | strays {before path after last missing} :
    (∀ q ∈ before, Navigable r.require root (pathSegments q)) →
    Strays r.require root (pathSegments path) last missing →
    Refuses r root (before ++ path :: after) (.mapping last (.unknownNavigation missing path))

variable {r : Registry} {owner path : String} {m : EntityMapping} {nodes : List IncludeNode}
variable {e : Error}

/-- With a valid registry a path is refused only where it strays. -/
lemma strays_of_insertSegments (valid : r.validate = .ok ()) {segments : List String}
    (hm : r.require owner = .ok m) (start : ∀ a ∈ nodes, a.Follows r.require owner)
    (h : insertSegments r.require path owner segments nodes = .error e) :
    ∃ last missing, Strays r.require owner segments last missing ∧
      e = .mapping last (.unknownNavigation missing path) := by
  induction segments generalizing owner m nodes with
  | nil => cases h
  | cons segment segments ih =>
    simp only [insertSegments, hm, ok_bind] at h
    by_cases here : segment ∈ nodes.map (·.navigation)
    -- The segment leads on below a node that stands there already.
    · obtain ⟨before, a, after, rfl, rfl, apart⟩ := exists_split_of_mem here
      cases start a (List.mem_append_right _ (List.mem_cons_self ..)) with
      | @node _ segment _ n children hm' hn below =>
        cases hm.symm.trans hm'
        obtain ⟨related, hr⟩ := Registry.exists_related valid hm hn
        rw [changeNode_append apart rfl] at h
        cases hc : insertSegments r.require path n.related segments children with
        | ok => simp [IncludeNode.related, IncludeNode.children, hc] at h
        | error fault =>
          simp only [IncludeNode.related, IncludeNode.children, hc, error_bind,
            Except.error.injEq] at h
          subst h
          obtain ⟨last, missing, rest, rfl⟩ := ih hr below hc
          exact ⟨last, missing, .further hm hn rest, rfl⟩
    -- It leads on below a new node, or nowhere.
    · rw [changeNode_of_notMem here] at h
      cases hn : m.navigation? segment with
      | none =>
        simp only [newNode, hn, ok_bind, error_bind, Except.error.injEq] at h
        exact ⟨owner, segment, .here hm hn, h.symm⟩
      | some n =>
        obtain ⟨related, hr⟩ := Registry.exists_related valid hm hn
        cases hc : insertSegments r.require path n.related segments [] with
        | ok => simp [newNode, hn, IncludeNode.related, IncludeNode.children, hc] at h
        | error fault =>
          simp only [newNode, hn, ok_bind, IncludeNode.related, IncludeNode.children, hc,
            error_bind, Except.error.injEq] at h
          subst h
          obtain ⟨last, missing, rest, rfl⟩ := ih hr (List.forall_mem_nil _) hc
          exact ⟨last, missing, .further hm hn rest, rfl⟩

/-- Whether a path is refused, with a valid registry. -/
lemma insertSegments_eq_error (valid : r.validate = .ok ()) {segments : List String}
    (hm : r.require owner = .ok m) (start : ∀ a ∈ nodes, a.Follows r.require owner) :
    insertSegments r.require path owner segments nodes = .error e ↔
      ∃ last missing, Strays r.require owner segments last missing ∧
        e = .mapping last (.unknownNavigation missing path) := by
  refine ⟨strays_of_insertSegments valid hm start, ?_⟩
  rintro ⟨last, missing, strays, rfl⟩
  cases h : insertSegments r.require path owner segments nodes with
  | ok nodes' => exact absurd ((insertSegments_eq_ok.1 h).navigable start) strays.not_navigable
  | error e =>
    obtain ⟨last', missing', strays', rfl⟩ := strays_of_insertSegments valid hm start h
    obtain ⟨rfl, rfl⟩ := strays.unique strays'
    rfl

/-- Whether one of several paths is refused, with a valid registry. -/
lemma insertPaths_eq_error (valid : r.validate = .ok ()) {root : String} {paths : List String}
    (hm : r.require root = .ok m) (start : ∀ a ∈ nodes, a.Follows r.require root) :
    insertPaths r.require root paths nodes = .error e ↔
      ∃ before path after last missing, paths = before ++ path :: after ∧
        (∀ q ∈ before, Navigable r.require root (pathSegments q)) ∧
        Strays r.require root (pathSegments path) last missing ∧
        e = .mapping last (.unknownNavigation missing path) := by
  induction paths generalizing nodes with
  | nil =>
    refine ⟨nofun, ?_⟩
    rintro ⟨before, path, after, _, _, none, _⟩
    cases before <;> cases none
  | cons path paths ih =>
    rw [insertPaths, bind_eq_error, insertSegments_eq_error valid hm start]
    constructor
    · rintro (⟨last, missing, strays, rfl⟩ | ⟨next, hn, h⟩)
      · exact ⟨[], path, paths, last, missing, rfl, List.forall_mem_nil _, strays, rfl⟩
      · have first := insertSegments_eq_ok.1 hn
        obtain ⟨before, path', after, last, missing, rfl, navigable, strays, rfl⟩ :=
          (ih (first.follows start)).1 h
        exact ⟨path :: before, path', after, last, missing, rfl,
          List.forall_mem_cons.2 ⟨first.navigable start, navigable⟩, strays, rfl⟩
    · rintro ⟨before, path', after, last, missing, split, navigable, strays, rfl⟩
      cases before with
      | nil =>
        cases split
        exact .inl ⟨last, missing, strays, rfl⟩
      | cons q before =>
        cases split
        obtain ⟨first, navigable⟩ := List.forall_mem_cons.1 navigable
        obtain ⟨next, inserts⟩ := exists_inserts first start
        exact .inr ⟨next, insertSegments_eq_ok.2 inserts, (ih (inserts.follows start)).2
          ⟨before, path', after, last, missing, rfl, navigable, strays, rfl⟩⟩

/-- With a valid registry, paths are refused exactly for one of two reasons. -/
lemma resolve_eq_error (valid : r.validate = .ok ()) {root : String} {paths : List String} :
    resolve r root paths = .error e ↔ Refuses r root paths e := by
  unfold resolve resolveFrom
  cases hm : r.require root with
  | error fault =>
    have absent : r.find? root = none ∧ fault = .mapping root .unmappedType := by
      unfold Registry.require at hm
      split at hm
      next => cases hm
      next none =>
        cases hm
        exact ⟨none, rfl⟩
    rw [error_bind, Except.error.injEq, absent.2]
    constructor
    · rintro rfl
      exact .unmapped absent.1
    · rintro (_ | ⟨_, strays⟩)
      · rfl
      · obtain ⟨_, hm'⟩ := strays.mapped
        cases hm.symm.trans hm'
  | ok m =>
    have inserted := @insertPaths_eq_error r m [] e valid root paths hm (List.forall_mem_nil _)
    rw [ok_bind, bind_eq_error, inserted]
    constructor
    · rintro (⟨before, path, after, last, missing, rfl, navigable, strays, rfl⟩ | ⟨_, _, h⟩)
      · exact .strays navigable strays
      · cases h
    · rintro (absent | ⟨navigable, strays⟩)
      · cases (Registry.find?_of_require hm).symm.trans absent
      · exact .inl ⟨_, _, _, _, _, rfl, navigable, strays, rfl⟩

end IncludeTree

/--
With a valid registry, a resolved tree can be planned exactly when the root and all included types
have columns and the items of every collection have exactly one reference back to the type that it
hangs off; nothing but the lack of these makes planning fail. Paths are refused only if the root is
not mapped or a segment is no navigation of the type reached.
-/
theorem Registry.plans_joinable {r : Registry} (valid : r.validate = .ok ()) (root : String)
    (paths : List String) :
    (∀ tree, IncludeTree.resolve r root paths = .ok tree →
      ∃ m, r.require root = .ok m ∧ ∀ dialect : Dialect,
        ((∃ p, Plan.build dialect r m tree = .ok p) ↔
          m.properties ≠ [] ∧ ∀ a ∈ tree.nodes, a.Joinable r root) ∧
        ∀ e, Plan.build dialect r m tree = .error e →
          m.properties = [] ∧ e = .mapping root .noColumns ∨
            ∃ a ∈ tree.nodes, a.Unjoinable r root e) ∧
    ∀ e, IncludeTree.resolve r root paths = .error e ↔ IncludeTree.Refuses r root paths e := by
  refine ⟨fun tree ht => ?_, fun e => IncludeTree.resolve_eq_error valid⟩
  obtain ⟨⟨m, hm⟩, -, -⟩ := IncludeTree.resolveFrom_eq_ok.1 ht
  obtain ⟨rooted, follows⟩ := IncludeTree.resolve_follows ht
  have type := Registry.entityType_of_require hm
  refine ⟨m, hm, fun dialect => ?_⟩
  have fails (e) (h : Plan.build dialect r m tree = .error e) :
      m.properties = [] ∧ e = .mapping root .noColumns ∨
        ∃ a ∈ tree.nodes, a.Unjoinable r root e := by
    rw [Plan.build, if_neg (fun other => other (rooted.trans type.symm))] at h
    obtain h | ⟨entity, he, h⟩ := bind_eq_error.1 h
    · obtain ⟨none, rfl⟩ := PlanDraft.planEntity_eq_error h
      exact .inl ⟨none, by rw [type]⟩
    · obtain ⟨_, rfl⟩ := PlanDraft.planEntity_eq_ok he
      have failed := (bind_eq_error.1 h).resolve_right nofun
      refine .inr (PlanDraft.unjoinable_of_addNodes valid ?_ tree.nodes follows failed)
      exact hm
  refine ⟨⟨?_, ?_⟩, fails⟩
  · rintro ⟨p, hp⟩
    rw [Plan.build, if_neg (fun other => other (rooted.trans type.symm))] at hp
    obtain ⟨entity, he, draft, hd, -⟩ := by simpa only [bind_eq_ok] using hp
    obtain ⟨some, rfl⟩ := PlanDraft.planEntity_eq_ok he
    exact ⟨some, PlanDraft.joinable_of_addNodes type tree.nodes hd⟩
  · rintro ⟨some, joinable⟩
    cases h : Plan.build dialect r m tree with
    | ok p => exact ⟨p, rfl⟩
    | error e =>
      obtain ⟨none, -⟩ | ⟨a, ha, fault⟩ := fails e h
      · exact absurd none some
      · exact absurd (joinable a ha) fault.not_joinable

/-- The parents of the children of a folder can be planned, and a property is no navigation. -/
theorem plans_joinable_folder :
    (Registry.ofList [sampleFolder]).validate = .ok () ∧
      IncludeTree.resolve (.ofList [sampleFolder]) "Folder" ["Children.Parent"] =
        .ok sampleFolders ∧
      (∃ p, Plan.build .postgres (.ofList [sampleFolder]) sampleFolder sampleFolders = .ok p) ∧
      IncludeTree.resolve (.ofList [sampleFolder]) "Folder" ["Children", "Parent.Id"] =
        .error (.mapping "Folder" (.unknownNavigation "Id" "Parent.Id")) := by
  have valid : (Registry.ofList [sampleFolder]).validate = .ok () := rfl
  have resolved : IncludeTree.resolve (.ofList [sampleFolder]) "Folder" ["Children.Parent"] =
      .ok sampleFolders := rfl
  have mapped : (Registry.ofList [sampleFolder]).require "Folder" = .ok sampleFolder := rfl
  have parent : (IncludeNode.node "Parent" "Folder" .reference []).Joinable
      (.ofList [sampleFolder]) "Folder" := .node mapped nofun nofun nofun
  have joinable : ∀ a ∈ sampleFolders.nodes, a.Joinable (.ofList [sampleFolder]) "Folder" := by
    intro a ha
    cases List.mem_singleton.1 ha
    refine .node mapped nofun (fun _ => rfl) fun child hchild => ?_
    cases List.mem_singleton.1 hchild
    exact parent
  refine ⟨valid, resolved, ?_, ?_⟩
  · obtain ⟨m, hm, planned⟩ :=
      (Registry.plans_joinable valid "Folder" ["Children.Parent"]).1 _ resolved
    cases mapped.symm.trans hm
    exact (planned .postgres).1.2 ⟨nofun, joinable⟩
  · refine ((Registry.plans_joinable valid "Folder" ["Children", "Parent.Id"]).2 _).2 ?_
    have children : Navigable (Registry.ofList [sampleFolder]).require "Folder"
        (pathSegments "Children") := .cons mapped rfl .nil
    have property : Strays (Registry.ofList [sampleFolder]).require "Folder"
        (pathSegments "Parent.Id") "Folder" "Id" := .further mapped rfl (.here mapped rfl)
    exact @IncludeTree.Refuses.strays _ _ ["Children"] _ [] _ _
      (List.forall_mem_singleton.2 children) property

end RelMap
