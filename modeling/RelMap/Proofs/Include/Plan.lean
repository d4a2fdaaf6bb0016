import RelMap.Include.Plan
import RelMap.Proofs.Except
import RelMap.Proofs.Lists

/-!
# How plans grow

Planning adds one type and its join after the other, and selects the columns of the type with it.
What holds of the root alone and is preserved by each such step holds of every plan.
-/

namespace RelMap

namespace Selection

/-- What is selected for several types comes behind what was selected before. -/
lemma foldl_add (d : Dialect) (es : List PlannedEntity) (s : Selection) :
    es.foldl (add d) s =
      ⟨s.items ++ es.flatMap (PlannedEntity.selectItems d),
        s.columns ++ es.flatMap PlannedEntity.columns,
        s.splitPoints ++ (es.filter (!·.isRoot)).map PlannedEntity.splitColumn⟩ := by
  induction es generalizing s with
  | nil => simp
  | cons e es ih =>
    rw [List.foldl_cons, ih, add]
    cases h : e.isRoot <;> simp [h]

/-- What is selected for several types is that of each, one after the other. -/
lemma ofEntities_eq (d : Dialect) (es : List PlannedEntity) :
    ofEntities d es =
      ⟨es.flatMap (PlannedEntity.selectItems d), es.flatMap PlannedEntity.columns,
        (es.filter (!·.isRoot)).map PlannedEntity.splitColumn⟩ :=
  foldl_add d es {}

end Selection

namespace Plan

/-- The texts of the columns of a plan are those of its types. -/
lemma items_eq (p : Plan) : p.items = p.entities.flatMap (PlannedEntity.selectItems p.dialect) :=
  congrArg Selection.items (p.selected.trans (Selection.ofEntities_eq ..))

/-- The columns of a plan are those of its types. -/
lemma columns_eq (p : Plan) : p.columns = p.entities.flatMap PlannedEntity.columns :=
  congrArg Selection.columns (p.selected.trans (Selection.ofEntities_eq ..))

lemma mem_columns {p : Plan} {c : String} : c ∈ p.columns ↔ ∃ e ∈ p.entities, c ∈ e.columns := by
  rw [p.columns_eq, List.mem_flatMap]

/-- A plan is split at the first columns of its types behind the root. -/
lemma splitPoints_eq_map_filter (p : Plan) :
    p.splitPoints = (p.entities.filter (!·.isRoot)).map PlannedEntity.splitColumn :=
  congrArg Selection.splitPoints (p.selected.trans (Selection.ofEntities_eq ..))

end Plan

/-- How many columns the types planned so far have. -/
def PlanDraft.width (d : PlanDraft) : Nat := (d.entities.flatMap PlannedEntity.columns).length

/-- As many columns are selected as the types have. -/
lemma Planning.length_columns {dialect : Dialect} (b : Planning dialect) :
    b.columns.length = b.width := by
  rw [b.selected, Selection.ofEntities_eq, PlanDraft.width]

/-- The join of a planned type to the one that it is reached from. -/
def PlannedEntity.join (entity parent : PlannedEntity) (column parentColumn : String) : Join where
  schema := entity.mapping.schema
  table := entity.mapping.table
  tableAlias := entity.tableAlias
  column := column
  parentAlias := parent.tableAlias
  parentColumn := parentColumn

namespace PlanDraft

/-- The drafts that planning goes through. -/
inductive Grown (r : Registry) (root : EntityMapping) : PlanDraft → Prop where
  | root {entity} :
    planEntity 0 rootAlias root none = .ok entity →
    Grown r root ⟨[entity], []⟩
  | join {d place parent type related navigation kind column parentColumn entity} :
    Grown r root d →
    d.entities[place]? = some parent →
    r.require type = .ok related →
    joinColumns parent.mapping related kind navigation = .ok (column, parentColumn) →
    planEntity d.width (joinAlias d.entities.length) related
      (some ⟨place, navigation, kind⟩) = .ok entity →
    Grown r root ⟨d.entities ++ [entity], d.joins ++ [entity.join parent column parentColumn]⟩

variable {r : Registry} {root : EntityMapping}

/-- A planned type is as it was asked for. -/
lemma planEntity_eq_ok {start : Nat} {tableAlias : String} {mapping : EntityMapping}
    {link : Option Link} {entity : PlannedEntity}
    (h : planEntity start tableAlias mapping link = .ok entity) :
    mapping.properties ≠ [] ∧ entity = ⟨tableAlias, mapping, link, start⟩ := by
  unfold planEntity at h
  split at h
  next => cases h
  next some =>
    cases h
    exact ⟨fun none => some (by rw [none]; rfl), rfl⟩

/--
A property of drafts that planning preserves, if the nodes that are planned below a type are fit
for that type.
-/
structure Preserved (r : Registry) (P : PlanDraft → Prop)
    (fits : PlannedEntity → IncludeNode → Prop) : Prop where
  /-- Planning one more type keeps the property, and the nodes below are fit for it. -/
  step {d place parent navigation type kind children related column parentColumn entity} :
    P d → d.entities[place]? = some parent →
    fits parent (.node navigation type kind children) →
    r.require type = .ok related →
    joinColumns parent.mapping related kind navigation = .ok (column, parentColumn) →
    planEntity d.width (joinAlias d.entities.length) related
      (some ⟨place, navigation, kind⟩) = .ok entity →
    P ⟨d.entities ++ [entity], d.joins ++ [entity.join parent column parentColumn]⟩ ∧
      ∀ child ∈ children, fits entity child

section
variable {dialect : Dialect} {P : PlanDraft → Prop} {fits : PlannedEntity → IncludeNode → Prop}

mutual

/-- Planning a node and all below it preserves a property, and keeps what was planned before. -/
lemma Preserved.addNode (h : Preserved r P fits) {parent : PlannedEntity} {place : Nat}
    {b b' : Planning dialect} (hb : P b.toPlanDraft) (hp : b.entities[place]? = some parent) :
    ∀ (a : IncludeNode), fits parent a → Planning.addNode r parent place b a = .ok b' →
      P b'.toPlanDraft ∧ b.entities <+: b'.entities
  | .node navigation relatedType kind children, fit, ha => by
    simp only [Planning.addNode, bind_eq_ok, Prod.exists, b.length_columns] at ha
    obtain ⟨related, hr, column, parentColumn, hc, entity, he, ha⟩ := ha
    obtain ⟨next, below⟩ := h.step hb hp fit hr hc he
    obtain ⟨_, rfl⟩ := planEntity_eq_ok he
    obtain ⟨done, before⟩ := h.addNodes next (List.getElem?_concat_length ..) children below ha
    exact ⟨done, (List.prefix_append ..).trans before⟩

/-- Planning several nodes preserves a property, and keeps what was planned before. -/
lemma Preserved.addNodes (h : Preserved r P fits) {parent : PlannedEntity} {place : Nat}
    {b b' : Planning dialect} (hb : P b.toPlanDraft) (hp : b.entities[place]? = some parent) :
    ∀ (nodes : List IncludeNode), (∀ a ∈ nodes, fits parent a) →
      Planning.addNodes r parent place b nodes = .ok b' →
        P b'.toPlanDraft ∧ b.entities <+: b'.entities
  | [], _, ha => by
    cases ha
    exact ⟨hb, List.prefix_rfl⟩
  | a :: as, fit, ha => by
    simp only [Planning.addNodes, bind_eq_ok] at ha
    obtain ⟨next, ha, has⟩ := ha
    obtain ⟨hn, before⟩ := h.addNode hb hp a (fit a (List.mem_cons_self ..)) ha
    obtain ⟨done, before'⟩ := h.addNodes hn (getElem?_mono before hp) as
      (fun b hb => fit b (List.mem_cons_of_mem _ hb)) has
    exact ⟨done, before.trans before'⟩

end

end

/-- The first type is the root, and all others are reached from somewhere. -/
lemma Grown.head {d : PlanDraft} (h : Grown r root d) :
    ∃ e rest, d.entities = e :: rest ∧ e.mapping = root ∧ e.link = none ∧
      ∀ e' ∈ rest, e'.link.isSome := by
  induction h with
  | root he =>
    obtain ⟨_, rfl⟩ := planEntity_eq_ok he
    exact ⟨_, [], rfl, rfl, rfl, nofun⟩
  | join _ _ _ _ he ih =>
    obtain ⟨_, rfl⟩ := planEntity_eq_ok he
    obtain ⟨e, rest, eq, mapping, link, others⟩ := ih
    refine ⟨e, rest ++ [_], by rw [eq]; rfl, mapping, link, fun e' he' => ?_⟩
    rcases List.mem_append.1 he' with he' | he'
    · exact others e' he'
    · cases List.mem_singleton.1 he'
      rfl

lemma Grown.first {d : PlanDraft} (h : Grown r root d) :
    ∃ e, d.entities[0]? = some e ∧ e.mapping = root ∧ e.link = none := by
  obtain ⟨e, rest, entities, mapping, link, _⟩ := h.head
  exact ⟨e, by rw [entities]; rfl, mapping, link⟩

/-- A type at another place is reached from somewhere. -/
lemma Grown.isSome_link {d : PlanDraft} (h : Grown r root d) {i : Nat} {e : PlannedEntity}
    (hi : d.entities[i + 1]? = some e) : e.link.isSome := by
  obtain ⟨_, rest, entities, _, _, others⟩ := h.head
  rw [entities, List.getElem?_cons_succ] at hi
  exact others e (List.mem_of_getElem? hi)

/-- Every type is reached from one before it. -/
lemma Grown.parent_lt {d : PlanDraft} (h : Grown r root d) {i : Nat} {e : PlannedEntity} {l : Link}
    (hi : d.entities[i]? = some e) (hl : e.link = some l) : l.parent < i := by
  induction h with
  | root he =>
    obtain ⟨_, rfl⟩ := planEntity_eq_ok he
    cases List.mem_singleton.1 (List.mem_of_getElem? hi)
    cases hl
  | @join d place _ _ _ _ _ _ _ _ _ hp _ _ he ih =>
    obtain ⟨_, rfl⟩ := planEntity_eq_ok he
    rcases getElem?_concat_eq_some.1 hi with hi | ⟨rfl, rfl⟩
    · exact ih hi
    · cases hl
      exact (List.getElem?_eq_some_iff.1 hp).1

end PlanDraft

/-- What is true of the root alone and is preserved by planning is true of a plan. -/
lemma Plan.of_build_preserved {dialect : Dialect} {r : Registry} {root : EntityMapping}
    {tree : IncludeTree} {p : Plan} {P : PlanDraft → Prop}
    {fits : PlannedEntity → IncludeNode → Prop} (h : Plan.build dialect r root tree = .ok p)
    (preserved : PlanDraft.Preserved r P fits)
    (start : ∀ entity, PlanDraft.planEntity 0 rootAlias root none = .ok entity →
      P ⟨[entity], []⟩ ∧ ∀ a ∈ tree.nodes, fits entity a) :
    p.dialect = dialect ∧ p.root = root ∧ tree.root = root.entityType ∧
      P ⟨p.entities, p.joins⟩ := by
  unfold Plan.build at h
  split at h
  next => cases h
  next same =>
    simp only [bind_eq_ok, pure_eq_ok] at h
    obtain ⟨entity, he, draft, hd, h⟩ := h
    obtain ⟨first, fit⟩ := start entity he
    cases h
    exact ⟨rfl, rfl, Decidable.not_not.1 same, (preserved.addNodes first rfl tree.nodes fit hd).1⟩

/-- Planning goes through the drafts that grow from the root. -/
lemma PlanDraft.Grown.preserved (r : Registry) (root : EntityMapping) :
    PlanDraft.Preserved r (Grown r root) fun _ _ => True where
  step := fun grown hp _ hr hc he => ⟨grown.join hp hr hc he, fun _ _ => trivial⟩

/-- A plan has the dialect and the root that it was built for, and what planning came to. -/
lemma Plan.of_build {dialect : Dialect} {r : Registry} {root : EntityMapping} {tree : IncludeTree}
    {p : Plan} (h : Plan.build dialect r root tree = .ok p) :
    p.dialect = dialect ∧ p.root = root ∧ PlanDraft.Grown r root ⟨p.entities, p.joins⟩ := by
  obtain ⟨hd, hroot, _, grown⟩ := Plan.of_build_preserved h (PlanDraft.Grown.preserved r root)
    fun _ he => ⟨.root he, fun _ _ => trivial⟩
  exact ⟨hd, hroot, grown⟩

end RelMap
