import RelMap.Proofs.Include.Plan
import RelMap.Proofs.Text.Marks

/-!
# Marks of a plan

The statement of a plan has no parameters: what it takes from mappings is quoted, and all else that
it is made of is plain.
-/

namespace RelMap

lemma isPlainText_rootAlias : isPlainText rootAlias = true := by decide

lemma isPlainText_joinAlias (index : Nat) : isPlainText (joinAlias index) = true := by
  rw [isPlainText, joinAlias, String.toList_append, List.all_append, Bool.and_eq_true]
  exact ⟨by decide, List.all_eq_true.2 fun c hc => isPlain_of_isDigit (isDigit_of_mem_toString hc)⟩

/-- A type with a plain alias. -/
def PlannedEntity.IsPlain (e : PlannedEntity) : Prop := isPlainText e.tableAlias = true

/-- A join of tables with plain aliases. -/
def Join.IsPlain (j : Join) : Prop :=
  isPlainText j.tableAlias = true ∧ isPlainText j.parentAlias = true

/-- Planning gives plain aliases only. -/
lemma PlanDraft.Grown.isPlain {r : Registry} {root : EntityMapping} {d : PlanDraft}
    (h : Grown r root d) :
    (∀ e ∈ d.entities, e.IsPlain) ∧ ∀ j ∈ d.joins, j.IsPlain := by
  induction h with
  | root he =>
    obtain ⟨_, rfl⟩ := planEntity_eq_ok he
    refine ⟨fun e h => ?_, nofun⟩
    cases List.mem_singleton.1 h
    exact isPlainText_rootAlias
  | join _ hp _ _ he ih =>
    obtain ⟨_, rfl⟩ := planEntity_eq_ok he
    obtain ⟨entities, joins⟩ := ih
    refine ⟨fun e h => ?_, fun j h => ?_⟩
    · rcases List.mem_append.1 h with h | h
      · exact entities e h
      · cases List.mem_singleton.1 h
        exact isPlainText_joinAlias _
    · rcases List.mem_append.1 h with h | h
      · exact joins j h
      · cases List.mem_singleton.1 h
        exact ⟨isPlainText_joinAlias _, entities _ (List.mem_of_getElem? hp)⟩

variable {d : Dialect}

/-- There is no mark in the name of a table. -/
lemma Reads.qualify (d : Dialect) (schema : Option String) (table : String) :
    Reads d (d.qualify schema table) [] := by
  cases schema with
  | none => exact Reads.quote d table
  | some schema =>
    have dot := (Reads.quote d schema).append_plain (by decide : isPlainText "." = true)
      (by decide : ".".toList = ['.']) rfl
    exact dot.append_reads (Reads.quote d table)

/-- There is no mark in the columns selected for a type. -/
lemma PlannedEntity.reads_selectItems {e : PlannedEntity} (h : e.IsPlain) :
    ∀ item ∈ e.selectItems d, Reads d item [] := by
  intro item hi
  obtain ⟨⟨property, name⟩, _, rfl⟩ := List.mem_map.1 hi
  have column := (@Scans.plain d _ h).column name
  have named := column.append_plain (by decide : isPlainText " AS " = true)
    (by decide : " AS ".toList = ' ' :: "AS ".toList) rfl
  exact named.append_reads (Reads.quote d _)

/-- There is no mark in a join. -/
lemma Join.reads_sql {j : Join} (h : j.IsPlain) : Reads d (j.sql d) [] := by
  have source := (Reads.after_plain (by decide : isPlainText "LEFT JOIN " = true)
    (Reads.qualify d j.schema j.table)).blank.append_plain h.1
  have opened := (source.append_plain (by decide : isPlainText " ON " = true)).append_plain h.1
  have equals := (opened.column j.column).append_plain (by decide : isPlainText " = " = true)
    (by decide : " = ".toList = [' ', '=', ' ']) rfl
  exact (equals.append_plain h.2).column j.parentColumn

/-- There is no mark in the statement of a plan. -/
lemma Plan.reads_sql {r : Registry} {root : EntityMapping} {tree : IncludeTree} {p : Plan}
    (h : Plan.build d r root tree = .ok p) : Reads d p.sql [] := by
  obtain ⟨rfl, _, grown⟩ := Plan.of_build h
  obtain ⟨entities, joins⟩ := grown.isPlain
  unfold Plan.sql
  dsimp only
  refine Reads.joined_nil (by decide) (by decide : " ".toList = [' ']) rfl fun t ht => ?_
  rcases List.mem_cons.1 ht with rfl | ht
  · have select : Reads p.dialect (Text.joined ", " p.items) [] := by
      refine Reads.joined_nil (by decide) (by decide : ", ".toList = [',', ' ']) rfl fun t ht => ?_
      rw [p.items_eq] at ht
      obtain ⟨e, he, ht⟩ := List.mem_flatMap.1 ht
      exact PlannedEntity.reads_selectItems (entities e he) t ht
    have source := (Reads.qualify p.dialect p.root.schema p.root.table).blank.append_plain
      isPlainText_rootAlias
    have selected := Reads.after_plain (by decide : isPlainText "SELECT " = true) select
    have opened := selected.append_plain (by decide : isPlainText " FROM " = true)
      (by decide : " FROM ".toList = ' ' :: "FROM ".toList) rfl
    exact (opened.append source).reads
  · obtain ⟨j, hj, rfl⟩ := List.mem_map.1 ht
    exact Join.reads_sql (joins j hj)

end RelMap
