import RelMap.Filter.Clause
import RelMap.Proofs.Text.Marks

/-!
# Marks of a condition

The marks in the text of a condition are those of its parameters, in the order in which the
condition has them.
-/

namespace RelMap

/-- The parameters of a term, in the order of its text. -/
def Term.parameters : Term → List Nat
  | .column _ => []
  | .parameter index => [index]
  | .null => []
  | .negate operand => operand.parameters
  | .arithmetic _ left right => left.parameters ++ right.parameters
  | .coalesce left right => left.parameters ++ right.parameters
  | .apply _ operand => operand.parameters

/-- The parameters of a condition, in the order of its text. -/
def Condition.parameters : Condition → List Nat
  | .truth _ => []
  | .flag _ _ => []
  | .compare _ left right => left.parameters ++ right.parameters
  | .isNull operand _ => operand.parameters
  | .among operand items => operand.parameters ++ items
  | .amongOrNull operand items again => operand.parameters ++ items ++ again.parameters
  | .like operand pattern => operand.parameters ++ pattern.parameters
  | .connect _ left right => left.parameters ++ right.parameters
  | .not operand => operand.parameters

namespace Spelling

variable {s : Spelling}

lemma reads_column (ha : isPlainText s.tableAlias) (name : String) :
    Reads s.dialect (s.column name) [] :=
  (Scans.plain ha).column name

/-- The marks in the text of a term are those of its parameters. -/
lemma reads_term (ha : isPlainText s.tableAlias) (t : Term) :
    Reads s.dialect (s.term t) (t.parameters.map s.dialect.placeholder) := by
  induction t with
  | column name => exact reads_column ha name
  | parameter index => exact Reads.placeholder s.dialect index
  | null => exact (@Scans.plain _ "NULL" (by decide)).reads
  | negate operand ih => exact (Reads.after_plain (by decide) ih).parenthesis.reads
  | arithmetic op left right ihl ihr =>
    have first := (Reads.after_plain (by decide : isPlainText "(" = true) ihl).blank
    have sign := (first.append_plain (by cases op <;> decide : isPlainText op.sql = true))
    have second := (sign.append_plain (by decide : isPlainText " " = true)).append_reads ihr
    rw [Term.parameters, List.map_append]
    exact second.parenthesis.reads
  | coalesce left right ihl ihr =>
    have first := (Reads.after_plain (by decide : isPlainText "COALESCE(" = true) ihl).comma
    rw [Term.parameters, List.map_append]
    exact (first.append_reads ihr).parenthesis.reads
  | apply function operand ih =>
    have name := @Scans.plain s.dialect function.sql (by cases function <;> decide)
    have opened := name.append_plain (by decide : isPlainText "(" = true)
    exact (opened.append_reads ih).parenthesis.reads

/-- The marks of several parameters. -/
lemma reads_placeholders (items : List Nat) :
    Reads s.dialect (s.placeholders items) (items.map s.dialect.placeholder) := by
  have each : ∀ t ∈ items.map s.dialect.placeholder, Reads s.dialect t [t] := by
    intro t ht
    obtain ⟨index, _, rfl⟩ := List.mem_map.1 ht
    exact Reads.placeholder s.dialect index
  have whole := Reads.joined _ (fun t => [t]) (by decide : isPlainText ", " = true)
    (by decide : ", ".toList = [',', ' ']) rfl each
  rwa [List.flatMap_singleton'] at whole

/-- The marks in the text of a term among parameters. -/
lemma reads_among (ha : isPlainText s.tableAlias) (operand : Term) (items : List Nat) :
    Reads s.dialect (s.among operand items)
      ((operand.parameters ++ items).map s.dialect.placeholder) := by
  have first := (reads_term ha operand).append_plain
    (by decide : isPlainText " IN (" = true) (by decide : " IN (".toList = ' ' :: "IN (".toList) rfl
  rw [List.map_append]
  exact (first.append_reads (reads_placeholders items)).parenthesis.reads

/-- The marks in the text of a condition are those of its parameters. -/
lemma reads_condition (ha : isPlainText s.tableAlias) (c : Condition) :
    Reads s.dialect (s.condition c) (c.parameters.map s.dialect.placeholder) := by
  induction c with
  | truth b =>
    cases b with
    | false => exact (@Scans.plain _ "1=0" (by decide)).reads
    | true => exact (@Scans.plain _ "1=1" (by decide)).reads
  | flag column expected =>
    have literal : isPlainText (s.dialect.boolean expected) = true := by
      cases s.dialect <;> cases expected <;> decide
    have sign := (reads_column ha column).append_plain
      (by decide : isPlainText " = " = true) (by decide : " = ".toList = [' ', '=', ' ']) rfl
    exact (sign.append_plain literal).reads
  | compare op left right =>
    have sign := (reads_term ha left).blank.append_plain
      (by cases op <;> decide : isPlainText op.sql = true)
    rw [Condition.parameters, List.map_append]
    have second := sign.append_plain (by decide : isPlainText " " = true)
    exact second.append_reads (reads_term ha right)
  | isNull operand negated =>
    cases negated with
    | false =>
      exact ((reads_term ha operand).append_plain (by decide : isPlainText " IS NULL" = true)
        (by decide : " IS NULL".toList = ' ' :: "IS NULL".toList) rfl).reads
    | true =>
      exact ((reads_term ha operand).append_plain (by decide : isPlainText " IS NOT NULL" = true)
        (by decide : " IS NOT NULL".toList = ' ' :: "IS NOT NULL".toList) rfl).reads
  | among operand items => exact reads_among ha operand items
  | amongOrNull operand items again =>
    have first := (Reads.after_plain (by decide : isPlainText "(" = true)
      (reads_among ha operand items)).append_plain (by decide : isPlainText " OR " = true)
      (by decide : " OR ".toList = ' ' :: "OR ".toList) rfl
    rw [Condition.parameters, List.map_append]
    exact ((first.append_reads (reads_term ha again)).append_plain
      (by decide : isPlainText " IS NULL)" = true)
      (by decide : " IS NULL)".toList = ' ' :: "IS NULL)".toList) rfl).reads
  | like operand pattern =>
    have first := (reads_term ha operand).append_plain (by decide : isPlainText " LIKE " = true)
      (by decide : " LIKE ".toList = ' ' :: "LIKE ".toList) rfl
    have second := (first.append_reads (reads_term ha pattern)).blank
    have whole := second.append_reads (Reads.likeEscape s.dialect)
    rwa [List.append_nil, ← List.map_append] at whole
  | connect op left right ihl ihr =>
    have first := (Reads.after_plain (by decide : isPlainText "(" = true) ihl).append_plain
      (by decide : isPlainText ") " = true) (by decide : ") ".toList = [')', ' ']) rfl
    have sign := first.append_plain (by cases op <;> decide : isPlainText op.sql = true)
    have second := (sign.append_plain (by decide : isPlainText " (" = true)).append_reads ihr
    rw [Condition.parameters, List.map_append]
    exact second.parenthesis.reads
  | not operand ih => exact (Reads.after_plain (by decide) ih).parenthesis.reads

end Spelling

end RelMap
