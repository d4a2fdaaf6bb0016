import RelMap.Filter.Clause
import RelMap.Proofs.Sql.Reader

/-!
# What the text of a condition reads as

The text of a condition reads as the condition's tree and as nothing else, whatever the names in it.
-/

namespace RelMap

open Sql

/-- The tree of a term. -/
def Term.tree (s : Spelling) : Term → Tree
  | .column name => .column s.tableAlias name
  | .parameter index => .mark (s.dialect.placeholder index)
  | .null => .null
  | .negate operand => .negate (operand.tree s)
  | .arithmetic op left right => .arithmetic op (left.tree s) (right.tree s)
  | .coalesce left right => .call "COALESCE" [left.tree s, right.tree s]
  | .apply function operand => .call function.sql [operand.tree s]

/-- The tree of a condition that always holds, or never. -/
def Sql.Tree.truth (b : Bool) : Tree := .compare .eq (.word "1") (.word (if b then "1" else "0"))

/-- The tree of a boolean column compared with a literal. -/
def Spelling.flag (s : Spelling) (column : String) (expected : Bool) : Tree :=
  .compare .eq (.column s.tableAlias column) (.word (s.dialect.boolean expected))

/-- The trees of several parameters. -/
def Spelling.marks (s : Spelling) (items : List Nat) : List Tree :=
  items.map fun index => .mark (s.dialect.placeholder index)

/-- The tree of a condition. -/
def Condition.tree (s : Spelling) : Condition → Tree
  | .truth b => .truth b
  | .flag column expected => s.flag column expected
  | .compare op left right => .compare op (left.tree s) (right.tree s)
  | .isNull operand negated => .isNull (operand.tree s) negated
  | .among operand items => .among (operand.tree s) (s.marks items)
  | .amongOrNull operand items again =>
    .connect .or (.among (operand.tree s) (s.marks items)) (.isNull (again.tree s) false)
  | .like operand pattern => .like (operand.tree s) (pattern.tree s) "\\"
  | .connect op left right => .connect op (left.tree s) (right.tree s)
  | .not operand => .not (operand.tree s)

/-- No list of a condition is empty. -/
def Condition.Proper : Condition → Prop
  | .truth _ | .flag .. | .compare .. | .isNull .. | .like .. => True
  | .among _ items => items ≠ []
  | .amongOrNull _ items _ => items ≠ []
  | .connect _ left right => left.Proper ∧ right.Proper
  | .not operand => operand.Proper

namespace Sql

instance {d : Dialect} {text : String} {ts : List Token} {last : Place} :
    Decidable (Leads d text ts last) :=
  inferInstanceAs (Decidable (_ = _))

/-- A text that reads as a tree of some level, wherever a separator or nothing follows. -/
def Writes (d : Dialect) (level : Nat) (text : String) (t : Tree) : Prop :=
  ∃ ts, Ends d text ts ∧ Derives level ts t

/-- A text of several trees with commas between them. -/
def WritesAll (d : Dialect) (text : String) (trees : List Tree) : Prop :=
  ∃ items : List (List Token × Tree), items ≠ [] ∧ Ends d text (commas (items.map (·.1))) ∧
    (∀ i ∈ items, Derives 0 i.1 i.2) ∧ trees = items.map (·.2)

section
variable {d : Dialect} {m n : Nat} {a b : String} {t u : Tree} {us : List Tree}

/-- A text that holds together in one place does so in every place of a lower level. -/
lemma Writes.weaken (h : Writes d n a t) (le : m ≤ n) : Writes d m a t := by
  obtain ⟨ts, ends, derives⟩ := h
  exact ⟨ts, ends, .weaken le derives⟩

/-- A text that is read as one word is that word. -/
lemma Writes.word {text : String} {read : List Char} (leads : Leads d text [] (.word read))
    (same : Token.ofWord read = .word text) : Writes d 7 text (.word text) := by
  refine ⟨[.word text], ?_, .word text⟩
  have ends := leads.word
  rwa [same] at ends

/-- The mark of a parameter stands for itself, in every dialect. -/
lemma Writes.placeholder (d : Dialect) (index : Nat) :
    Writes d 7 (d.placeholder index) (.mark (d.placeholder index)) :=
  ⟨_, Ends.placeholder d index, .mark _⟩

/-- The literal of a boolean is one word, in every dialect. -/
lemma Writes.boolean (d : Dialect) (b : Bool) : Writes d 7 (d.boolean b) (.word (d.boolean b)) := by
  have leads : Leads d (d.boolean b) [] (.word (d.boolean b).toList) := by
    cases d <;> cases b <;> decide
  exact .word leads (by cases d <;> cases b <;> decide)

/-- The literal of null is no word, but null. -/
lemma Writes.null (d : Dialect) : Writes d 7 "NULL" .null := by
  have leads : Leads d "NULL" [] (.word "NULL".toList) := by cases d <;> decide
  exact ⟨_, leads.word, .null⟩

/-- A quoted name behind an alias and a dot is a column, whatever the name. -/
lemma Writes.column {tableAlias : String}
    (ha : Leads d (tableAlias ++ ".") [.word tableAlias, .dot] .outside) (name : String) :
    Writes d 7 (tableAlias ++ "." ++ d.quote name) (.column tableAlias name) :=
  ⟨_, ha.append_ends (Ends.quote d name), .column tableAlias name⟩

/-- A closing parenthesis is read as such, and what follows is read afresh. -/
lemma leads_closing (d : Dialect) : Leads d ")" [.closing] .outside := by cases d <;> decide

/-- An expression in parentheses holds together in every place. -/
lemma Writes.group (h : Writes d 0 a t) : Writes d 7 ("(" ++ a ++ ")") t := by
  have opening : Leads d "(" [.opening] .outside := by cases d <;> decide
  obtain ⟨ts, ends, derives⟩ := h
  have inner := (opening.append_ends ends).append (leads_closing d) (by decide)
  exact ⟨_, inner.ends, .group derives⟩

/-- A sign before parentheses negates what stands in them. -/
lemma Writes.negate (h : Writes d 0 a t) : Writes d 6 ("-(" ++ a ++ ")") (.negate t) := by
  have opening : Leads d "-(" [.arithmetic .sub, .opening] .outside := by cases d <;> decide
  obtain ⟨ts, ends, derives⟩ := h
  have inner := (opening.append_ends ends).append (leads_closing d) (by decide)
  exact ⟨_, inner.ends, .negate (.weaken (by decide) (.group derives))⟩

/-- A text of one tree needs no comma. -/
lemma WritesAll.one (h : Writes d 0 a t) : WritesAll d a [t] := by
  obtain ⟨ts, ends, derives⟩ := h
  refine ⟨[(ts, t)], nofun, ends, fun i hi => ?_, rfl⟩
  cases List.mem_singleton.1 hi
  exact derives

/-- A comma separates a tree from those that follow. -/
lemma WritesAll.cons (h : Writes d 0 a t) (hs : WritesAll d b us) :
    WritesAll d (a ++ ", " ++ b) (t :: us) := by
  have comma : Leads d ", " [.comma] .outside := by cases d <;> decide
  obtain ⟨ts, ends, derives⟩ := h
  obtain ⟨items, nonempty, ends', derives', rfl⟩ := hs
  have whole := (ends.append comma (by decide)).append_ends ends'
  cases items with
  | nil => exact absurd rfl nonempty
  | cons i items =>
    refine ⟨(ts, t) :: i :: items, nofun, ?_, fun j hj => ?_, rfl⟩
    · rwa [List.append_assoc] at whole
    · rcases List.mem_cons.1 hj with rfl | hj
      · exact derives
      · exact derives' j hj

/-- Texts that are joined by commas are read one by one. -/
lemma WritesAll.joined {α : Type} {text : α → String} {tree : α → Tree} {items : List α}
    (nonempty : items ≠ []) (h : ∀ i, Writes d 0 (text i) (tree i)) :
    WritesAll d (Text.joined ", " (items.map text)) (items.map tree) := by
  induction items with
  | nil => exact absurd rfl nonempty
  | cons i items ih =>
    cases items with
    | nil => exact .one (h i)
    | cons j items => exact .cons (h i) (ih nofun)

/-- A name with arguments in parentheses is a call. -/
lemma Writes.call {function opened : String}
    (ho : Leads d opened [.word function, .opening] .outside) (h : WritesAll d a us) :
    Writes d 7 (opened ++ a ++ ")") (.call function us) := by
  obtain ⟨items, nonempty, ends, derives, rfl⟩ := h
  have inner := (ho.append_ends ends).append (leads_closing d) (by decide)
  exact ⟨_, inner.ends, .call function nonempty derives⟩

/-- A term before `IN` and a list in parentheses are tested for membership. -/
lemma Writes.among (h : Writes d 3 a t) (hs : WritesAll d b us) :
    Writes d 3 (a ++ " IN (" ++ b ++ ")") (.among t us) := by
  have opened : Leads d " IN (" [.among, .opening] .outside := by cases d <;> decide
  obtain ⟨ts, ends, derives⟩ := h
  obtain ⟨items, nonempty, ends', derives', rfl⟩ := hs
  have inner := (((ends.append opened (by decide)).append_ends ends').append
    (leads_closing d) (by decide)).ends
  rw [List.append_assoc, List.append_assoc] at inner
  exact ⟨_, inner, .among derives nonempty derives'⟩

/-- A term before `IS NULL` is tested for null. -/
lemma Writes.isNull (h : Writes d 3 a t) : Writes d 3 (a ++ " IS NULL") (.isNull t false) := by
  have test : Leads d " IS NULL" [.is] (.word "NULL".toList) := by cases d <;> decide
  obtain ⟨ts, ends, derives⟩ := h
  exact ⟨_, ends.append_ends test.word (by decide), .isNull derives⟩

/-- A term before `IS NOT NULL` is tested for a value; the `NOT` belongs to the test. -/
lemma Writes.isNotNull (h : Writes d 3 a t) :
    Writes d 3 (a ++ " IS NOT NULL") (.isNull t true) := by
  have test : Leads d " IS NOT NULL" [.is, .not] (.word "NULL".toList) := by cases d <;> decide
  obtain ⟨ts, ends, derives⟩ := h
  exact ⟨_, ends.append_ends test.word (by decide), .isNotNull derives⟩

/-- A term before `LIKE` and a pattern are matched; the escape belongs to the pattern. -/
lemma Writes.like (ha : Writes d 3 a t) (hb : Writes d 4 b u) :
    Writes d 3 (a ++ " LIKE " ++ b ++ " " ++ d.likeEscape) (.like t u "\\") := by
  have like : Leads d " LIKE " [.like] .outside := by cases d <;> decide
  have escape : Leads d (" " ++ d.likeEscape) [.escape] (.unescaped ['\\']) := by
    cases d <;> decide
  obtain ⟨ts, ends, derives⟩ := ha
  obtain ⟨us, ends', derives'⟩ := hb
  have matched := (ends.append like (by decide)).append_ends ends'
  have whole := matched.append_ends escape.unescaped (separates_append (by decide))
  rw [← String.append_assoc, List.append_assoc, List.append_assoc] at whole
  exact ⟨_, whole, .like "\\" derives derives'⟩

/-- A negation takes what stands in the parentheses behind it, and no more. -/
lemma Writes.not (h : Writes d 0 a t) : Writes d 2 ("NOT (" ++ a ++ ")") (.not t) := by
  have opened : Leads d "NOT (" [.not, .opening] .outside := by cases d <;> decide
  obtain ⟨ts, ends, derives⟩ := h
  have inner := (opened.append_ends ends).append (leads_closing d) (by decide)
  exact ⟨_, inner.ends, .not (.weaken (by decide) (.group derives))⟩

/-- The spelling of an operator. -/
def Operator.sql : Operator → String
  | .connective op => op.sql
  | .comparison op => op.sql
  | .arithmetic op => op.sql

/-- An operator between blanks is read as that operator. -/
lemma leads_operator (d : Dialect) (op : Operator) :
    Leads d (" " ++ op.sql ++ " ") [op.token] .outside := by
  cases op with
  | connective op => cases d <;> cases op <;> decide
  | comparison op => cases d <;> cases op <;> decide
  | arithmetic op => cases d <;> cases op <;> decide

/-- An operator takes operands that hold together as closely as its level asks for. -/
lemma Writes.binary (op : Operator) (ha : Writes d op.level a t)
    (hb : Writes d (op.level + 1) b u) :
    Writes d op.level (a ++ " " ++ op.sql ++ " " ++ b) (op.tree t u) := by
  obtain ⟨ts, ends, derives⟩ := ha
  obtain ⟨us, ends', derives'⟩ := hb
  have first := ends.append (leads_operator d op) (separates_append (separates_append (by decide)))
  have whole := first.append_ends ends'
  refine ⟨ts ++ [op.token] ++ us, ?_, ?_⟩
  · simpa only [String.append_assoc] using whole
  · rw [List.append_assoc]
    exact .binary op derives derives'

end

end Sql

namespace Spelling

variable {s : Spelling}
  (ha : Leads s.dialect (s.tableAlias ++ ".") [.word s.tableAlias, .dot] .outside)
include ha

/-- The text of a term reads as its tree. -/
lemma writes_term (t : Term) : Writes s.dialect 6 (s.term t) (t.tree s) := by
  induction t with
  | column name => exact (Writes.column ha name).weaken (by decide)
  | parameter index => exact (Writes.placeholder s.dialect index).weaken (by decide)
  | null => exact (Writes.null s.dialect).weaken (by decide)
  | negate operand ih => exact (ih.weaken (by decide)).negate
  | arithmetic op left right ihl ihr =>
    have inner := Writes.binary (.arithmetic op) (ihl.weaken (by cases op <;> decide))
      (ihr.weaken (by cases op <;> decide))
    have whole := (inner.weaken (Nat.zero_le _)).group
    simp only [← String.append_assoc] at whole
    exact whole.weaken (by decide)
  | coalesce left right ihl ihr =>
    have opened : Leads s.dialect "COALESCE(" [.word "COALESCE", .opening] .outside := by
      cases s.dialect <;> decide
    have args := WritesAll.cons (ihl.weaken (Nat.zero_le _)) (.one (ihr.weaken (Nat.zero_le _)))
    have whole := Writes.call opened args
    simp only [← String.append_assoc] at whole
    exact whole.weaken (by decide)
  | apply function operand ih =>
    have opened :
        Leads s.dialect (function.sql ++ "(") [.word function.sql, .opening] .outside := by
      cases s.dialect <;> cases function <;> decide
    exact (Writes.call opened (.one (ih.weaken (Nat.zero_le _)))).weaken (by decide)

/-- The text of a test among parameters reads as that test. -/
lemma writes_among (operand : Term) {items : List Nat} (nonempty : items ≠ []) :
    Writes s.dialect 3 (s.among operand items) (.among (operand.tree s) (s.marks items)) := by
  have list : WritesAll s.dialect (s.placeholders items) (s.marks items) :=
    WritesAll.joined nonempty fun index => (Writes.placeholder s.dialect index).weaken (by decide)
  exact ((writes_term ha operand).weaken (by decide)).among list

/-- The text of a condition without empty lists reads as its tree. -/
lemma writes_condition {c : Condition} (proper : c.Proper) :
    Writes s.dialect 0 (s.condition c) (c.tree s) := by
  induction c with
  | truth b =>
    have one : Derives 3 [.word "1"] (.word "1") := .weaken (by decide) (.word "1")
    cases b with
    | false =>
      have text : Leads s.dialect "1=0" [.word "1", .comparison .eq] (.word ['0']) := by
        cases s.dialect <;> decide
      exact ⟨_, text.word, .weaken (by decide)
        (.binary (.comparison .eq) one (.weaken (by decide) (.word "0")))⟩
    | true =>
      have text : Leads s.dialect "1=1" [.word "1", .comparison .eq] (.word ['1']) := by
        cases s.dialect <;> decide
      exact ⟨_, text.word, .weaken (by decide)
        (.binary (.comparison .eq) one (.weaken (by decide) (.word "1")))⟩
  | flag column expected =>
    have whole := Writes.binary (.comparison .eq)
      ((Writes.column ha column).weaken (by decide : 3 ≤ 7))
      ((Writes.boolean s.dialect expected).weaken (by decide : 4 ≤ 7))
    have sign : " = " = " " ++ ("=" ++ " ") := by decide
    rw [condition, sign, ← String.append_assoc, ← String.append_assoc]
    exact whole.weaken (by decide)
  | compare op left right =>
    have whole := Writes.binary (.comparison op)
      ((writes_term ha left).weaken (by decide : 3 ≤ 6))
      ((writes_term ha right).weaken (by decide : 4 ≤ 6))
    exact whole.weaken (Nat.zero_le _)
  | isNull operand negated =>
    have term := (writes_term ha operand).weaken (by decide : 3 ≤ 6)
    cases negated with
    | false => exact term.isNull.weaken (by decide)
    | true => exact term.isNotNull.weaken (by decide)
  | among operand items => exact (writes_among ha operand proper).weaken (by decide)
  | amongOrNull operand items again =>
    have left := (writes_among ha operand proper).weaken (by decide : 0 ≤ 3)
    have right := ((writes_term ha again).weaken (by decide : 3 ≤ 6)).isNull
    have whole := (Writes.binary (.connective .or) left (right.weaken (by decide : 1 ≤ 3))).group
    have sign : " OR " = " " ++ ("OR" ++ " ") := by decide
    have closing : " IS NULL)" = " IS NULL" ++ ")" := by decide
    rw [condition, sign, closing]
    simp only [← String.append_assoc] at whole ⊢
    exact whole.weaken (by decide)
  | like operand pattern =>
    exact (((writes_term ha operand).weaken (by decide)).like
      ((writes_term ha pattern).weaken (by decide))).weaken (by decide)
  | connect op left right ihl ihr =>
    have whole := Writes.binary (.connective op)
      ((ihl proper.1).group.weaken (by cases op <;> decide))
      ((ihr proper.2).group.weaken (by cases op <;> decide))
    have closing : ") " = ")" ++ " " := by decide
    have opening : " (" = " " ++ "(" := by decide
    rw [condition, closing, opening]
    simp only [← String.append_assoc] at whole ⊢
    exact whole.weaken (Nat.zero_le _)
  | not operand ih => exact (ih proper).not.weaken (by decide)

/-- The text of a condition without empty lists has one reading, which is the condition's tree. -/
theorem readsAs_condition_iff {c : Condition} (proper : c.Proper) {t : Tree} :
    ReadsAs s.dialect (s.condition c) t ↔ t = c.tree s := by
  obtain ⟨ts, ends, derives⟩ := writes_condition ha proper
  have reads : ReadsAs s.dialect (s.condition c) (c.tree s) := ⟨ts, ends.lex, derives⟩
  constructor
  · intro ht
    exact ht.unique reads
  · rintro rfl
    exact reads

end Spelling

/-- The alias of the root is a word of its own before a dot. -/
lemma leads_rootAlias (d : Dialect) :
    Leads d (rootAlias ++ ".") [.word rootAlias, .dot] .outside := by
  cases d <;> decide

/-- The text of a clause with that alias has one reading, which is the tree of its condition. -/
lemma Clause.readsAs_iff {c : Clause} {d : Dialect} (spelled : c.spelling = ⟨d, rootAlias⟩)
    (proper : c.condition.Proper) {t : Tree} :
    ReadsAs d c.sql t ↔ t = c.condition.tree c.spelling := by
  rw [Clause.sql, spelled]
  exact @Spelling.readsAs_condition_iff ⟨d, rootAlias⟩ (leads_rootAlias d) c.condition proper t

end RelMap
