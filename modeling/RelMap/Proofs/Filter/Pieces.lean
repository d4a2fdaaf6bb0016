import RelMap.Filter.Clause
import Mathlib.Tactic.Lemma

/-!
# Pieces of a condition's text

The text of a condition is put together of pieces that follow from the condition and the alias of
its table alone. Most of them are plain text; only quoted names, the marks of parameters, boolean
literals and the escape clause of a pattern are left to the dialect.
-/

namespace RelMap

/-- A piece of a text, plain or for a dialect to spell. -/
inductive Piece where
  | text (s : String)
  | name (ident : String)
  | mark (index : Nat)
  | boolean (b : Bool)
  | likeEscape
  deriving DecidableEq

namespace Dialect

/-- How a dialect spells a piece. -/
@[simp] def spell (d : Dialect) : Piece → String
  | .text s => s
  | .name ident => d.quote ident
  | .mark index => d.placeholder index
  | .boolean b => d.boolean b
  | .likeEscape => d.likeEscape

/-- Pieces spelled one after the other. -/
def spellAll (d : Dialect) : List Piece → String
  | [] => ""
  | p :: ps => d.spell p ++ d.spellAll ps

@[simp] lemma spellAll_nil (d : Dialect) : d.spellAll [] = "" := rfl

@[simp] lemma spellAll_cons (d : Dialect) (p : Piece) (ps : List Piece) :
    d.spellAll (p :: ps) = d.spell p ++ d.spellAll ps := rfl

@[simp] lemma spellAll_append (d : Dialect) (ps qs : List Piece) :
    d.spellAll (ps ++ qs) = d.spellAll ps ++ d.spellAll qs := by
  induction ps with
  | nil => exact String.empty_append.symm
  | cons p ps ih => rw [List.cons_append, spellAll_cons, ih, spellAll_cons, String.append_assoc]

end Dialect

/-- The pieces of a column behind the alias of its table. -/
def Piece.column (tableAlias name : String) : List Piece := [.text (tableAlias ++ "."), .name name]

/-- The pieces of the marks of several parameters. -/
def Piece.marks : List Nat → List Piece
  | [] => []
  | [i] => [.mark i]
  | i :: j :: rest => .mark i :: .text ", " :: marks (j :: rest)

/-- The pieces of a term. -/
def Term.pieces (tableAlias : String) : Term → List Piece
  | .column name => Piece.column tableAlias name
  | .parameter index => [.mark index]
  | .null => [.text "NULL"]
  | .negate operand => .text "-(" :: operand.pieces tableAlias ++ [.text ")"]
  | .arithmetic op left right =>
    .text "(" :: left.pieces tableAlias ++ .text (" " ++ op.sql ++ " ") ::
      right.pieces tableAlias ++ [.text ")"]
  | .coalesce left right =>
    .text "COALESCE(" :: left.pieces tableAlias ++ .text ", " ::
      right.pieces tableAlias ++ [.text ")"]
  | .apply function operand =>
    .text (function.sql ++ "(") :: operand.pieces tableAlias ++ [.text ")"]

/-- The pieces of a term among parameters. -/
def Piece.among (tableAlias : String) (operand : Term) (items : List Nat) : List Piece :=
  operand.pieces tableAlias ++ .text " IN (" :: marks items ++ [.text ")"]

/-- The pieces of a condition. -/
def Condition.pieces (tableAlias : String) : Condition → List Piece
  | .truth true => [.text "1=1"]
  | .truth false => [.text "1=0"]
  | .flag column expected => Piece.column tableAlias column ++ [.text " = ", .boolean expected]
  | .compare op left right =>
    left.pieces tableAlias ++ .text (" " ++ op.sql ++ " ") :: right.pieces tableAlias
  | .isNull operand false => operand.pieces tableAlias ++ [.text " IS NULL"]
  | .isNull operand true => operand.pieces tableAlias ++ [.text " IS NOT NULL"]
  | .among operand items => Piece.among tableAlias operand items
  | .amongOrNull operand items again =>
    .text "(" :: Piece.among tableAlias operand items ++ .text " OR " :: again.pieces tableAlias ++
      [.text " IS NULL)"]
  | .like operand pattern =>
    operand.pieces tableAlias ++ .text " LIKE " :: pattern.pieces tableAlias ++
      [.text " ", .likeEscape]
  | .connect op left right =>
    .text "(" :: left.pieces tableAlias ++ .text (") " ++ op.sql ++ " (") ::
      right.pieces tableAlias ++ [.text ")"]
  | .not operand => .text "NOT (" :: operand.pieces tableAlias ++ [.text ")"]

namespace Spelling

variable {s : Spelling}

lemma column_eq_spellAll (name : String) :
    s.column name = s.dialect.spellAll (Piece.column s.tableAlias name) := by
  simp [column, Piece.column, String.append_assoc]

lemma placeholders_eq_spellAll (items : List Nat) :
    s.placeholders items = s.dialect.spellAll (Piece.marks items) := by
  induction items with
  | nil => rfl
  | cons i items ih =>
    cases items with
    | nil => simp [placeholders, Text.joined, Piece.marks]
    | cons j rest =>
      simp only [placeholders, List.map_cons, Text.joined, String.append_assoc] at ih ⊢
      rw [ih]
      rfl

/-- The text of a term is that of its pieces. -/
lemma term_eq_spellAll (t : Term) :
    s.term t = s.dialect.spellAll (t.pieces s.tableAlias) := by
  induction t with
  | column name => exact column_eq_spellAll name
  | parameter index => simp [term, Term.pieces]
  | null => rfl
  | negate operand ih => simp [term, Term.pieces, ih, String.append_assoc]
  | arithmetic op left right ihl ihr =>
    simp [term, Term.pieces, ihl, ihr, String.append_assoc]
  | coalesce left right ihl ihr =>
    simp [term, Term.pieces, ihl, ihr, String.append_assoc]
  | apply function operand ih =>
    simp [term, Term.pieces, ih, String.append_assoc]

lemma among_eq_spellAll (operand : Term) (items : List Nat) :
    s.among operand items = s.dialect.spellAll (Piece.among s.tableAlias operand items) := by
  simp [among, Piece.among, term_eq_spellAll, placeholders_eq_spellAll,
    String.append_assoc]

/-- The text of a condition is that of its pieces. -/
lemma condition_eq_spellAll (c : Condition) :
    s.condition c = s.dialect.spellAll (c.pieces s.tableAlias) := by
  induction c with
  | truth b => cases b <;> rfl
  | flag column expected =>
    simp [condition, Condition.pieces, column_eq_spellAll, String.append_assoc]
  | compare op left right =>
    simp [condition, Condition.pieces, term_eq_spellAll, String.append_assoc]
  | isNull operand negated =>
    cases negated <;> simp [condition, Condition.pieces, term_eq_spellAll]
  | among operand items => exact among_eq_spellAll operand items
  | amongOrNull operand items again =>
    simp [condition, Condition.pieces, among_eq_spellAll, term_eq_spellAll,
      String.append_assoc]
  | like operand pattern =>
    simp [condition, Condition.pieces, term_eq_spellAll, String.append_assoc]
  | connect op left right ihl ihr =>
    simp [condition, Condition.pieces, ihl, ihr, String.append_assoc]
  | not operand ih =>
    simp [condition, Condition.pieces, ih, String.append_assoc]

end Spelling

end RelMap
