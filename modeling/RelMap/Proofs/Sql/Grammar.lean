import RelMap.Proofs.Sql.Token

/-!
# The grammar of conditions

What the tokens of a condition may be read as. Arithmetic binds tighter than comparisons and tests,
these bind tighter than `NOT`, and that binds tighter than `AND`, which binds tighter than `OR`;
operators of one level are read from left to right.
-/

namespace RelMap.Sql

/-- What a condition, or a part of one, reads as. -/
inductive Tree where
  | column (tableAlias name : String)
  | mark (text : String)
  /-- A number or a truth value. -/
  | word (text : String)
  | literal (text : String)
  | null
  | negate (operand : Tree)
  | arithmetic (op : Arithmetic) (left right : Tree)
  | call (function : String) (args : List Tree)
  | compare (op : Comparison) (left right : Tree)
  | isNull (operand : Tree) (negated : Bool)
  | among (operand : Tree) (items : List Tree)
  | like (operand pattern : Tree) (escape : String)
  | not (operand : Tree)
  | connect (op : Connective) (left right : Tree)

/-- The operators that stand between two operands. -/
inductive Operator where
  | connective (op : Connective)
  | comparison (op : Comparison)
  | arithmetic (op : Arithmetic)

namespace Operator

/-- The token of an operator. -/
def token : Operator → Token
  | .connective op => .connective op
  | .comparison op => .comparison op
  | .arithmetic op => .arithmetic op

/-- What an operator makes of its operands. -/
def tree : Operator → Tree → Tree → Tree
  | .connective op => .connect op
  | .comparison op => .compare op
  | .arithmetic op => .arithmetic op

/--
How tightly an operator binds. Between the connectives and the comparisons there is `NOT`, with
level 2; `IS`, `IN` and `LIKE` have the level of comparisons, and a sign before an operand has
level 6.
-/
def level : Operator → Nat
  | .connective .or => 0
  | .connective .and => 1
  | .comparison _ => 3
  | .arithmetic .add | .arithmetic .sub => 4
  | .arithmetic .mul | .arithmetic .div | .arithmetic .mod => 5

end Operator

/-- Several sequences of tokens with commas between them. -/
def commas : List (List Token) → List Token
  | [] => []
  | [ts] => ts
  | ts :: us :: rest => ts ++ .comma :: commas (us :: rest)

/-- The tokens of an expression that holds together at some level, and what they read as. -/
inductive Derives : Nat → List Token → Tree → Prop where
  | weaken {m n ts t} :
    m ≤ n →
    Derives n ts t →
    Derives m ts t
  | column (tableAlias name : String) :
    Derives 7 [.word tableAlias, .dot, .name name] (.column tableAlias name)
  | mark (text : String) :
    Derives 7 [.mark text] (.mark text)
  | word (text : String) :
    Derives 7 [.word text] (.word text)
  | literal (text : String) :
    Derives 7 [.literal text] (.literal text)
  | null :
    Derives 7 [.null] .null
  | group {ts t} :
    Derives 0 ts t →
    Derives 7 (.opening :: (ts ++ [.closing])) t
  | call {args : List (List Token × Tree)} (function : String) :
    args ≠ [] →
    (∀ a ∈ args, Derives 0 a.1 a.2) →
    Derives 7 (.word function :: .opening :: (commas (args.map (·.1)) ++ [.closing]))
      (.call function (args.map (·.2)))
  | negate {ts t} :
    Derives 6 ts t →
    Derives 6 (.arithmetic .sub :: ts) (.negate t)
  | binary {ls l rs r} (op : Operator) :
    Derives op.level ls l →
    Derives (op.level + 1) rs r →
    Derives op.level (ls ++ op.token :: rs) (op.tree l r)
  | isNull {ts t} :
    Derives 3 ts t →
    Derives 3 (ts ++ [.is, .null]) (.isNull t false)
  | isNotNull {ts t} :
    Derives 3 ts t →
    Derives 3 (ts ++ [.is, .not, .null]) (.isNull t true)
  | among {ts t} {items : List (List Token × Tree)} :
    Derives 3 ts t →
    items ≠ [] →
    (∀ i ∈ items, Derives 0 i.1 i.2) →
    Derives 3 (ts ++ .among :: .opening :: (commas (items.map (·.1)) ++ [.closing]))
      (.among t (items.map (·.2)))
  | like {ls l rs r} (escape : String) :
    Derives 3 ls l →
    Derives 4 rs r →
    Derives 3 (ls ++ .like :: (rs ++ [.escape, .literal escape])) (.like l r escape)
  | not {ts t} :
    Derives 2 ts t →
    Derives 2 (.not :: ts) (.not t)

/-- A text reads as a tree by the rules of a dialect. -/
def ReadsAs (d : Dialect) (sql : String) (t : Tree) : Prop :=
  ∃ ts, lex d sql = some ts ∧ Derives 0 ts t

/-- How many parentheses are open behind some tokens, unless one is closed that is not open. -/
def depth? (n : Nat) : List Token → Option Nat
  | [] => some n
  | t :: ts =>
    match t with
    | .opening => depth? (n + 1) ts
    | .closing =>
      match n with
      | 0 => none
      | n + 1 => depth? n ts
    | _ => depth? n ts

/-- Every quote of a text is closed, and every parenthesis. -/
def Balanced (d : Dialect) (sql : String) : Prop := (lex d sql).bind (depth? 0) = some 0

lemma depth?_commas {parts : List (List Token)}
    (h : ∀ ts ∈ parts, ∀ k rest, depth? k (ts ++ rest) = depth? k rest) (k : Nat)
    (rest : List Token) : depth? k (commas parts ++ rest) = depth? k rest := by
  fun_induction commas parts with
  | case1 => rfl
  | case2 ts => exact h ts (List.mem_singleton_self ts) k rest
  | case3 ts us others ih =>
    rw [List.append_assoc, h ts (List.mem_cons_self ..)]
    exact ih fun vs hv => h vs (List.mem_cons_of_mem ts hv)

/-- A list between parentheses closes what it opens if each of its items does. -/
lemma depth?_enclosed {items : List (List Token × Tree)}
    (h : ∀ i ∈ items, ∀ k rest, depth? k (i.1 ++ rest) = depth? k rest) (k : Nat)
    (rest : List Token) :
    depth? k (.opening :: (commas (items.map (·.1)) ++ [.closing]) ++ rest) = depth? k rest := by
  change depth? (k + 1) (_ ++ _ ++ rest) = _
  rw [List.append_assoc, depth?_commas]
  · rfl
  · intro ts hts
    obtain ⟨i, hi, rfl⟩ := List.mem_map.1 hts
    exact h i hi

/-- An expression closes the parentheses that it opens. -/
lemma Derives.depth?_append {n : Nat} {ts : List Token} {t : Tree} (h : Derives n ts t) :
    ∀ k rest, depth? k (ts ++ rest) = depth? k rest := by
  induction h with
  | weaken _ _ ih => exact ih
  | column | mark | word | literal | null =>
    intro k rest
    rfl
  | group _ ih =>
    intro k rest
    change depth? (k + 1) (_ ++ _ ++ rest) = _
    rw [List.append_assoc, ih]
    rfl
  | call function _ _ ih =>
    intro k rest
    exact depth?_enclosed ih k rest
  | negate _ ih => exact ih
  | binary op _ _ ihl ihr =>
    intro k rest
    have tail := ihr k rest
    rw [List.append_assoc, ihl, List.cons_append]
    cases op <;> exact tail
  | isNull _ ih | isNotNull _ ih =>
    intro k rest
    rw [List.append_assoc, ih]
    rfl
  | among _ _ _ ih ihs =>
    intro k rest
    rw [List.append_assoc, ih]
    exact depth?_enclosed ihs k rest
  | like escape _ _ ihl ihr =>
    intro k rest
    rw [List.append_assoc, ihl]
    change depth? k (_ ++ _ ++ rest) = _
    rw [List.append_assoc, ihr]
    rfl
  | not _ ih => exact ih

/-- A text that can be read is balanced. -/
lemma ReadsAs.balanced {d : Dialect} {sql : String} {t : Tree} (h : ReadsAs d sql t) :
    Balanced d sql := by
  obtain ⟨ts, cut, derives⟩ := h
  have closes := derives.depth?_append 0 []
  rw [List.append_nil] at closes
  rw [Balanced, cut]
  exact closes

end RelMap.Sql
