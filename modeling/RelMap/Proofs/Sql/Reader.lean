import RelMap.Proofs.Sql.Grammar

/-!
# Reading conditions

A reader goes through the tokens of a condition once, from left to right, and keeps on a stack what
still waits for an operand. Whatever the grammar allows it finds, so the grammar allows at most one
reading of a text.
-/

namespace RelMap.Sql

/-- What a list in parentheses belongs to. -/
inductive Head where
  | call (function : String)
  | among (operand : Tree)

/-- What a list in parentheses makes with its head. -/
def Head.tree : Head → List Tree → Tree
  | .call function => .call function
  | .among operand => .among operand

/-- What waits for an operand, or for a parenthesis to close. -/
inductive Frame where
  | negate
  | not
  | binary (op : Operator) (left : Tree)
  | like (operand : Tree)
  | group
  | items (head : Head) (done : List Tree)

/-- What a frame and its operand make if what follows binds no tighter than some level. -/
def Frame.close? (level : Nat) (operand : Tree) : Frame → Option Tree
  | .negate => if level ≤ 6 then some (.negate operand) else none
  | .not => if level ≤ 2 then some (.not operand) else none
  | .binary op left => if level ≤ op.level then some (op.tree left operand) else none
  | .like _ | .group | .items .. => none

/-- The frames that are left when those that bind tighter than what follows are closed. -/
def reduce (level : Nat) : List Frame → Tree → List Frame × Tree
  | [], t => ([], t)
  | frame :: stack, t =>
    match frame.close? level t with
    | some whole => reduce level stack whole
    | none => (frame :: stack, t)

/-- What a reader has just read, which says what may come next. -/
inductive Phase where
  /-- Nothing yet, or something that an operand has to follow. -/
  | start
  | operand (t : Tree)
  /-- A word, which may be the alias of a column or the name of a function. -/
  | word (text : String)
  | alias (tableAlias : String)
  | is (operand : Tree)
  | isNot (operand : Tree)
  | among (operand : Tree)
  | escape (operand pattern : Tree)

/-- A reader: what it waits for, innermost first, and what it has just read. -/
structure Reader where
  /-- What waits for an operand. -/
  stack : List Frame
  /-- What has just been read. -/
  phase : Phase

/-- The level to which a token closes what stands before it, if it may follow an operand. -/
def Token.level? : Token → Option Nat
  | .connective op => some (Operator.connective op).level
  | .comparison op => some (Operator.comparison op).level
  | .arithmetic op => some (Operator.arithmetic op).level
  | .is | .among | .like => some 3
  | .escape => some 4
  | .comma | .closing => some 0
  | _ => none

namespace Reader

/-- The reader behind an operand and a token that follows it. -/
def follow (stack : List Frame) (t : Tree) : Token → Option Reader
  | .connective op => some ⟨.binary (.connective op) t :: stack, .start⟩
  | .comparison op => some ⟨.binary (.comparison op) t :: stack, .start⟩
  | .arithmetic op => some ⟨.binary (.arithmetic op) t :: stack, .start⟩
  | .is => some ⟨stack, .is t⟩
  | .among => some ⟨stack, .among t⟩
  | .like => some ⟨.like t :: stack, .start⟩
  | .escape =>
    match stack with
    | .like operand :: stack => some ⟨stack, .escape operand t⟩
    | _ => none
  | .comma =>
    match stack with
    | .items head done :: stack => some ⟨.items head (done ++ [t]) :: stack, .start⟩
    | _ => none
  | .closing =>
    match stack with
    | .group :: stack => some ⟨stack, .operand t⟩
    | .items head done :: stack => some ⟨stack, .operand (head.tree (done ++ [t]))⟩
    | _ => none
  | _ => none

/-- The reader behind an operand and a token, when all that the token ends is closed. -/
def continue? (stack : List Frame) (t : Tree) (token : Token) : Option Reader :=
  match token.level? with
  | some level => follow (reduce level stack t).1 (reduce level stack t).2 token
  | none => none

/-- The reader behind a token. -/
def step (r : Reader) (token : Token) : Option Reader :=
  match r.phase with
  | .start =>
    match token with
    | .arithmetic .sub => some ⟨.negate :: r.stack, .start⟩
    | .not => some ⟨.not :: r.stack, .start⟩
    | .opening => some ⟨.group :: r.stack, .start⟩
    | .word text => some ⟨r.stack, .word text⟩
    | .mark text => some ⟨r.stack, .operand (.mark text)⟩
    | .literal text => some ⟨r.stack, .operand (.literal text)⟩
    | .null => some ⟨r.stack, .operand .null⟩
    | _ => none
  | .operand t => continue? r.stack t token
  | .word text =>
    match token with
    | .dot => some ⟨r.stack, .alias text⟩
    | .opening => some ⟨.items (.call text) [] :: r.stack, .start⟩
    | token => continue? r.stack (.word text) token
  | .alias tableAlias =>
    match token with
    | .name name => some ⟨r.stack, .operand (.column tableAlias name)⟩
    | _ => none
  | .is t =>
    match token with
    | .null => some ⟨r.stack, .operand (.isNull t false)⟩
    | .not => some ⟨r.stack, .isNot t⟩
    | _ => none
  | .isNot t =>
    match token with
    | .null => some ⟨r.stack, .operand (.isNull t true)⟩
    | _ => none
  | .among t =>
    match token with
    | .opening => some ⟨.items (.among t) [] :: r.stack, .start⟩
    | _ => none
  | .escape operand pattern =>
    match token with
    | .literal text => some ⟨r.stack, .operand (.like operand pattern text)⟩
    | _ => none

/-- What has been read, if nothing waits any more. -/
def finish? (r : Reader) : Option Tree :=
  match r.phase with
  | .operand t => whole? (reduce 0 r.stack t)
  | .word text => whole? (reduce 0 r.stack (.word text))
  | _ => none
where
  /-- A tree on which nothing waits. -/
  whole? : List Frame × Tree → Option Tree
    | ([], t) => some t
    | _ => none

/-- What a reader reads off tokens. -/
def run (r : Reader) : List Token → Option Tree
  | [] => r.finish?
  | token :: ts =>
    match r.step token with
    | some next => run next ts
    | none => none

end Reader

/-- What a text reads as. -/
def read (d : Dialect) (sql : String) : Option Tree := (lex d sql).bind (Reader.run ⟨[], .start⟩)

/-- An expression of some level may stand behind a frame. -/
def Frame.Admits (level : Nat) : Frame → Prop
  | .negate => 6 ≤ level
  | .not => 2 ≤ level
  | .binary op _ => op.level < level
  | .like _ | .group | .items .. => True

/-- An expression of some level may stand on a stack. -/
def Admits (level : Nat) (stack : List Frame) : Prop := ∀ frame ∈ stack.head?, frame.Admits level

/-- The level to which tokens close what stands before them. -/
def endLevel? : List Token → Option Nat
  | [] => some 0
  | token :: _ => token.level?

variable {m n level : Nat} {stack : List Frame} {t whole : Tree} {ts rest : List Token}

lemma Admits.mono (h : Admits m stack) (le : m ≤ n) : Admits n stack := by
  intro frame hf
  have admits := h frame hf
  cases frame with
  | negate | not | binary =>
    simp only [Frame.Admits] at admits ⊢
    omega
  | like | group | items => exact trivial

/-- What binds as tightly as an expression leaves the frames before the expression open. -/
lemma Admits.reduce (h : Admits m stack) (le : m ≤ level) (ne : level ≠ 2) (lt : level < 6) :
    reduce level stack t = (stack, t) := by
  cases stack with
  | nil => rfl
  | cons frame stack =>
    have admits := h frame rfl
    have stays : frame.close? level t = none := by
      cases frame with
      | negate | not | binary =>
        simp only [Frame.Admits] at admits
        exact if_neg (by omega)
      | like | group | items => rfl
    rw [Sql.reduce, stays]

lemma Operator.level_ne_two (op : Operator) : op.level ≠ 2 := by
  cases op with
  | connective op => cases op <;> decide
  | comparison op => exact (by decide : 3 ≠ 2)
  | arithmetic op => cases op <;> decide

lemma Operator.level_lt_six (op : Operator) : op.level < 6 := by
  cases op with
  | connective op => cases op <;> decide
  | comparison op => exact (by decide : 3 < 6)
  | arithmetic op => cases op <;> decide

/-- What follows an operand closes the frames before it first. -/
lemma run_close {frame : Frame} (ends : endLevel? rest = some level)
    (h : frame.close? level t = some whole) :
    Reader.run ⟨frame :: stack, .operand t⟩ rest = Reader.run ⟨stack, .operand whole⟩ rest := by
  have same : reduce level (frame :: stack) t = reduce level stack whole := by rw [reduce, h]
  cases rest with
  | nil =>
    cases ends
    simp only [Reader.run, Reader.finish?, same]
  | cons token rest =>
    simp only [endLevel?] at ends
    simp only [Reader.run, Reader.step, Reader.continue?, ends, same]

/-- A word is an operand if neither a dot nor a parenthesis follows. -/
lemma run_word {text : String} (ends : endLevel? rest = some level) :
    Reader.run ⟨stack, .word text⟩ rest = Reader.run ⟨stack, .operand (.word text)⟩ rest := by
  cases rest with
  | nil => rfl
  | cons token rest =>
    cases token with
    | dot | opening => cases ends
    | _ => rfl

/-- The reader goes on with an operand as with the operator behind it. -/
lemma run_operator (op : Operator) (h : Admits op.level stack) :
    Reader.run ⟨stack, .operand t⟩ (op.token :: rest) =
      Reader.run ⟨.binary op t :: stack, .start⟩ rest := by
  have stays : reduce op.level stack t = (stack, t) :=
    h.reduce (Nat.le_refl _) op.level_ne_two op.level_lt_six
  cases op <;>
    simp only [Operator.token, Reader.run, Reader.step, Reader.continue?, Token.level?, stays,
      Reader.follow]

/-- The reader reads tokens as a tree wherever an expression of the level may stand. -/
def ReadsAnywhere (level : Nat) (ts : List Token) (t : Tree) : Prop :=
  ∀ stack rest k, Admits level stack → endLevel? rest = some k → k ≤ level →
    Reader.run ⟨stack, .start⟩ (ts ++ rest) = Reader.run ⟨stack, .operand t⟩ rest

/-- A list is read item by item. -/
lemma run_items {head : Head} {items : List (List Token × Tree)} (nonempty : items ≠ [])
    (h : ∀ i ∈ items, ReadsAnywhere 0 i.1 i.2) (done : List Tree) :
    Reader.run ⟨.items head done :: stack, .start⟩
        (commas (items.map (·.1)) ++ .closing :: rest) =
      Reader.run ⟨stack, .operand (head.tree (done ++ items.map (·.2)))⟩ rest := by
  have admits (done : List Tree) : Admits 0 (.items head done :: stack) := by
    intro frame hf
    cases hf
    exact trivial
  induction items generalizing done with
  | nil => exact absurd rfl nonempty
  | cons i items ih =>
    have first := h i (List.mem_cons_self ..)
    cases items with
    | nil => exact first _ (.closing :: rest) 0 (admits done) rfl (Nat.le_refl 0)
    | cons j items =>
      have others := ih (List.cons_ne_nil j items) (fun k hk => h k (List.mem_cons_of_mem i hk))
        (done ++ [i.2])
      simp only [List.map_cons, commas] at others ⊢
      rw [List.append_assoc, List.cons_append, first _ _ 0 (admits done) rfl (Nat.le_refl 0)]
      rw [List.append_assoc] at others
      exact others

/-- Whatever the grammar allows is read. -/
lemma Derives.reads (h : Derives level ts t) : ReadsAnywhere level ts t := by
  -- The stack admits the level, so no operator of the expression closes a frame that was there
  -- before. What follows closes the level, so it closes all that the expression leaves open.
  induction h with
  | weaken le _ ih =>
    intro stack rest k admits ends lt
    exact ih stack rest k (admits.mono le) ends (Nat.le_trans lt le)
  | column | mark | literal | null =>
    intro stack rest k _ _ _
    rfl
  | word text =>
    intro stack rest k _ ends _
    exact run_word ends
  | group _ ih =>
    intro stack rest k _ _ _
    rw [List.cons_append, List.append_assoc]
    exact ih (.group :: stack) (.closing :: rest) 0 (fun frame hf => by cases hf; trivial) rfl
      (Nat.le_refl 0)
  | call function nonempty _ ih =>
    intro stack rest k _ _ _
    rw [List.cons_append, List.cons_append, List.append_assoc]
    exact run_items nonempty ih []
  | negate _ ih =>
    intro stack rest k _ ends le
    have operand := ih (.negate :: stack) rest k (fun frame hf => by cases hf; exact Nat.le_refl 6)
      ends le
    exact operand.trans (run_close ends (if_pos le))
  | not _ ih =>
    intro stack rest k _ ends le
    have operand := ih (.not :: stack) rest k (fun frame hf => by cases hf; exact Nat.le_refl 2)
      ends le
    exact operand.trans (run_close ends (if_pos le))
  | @binary ls l rs r op _ _ ihl ihr =>
    intro stack rest k admits ends le
    have opEnds : endLevel? (op.token :: (rs ++ rest)) = some op.level := by cases op <;> rfl
    have right := ihr (.binary op l :: stack) rest k
      (fun frame hf => by cases hf; exact Nat.lt_succ_self _) ends (Nat.le_succ_of_le le)
    have closes : (Frame.binary op l).close? k r = some (op.tree l r) := if_pos le
    rw [List.append_assoc, List.cons_append, ihl stack _ _ admits opEnds (Nat.le_refl _),
      run_operator op admits, right, run_close ends closes]
  | isNull _ ih | isNotNull _ ih =>
    intro stack rest k admits _ _
    rw [List.append_assoc, ih stack _ 3 admits rfl (Nat.le_refl 3)]
    simp only [List.cons_append, List.nil_append, Reader.run, Reader.step, Reader.continue?,
      Token.level?, admits.reduce (Nat.le_refl 3) (by decide) (by decide), Reader.follow]
  | among _ nonempty _ ih ihs =>
    intro stack rest k admits _ _
    rw [List.append_assoc, ih stack _ 3 admits rfl (Nat.le_refl 3)]
    simp only [List.cons_append, Reader.run, Reader.step, Reader.continue?,
      Token.level?, admits.reduce (Nat.le_refl 3) (by decide) (by decide), Reader.follow]
    rw [List.append_assoc]
    exact run_items nonempty ihs []
  | @like ls l rs r escape _ _ ihl ihr =>
    intro stack rest k admits _ _
    rw [List.append_assoc, ihl stack _ 3 admits rfl (Nat.le_refl 3)]
    simp only [List.cons_append, Reader.run, Reader.step, Reader.continue?,
      Token.level?, admits.reduce (Nat.le_refl 3) (by decide) (by decide), Reader.follow]
    rw [List.append_assoc]
    exact ihr (.like l :: stack) (.escape :: .literal escape :: rest) 4
      (fun frame hf => by cases hf; trivial) rfl (Nat.le_refl 4)

/-- A text that the grammar allows is read as its tree. -/
lemma ReadsAs.read {d : Dialect} {sql : String} (h : ReadsAs d sql t) : read d sql = some t := by
  obtain ⟨ts, cut, derives⟩ := h
  have whole := derives.reads [] [] 0 (fun frame hf => by cases hf) rfl (Nat.le_refl 0)
  rw [List.append_nil] at whole
  rw [Sql.read, cut]
  exact whole

/-- A text has one reading at most. -/
theorem ReadsAs.unique {d : Dialect} {sql : String} {t u : Tree} (ht : ReadsAs d sql t)
    (hu : ReadsAs d sql u) : t = u :=
  Option.some.inj (ht.read.symm.trans hu.read)

example : read .sqlServer "NOT a.[A] = 1 AND 2 - 3 * 4 - 5 > 6" =
    some (.connect .and (.not (.compare .eq (.column "a" "A") (.word "1")))
      (.compare .gt
        (.arithmetic .sub
          (.arithmetic .sub (.word "2") (.arithmetic .mul (.word "3") (.word "4"))) (.word "5"))
        (.word "6"))) := rfl

end RelMap.Sql
