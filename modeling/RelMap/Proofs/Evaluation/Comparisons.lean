import RelMap.Proofs.Evaluation.Widths

/-!
# Comparing values that are known

Away from floating-point numbers, equality and the orders of two values come from one thing by which
a value is compared: an integer by its number, whatever its width is, and any other value by what it
is. Values are equal just if they are compared by the same, and have an order just if they are
compared by things of one class.
-/

namespace RelMap

/-- Whether a value is a floating-point number. -/
def Value.isFloat : Value → Bool
  | .float32 _ | .float64 _ => true
  | _ => false

/-- Classes of kinds whose values have an order among themselves. -/
inductive OrderClass where
  | number | bool | string | bytes | timestamp | uuid
  deriving DecidableEq

/-- The class of a kind; there is none with null or with lists in it. -/
def Kind.orderClass? : Kind → Option OrderClass
  | .int32 | .int64 | .float32 | .float64 => some .number
  | .bool => some .bool
  | .string => some .string
  | .bytes => some .bytes
  | .timestamp => some .timestamp
  | .uuid => some .uuid
  | .null | .list => none

namespace Evaluation

/-- What values other than floating-point numbers are compared by. -/
inductive SortKey where
  | number (i : Int)
  | bool (b : Bool)
  | string (s : String)
  | bytes (content : List UInt8)
  | timestamp (micros : Int)
  | uuid (content : List UInt8)
  /-- A value without an order. -/
  | unordered (v : Value)

namespace SortKey

/-- The class of what is compared. -/
def orderClass? : SortKey → Option OrderClass
  | number _ => some .number
  | bool _ => some .bool
  | string _ => some .string
  | bytes _ => some .bytes
  | timestamp _ => some .timestamp
  | uuid _ => some .uuid
  | unordered _ => none

/-- The order within a class. -/
def compare : SortKey → SortKey → Option Ordering
  | number a, number b => some (Ord.compare a b)
  | bool a, bool b => some (Ord.compare a b)
  | string a, string b => some (Ord.compare a b)
  | bytes a, bytes b => some (Ord.compare a b)
  | timestamp a, timestamp b => some (Ord.compare a b)
  | uuid a, uuid b => some (Ord.compare a b)
  | _, _ => none

variable {a b c : SortKey} {o : Ordering}

/-- The other way round, the order is turned. -/
lemma compare_swap (a b : SortKey) : b.compare a = (a.compare b).map Ordering.swap := by
  cases a <;> cases b <;> first | rfl | exact congrArg some Std.OrientedOrd.eq_swap

/-- Of things that have an order, only the same one is equal. -/
lemma compare_eq_iff (h : a.compare b = some o) : o = .eq ↔ a = b := by
  cases a <;> cases b <;> cases h <;> simp

lemma compare_trans (h : a.compare b = some .lt) (h' : b.compare c = some .lt) :
    a.compare c = some .lt := by
  cases a <;> cases b <;> try cases h
  all_goals cases c <;> try cases h'
  -- What is left are three things of one class, and the order of each class is transitive.
  all_goals
    exact congrArg some (Std.TransCmp.lt_trans (Option.some.inj h) (Option.some.inj h'))

/-- Two things have an order just if they are of one class. -/
lemma isSome_compare :
    (a.compare b).isSome = true ↔ ∃ c, a.orderClass? = some c ∧ b.orderClass? = some c := by
  cases a <;> cases b <;> simp [compare, orderClass?]

end SortKey

/--
What a value is compared by. Floating-point numbers have an order that is not of this kind; they
stand among the values without one.
-/
def sortKey : Value → SortKey
  | .int32 i => .number i.toInt
  | .int64 i => .number i.toInt
  | .bool b => .bool b
  | .string s => .string s
  | .bytes content => .bytes content
  | .timestamp t => .timestamp t.toInt
  | .uuid content => .uuid content.toList
  | v => .unordered v

variable {l r : Value}

lemma compare?_eq (hl : l.isFloat = false) (hr : r.isFloat = false) :
    compare? l r = (sortKey l).compare (sortKey r) := by
  cases l <;> cases hl <;> cases r <;> cases hr <;> rfl

lemma orderClass?_sortKey (hl : l.isFloat = false) :
    (sortKey l).orderClass? = l.kind.orderClass? := by
  cases l <;> cases hl <;> rfl

lemma sortKey_of_integer? {v : Value} {i : Int} (h : integer? v = some i) :
    sortKey v = .number i := by
  cases v <;> cases h <;> rfl

/-- Only integers of one number are compared by the same and need not be of one kind. -/
lemma sortKey_eq_iff :
    sortKey l = sortKey r ↔ l = r ∨ ∃ i, integer? l = some i ∧ integer? r = some i := by
  constructor
  · intro h
    cases l <;> cases r <;> simp_all [sortKey, integer?, Int64.toInt_inj, Vector.toList_inj]
  · rintro (rfl | ⟨i, hl, hr⟩)
    · rfl
    · rw [sortKey_of_integer? hl, sortKey_of_integer? hr]

/-- A null needs no treatment of its own. -/
lemma equal_eq (l r : Value) : equal l r = (compare? l r == some .eq || decide (l = r)) := by
  cases l <;> cases r <;> rfl

/-- Values are equal just if they are compared by the same. -/
lemma equal_iff (hl : l.isFloat = false) (hr : r.isFloat = false) :
    equal l r = true ↔ sortKey l = sortKey r := by
  rw [equal_eq, Bool.or_eq_true, beq_iff_eq, decide_eq_true_iff, compare?_eq hl hr]
  constructor
  · rintro (ordered | rfl)
    · exact (SortKey.compare_eq_iff ordered).1 rfl
    · rfl
  · intro same
    -- Only integers can differ in kind, and these are found equal by their order.
    obtain rfl | ⟨i, hi, hj⟩ := sortKey_eq_iff.1 same
    · exact .inr rfl
    · rw [sortKey_of_integer? hi, sortKey_of_integer? hj]
      exact .inl (congrArg some Std.ReflOrd.compare_self)

lemma isNull_of_integer? {v : Value} {i : Int} (h : integer? v = some i) : v.isNull = false := by
  cases v <;> first | rfl | cases h

lemma isNull_eq_of_sortKey_eq (h : sortKey l = sortKey r) : l.isNull = r.isNull := by
  obtain rfl | ⟨i, hi, hj⟩ := sortKey_eq_iff.1 h
  · rfl
  · rw [isNull_of_integer? hi, isNull_of_integer? hj]

/-- Two values have an order just if their kinds are of one class. -/
lemma isSome_compare?_iff (hl : l.isFloat = false) (hr : r.isFloat = false) :
    (compare? l r).isSome = true ↔
      ∃ c, l.kind.orderClass? = some c ∧ r.kind.orderClass? = some c := by
  rw [compare?_eq hl hr, SortKey.isSome_compare, orderClass?_sortKey hl, orderClass?_sortKey hr]

/-- What an order gives: nothing holds with a null, and else the order of the values decides. -/
lemma order_eq_ok_iff {op : Comparison} {v : Value} :
    order op l r = .ok v ↔
      (l.isNull || r.isNull) = true ∧ v = .bool false ∨
      (l.isNull || r.isNull) = false ∧
        ∃ o, compare? l r = some o ∧ v = .bool (Comparison.holds op o) := by
  unfold order
  cases l.isNull || r.isNull with
  | true => simp [eq_comm]
  | false => cases compare? l r <;> simp [eq_comm]

/-- Whether a comparison is one of the four orders. -/
def isOrder : Comparison → Bool
  | .eq | .ne => false
  | .lt | .le | .gt | .ge => true

/-- A comparison of two values gives a truth value. -/
def Gives (op : Comparison) (l r : Value) (b : Bool) : Prop :=
  binary (.comparison op) l r = .ok (.bool b)

/-- Values other than floating-point numbers; lists may hold some. -/
abbrev Exact := { v : Value // v.isFloat = false }

section
variable {op : Comparison} {b : Bool} {o : Ordering}

lemma gives_eq_iff : Gives .eq l r b ↔ equal l r = b := by
  simp [Gives, binary, comparison]

lemma gives_ne_iff : Gives .ne l r b ↔ (!equal l r) = b := by
  simp [Gives, binary, comparison]

lemma binary_of_isOrder (h : isOrder op = true) (l r : Value) :
    binary (.comparison op) l r = order op l r := by
  cases op <;> cases h <;> rfl

lemma gives_order_iff (h : isOrder op = true) :
    Gives op l r b ↔
      (l.isNull || r.isNull) = true ∧ b = false ∨
      (l.isNull || r.isNull) = false ∧ ∃ o, compare? l r = some o ∧ b = Comparison.holds op o := by
  rw [Gives, binary_of_isOrder h, order_eq_ok_iff]
  simp

end

section
variable {l l' r r' a b c : Exact} {op : Comparison} {o : Ordering}

/-- Every comparison of two values that have an order follows from this. -/
lemma gives_holds (present : (l.1.isNull || r.1.isNull) = false) (h : compare? l.1 r.1 = some o)
    (op : Comparison) : Gives op l.1 r.1 (Comparison.holds op o) := by
  have same : equal l.1 r.1 = (o == .eq) := by
    rw [Bool.eq_iff_iff, equal_iff l.2 r.2, beq_iff_eq]
    rw [compare?_eq l.2 r.2] at h
    exact (SortKey.compare_eq_iff h).symm
  cases op with
  | eq => exact gives_eq_iff.2 same
  | ne => exact gives_ne_iff.2 (congrArg Bool.not same)
  | lt | le | gt | ge => exact (gives_order_iff rfl).2 (.inr ⟨present, o, h, rfl⟩)

/-- The other way round, every comparison follows from the turned order. -/
lemma compare?_swap (h : compare? l.1 r.1 = some o) : compare? r.1 l.1 = some o.swap := by
  rw [compare?_eq l.2 r.2] at h
  rw [compare?_eq r.2 l.2, SortKey.compare_swap (sortKey l.1), h]
  rfl

lemma gives_eq_true_iff : Gives .eq l.1 r.1 true ↔ sortKey l.1 = sortKey r.1 := by
  rw [gives_eq_iff, equal_iff l.2 r.2]

lemma gives_eq_equivalence : Equivalence fun l r : Exact => Gives .eq l.1 r.1 true where
  refl _ := gives_eq_true_iff.2 rfl
  symm h := gives_eq_true_iff.2 (gives_eq_true_iff.1 h).symm
  trans h h' := gives_eq_true_iff.2 ((gives_eq_true_iff.1 h).trans (gives_eq_true_iff.1 h'))

/-- Where one value is less than another both have an order. -/
lemma compare?_of_gives_lt (h : Gives .lt l.1 r.1 true) :
    (l.1.isNull || r.1.isNull) = false ∧ compare? l.1 r.1 = some .lt := by
  obtain ⟨-, none⟩ | ⟨present, o, ordered, less⟩ := (gives_order_iff rfl).1 h
  · cases none
  · refine ⟨present, ?_⟩
    rw [ordered]
    cases o <;> cases less
    rfl

lemma gives_lt_trans (h : Gives .lt a.1 b.1 true) (h' : Gives .lt b.1 c.1 true) :
    Gives .lt a.1 c.1 true := by
  obtain ⟨present, h⟩ := compare?_of_gives_lt h
  obtain ⟨present', h'⟩ := compare?_of_gives_lt h'
  have less : compare? a.1 c.1 = some .lt := by
    rw [compare?_eq a.2 b.2] at h
    rw [compare?_eq b.2 c.2] at h'
    rw [compare?_eq a.2 c.2]
    exact SortKey.compare_trans h h'
  refine gives_holds ?_ less .lt
  rw [Bool.or_eq_false_iff] at present present' ⊢
  exact ⟨present.1, present'.2⟩

/-- Equal values are interchangeable in every comparison, also in one that fails. -/
lemma binary_congr (hl : Gives .eq l.1 l'.1 true) (hr : Gives .eq r.1 r'.1 true)
    (op : Comparison) (v : Value) :
    binary (.comparison op) l.1 r.1 = .ok v ↔ binary (.comparison op) l'.1 r'.1 = .ok v := by
  rw [gives_eq_true_iff] at hl hr
  have same : equal l.1 r.1 = equal l'.1 r'.1 := by
    rw [Bool.eq_iff_iff, equal_iff l.2 r.2, equal_iff l'.2 r'.2, hl, hr]
  have ordered : compare? l.1 r.1 = compare? l'.1 r'.1 := by
    rw [compare?_eq l.2 r.2, compare?_eq l'.2 r'.2, hl, hr]
  cases op with
  | eq | ne => simp only [binary, comparison, same]
  | lt | le | gt | ge =>
    rw [binary_of_isOrder rfl, binary_of_isOrder rfl, order_eq_ok_iff, order_eq_ok_iff, ordered,
      isNull_eq_of_sortKey_eq hl, isNull_eq_of_sortKey_eq hr]

/-- All comparisons of two values that have an order, in either direction. -/
lemma gives_of_ordered (present : (l.1.isNull || r.1.isNull) = false)
    (h : compare? l.1 r.1 = some o) :
    ∃ lt eq gt : Bool, [lt, eq, gt].count true = 1
      ∧ Gives .lt l.1 r.1 lt ∧ Gives .eq l.1 r.1 eq ∧ Gives .gt l.1 r.1 gt
      ∧ Gives .le l.1 r.1 (lt || eq) ∧ Gives .ge l.1 r.1 (gt || eq)
      ∧ Gives .lt r.1 l.1 gt ∧ Gives .eq r.1 l.1 eq ∧ Gives .gt r.1 l.1 lt
      ∧ Gives .le r.1 l.1 (gt || eq) ∧ Gives .ge r.1 l.1 (lt || eq) := by
  have given := gives_holds present h
  have turned := gives_holds (Bool.or_comm .. ▸ present) (compare?_swap h)
  refine ⟨o == .lt, o == .eq, o == .gt, ?_⟩
  cases o <;>
    exact ⟨rfl, given .lt, given .eq, given .gt, given .le, given .ge,
      turned .lt, turned .eq, turned .gt, turned .le, turned .ge⟩

/-- An order fails just on two values that are there and have no class in common. -/
lemma binary_eq_error_iff (h : isOrder op = true) {fault : EvaluationFault} :
    binary (.comparison op) l.1 r.1 = .error fault ↔
      fault = .incomparable l.1.kind r.1.kind ∧ l.1.isNull = false ∧ r.1.isNull = false
        ∧ ¬∃ c, l.1.kind.orderClass? = some c ∧ r.1.kind.orderClass? = some c := by
  rw [← isSome_compare?_iff l.2 r.2, binary_of_isOrder h]
  unfold order
  cases l.1.isNull with
  | true => simp
  | false =>
    cases r.1.isNull with
    | true => simp
    | false => cases compare? l.1 r.1 <;> simp [eq_comm]

end

/--
Comparisons of values that are known do not contradict each other, where none of them is a
floating-point number. To be equal is an equivalence, which holds of the same values and of integers
of one number, and to be unequal is its negation. Two values that are there and of which one can be
less than the other can be compared in every way and in both directions; one of less, equal and
greater holds, the two other orders follow from these, and the other direction turns them. To be
less is transitive, and equal values are interchangeable. An order fails just on two values that are
there and whose kinds are of no common class.
-/
theorem comparisons_coherent :
    (Equivalence fun l r : Exact => Gives .eq l.1 r.1 true)
    ∧ (∀ l r : Exact, ∃ same : Bool, Gives .eq l.1 r.1 same ∧ Gives .ne l.1 r.1 (!same)
      ∧ (same = true ↔ l.1 = r.1 ∨ ∃ i, integer? l.1 = some i ∧ integer? r.1 = some i))
    ∧ (∀ (l r : Exact) (v : Value), l.1.isNull = false → r.1.isNull = false →
      binary (.comparison .lt) l.1 r.1 = .ok v →
      ∃ lt eq gt : Bool, [lt, eq, gt].count true = 1
        ∧ Gives .lt l.1 r.1 lt ∧ Gives .eq l.1 r.1 eq ∧ Gives .gt l.1 r.1 gt
        ∧ Gives .le l.1 r.1 (lt || eq) ∧ Gives .ge l.1 r.1 (gt || eq)
        ∧ Gives .lt r.1 l.1 gt ∧ Gives .eq r.1 l.1 eq ∧ Gives .gt r.1 l.1 lt
        ∧ Gives .le r.1 l.1 (gt || eq) ∧ Gives .ge r.1 l.1 (lt || eq))
    ∧ (∀ a b c : Exact, Gives .lt a.1 b.1 true → Gives .lt b.1 c.1 true → Gives .lt a.1 c.1 true)
    ∧ (∀ l l' r r' : Exact, Gives .eq l.1 l'.1 true → Gives .eq r.1 r'.1 true →
      ∀ (op : Comparison) (v : Value),
        binary (.comparison op) l.1 r.1 = .ok v ↔ binary (.comparison op) l'.1 r'.1 = .ok v)
    ∧ ∀ (l r : Exact) (op : Comparison) (fault : EvaluationFault), isOrder op = true →
      (binary (.comparison op) l.1 r.1 = .error fault ↔
        fault = .incomparable l.1.kind r.1.kind ∧ l.1.isNull = false ∧ r.1.isNull = false
          ∧ ¬∃ c, l.1.kind.orderClass? = some c ∧ r.1.kind.orderClass? = some c) := by
  refine ⟨gives_eq_equivalence, fun l r => ⟨equal l.1 r.1, gives_eq_iff.2 rfl, gives_ne_iff.2 rfl,
    ?_⟩, fun l r v hl hr less => ?_, fun _ _ _ => gives_lt_trans, fun _ _ _ _ => binary_congr,
    fun _ _ _ _ h => binary_eq_error_iff h⟩
  · rw [equal_iff l.2 r.2, sortKey_eq_iff]
  · rw [binary_of_isOrder rfl, order_eq_ok_iff, hl, hr] at less
    obtain ⟨null, -⟩ | ⟨present, o, ordered, -⟩ := less
    · cases null
    · exact gives_of_ordered (by rw [hl, hr]; rfl) ordered

/-- Two, three of either width and four are in order; a number and a text have no order. -/
theorem comparisons_coherent_widths :
    let two : Exact := ⟨.int32 2, rfl⟩
    let narrow : Exact := ⟨.int32 3, rfl⟩
    let wide : Exact := ⟨.int64 3, rfl⟩
    let four : Exact := ⟨.int32 4, rfl⟩
    let text : Exact := ⟨.string "3", rfl⟩
    Gives .lt two.1 four.1 true
      ∧ (∃ lt eq gt : Bool, [lt, eq, gt].count true = 1
        ∧ Gives .lt two.1 wide.1 lt ∧ Gives .gt wide.1 two.1 lt)
      ∧ (Gives .ge wide.1 four.1 false ↔ Gives .ge narrow.1 four.1 false)
      ∧ binary (.comparison .le) narrow.1 text.1 = .error (.incomparable .int32 .string) := by
  intro two narrow wide four text
  obtain ⟨equality, -, verdicts, less, interchange, failing⟩ := comparisons_coherent
  have same : Gives .eq wide.1 narrow.1 true := rfl
  refine ⟨less two wide four rfl rfl, ?_, interchange _ _ _ _ same (equality.refl four) _ _, ?_⟩
  · obtain ⟨lt, eq, gt, one, given, -, -, -, -, -, -, turned, -⟩ :=
      verdicts two wide (.bool true) rfl rfl rfl
    exact ⟨lt, eq, gt, one, given, turned⟩
  · refine (failing narrow text .le _ rfl).2 ⟨rfl, rfl, rfl, ?_⟩
    rintro ⟨c, number, string⟩
    cases number
    cases string

end Evaluation

end RelMap
