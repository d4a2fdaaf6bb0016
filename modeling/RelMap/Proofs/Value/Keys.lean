import RelMap.Graph.IdentityCache
import RelMap.Proofs.Code

/-!
# Values as keys

The test for equality of values takes two of them for one just if they are the same in all their
parts, and what is hashed for them tells as much: it is the same for equal values only, and never
goes on where that of another value ends. So values in a list, and lists of values as keys, cannot
run into each other.
-/

namespace RelMap

/--
What is written for two items tells whether they are equal: the same is written just if they are,
and neither text is a proper beginning of the other.
-/
structure Tells {β : Type} (equal : Prop) (s t : List β) : Prop where
  same_iff : equal ↔ s = t
  eq_of_prefix : s <+: t → s = t

/-- Items that can be read back from their codes, whatever follows and however these are written. -/
def Readable {α : Type} (code : α → Code) (lengths : α → List Nat) : Prop :=
  ∀ {β : Type} {write : Token → List β} {fits : Nat → Prop}, Legible write fits →
    ∀ {a b : α} {x y : List β}, (∀ n ∈ lengths a, fits n) → (∀ n ∈ lengths b, fits n) →
      (code a).flatMap write ++ x = (code b).flatMap write ++ y → a = b ∧ x = y

namespace Readable

variable {α β : Type} {code : α → Code} {lengths : α → List Nat} {write : Token → List β}
  {fits : Nat → Prop} {a b : α}

/-- Lists of tokens that are written legibly tell values apart if their codes can be read. -/
lemma tells_written (readable : Readable code lengths) (legible : Legible write fits)
    (short : ∀ n ∈ lengths a, fits n) (short' : ∀ n ∈ lengths b, fits n) :
    Tells (a = b) ((code a).flatMap write) ((code b).flatMap write) := by
  have eq_of_prefix (h : (code a).flatMap write <+: (code b).flatMap write) : a = b := by
    obtain ⟨rest, h⟩ := h
    rw [← List.append_nil ((code b).flatMap write)] at h
    exact (readable legible short short' h).1
  exact
    { same_iff := ⟨fun h => h ▸ rfl, fun h => eq_of_prefix (h ▸ List.prefix_refl _)⟩
      eq_of_prefix := fun h => eq_of_prefix h ▸ rfl }

/-- The tokens of a code tell values apart. -/
lemma tells_code (readable : Readable code lengths) (a b : α) :
    Tells (a = b) (code a) (code b) := by
  have written := readable.tells_written (a := a) (b := b) .tokens (fun _ _ => trivial)
    fun _ _ => trivial
  rwa [List.flatMap_singleton', List.flatMap_singleton'] at written

/-- The bytes of a code tell values apart whose lengths fit a machine word. -/
lemma tells_bytes (readable : Readable code lengths) (short : ∀ n ∈ lengths a, n < UInt64.size)
    (short' : ∀ n ∈ lengths b, n < UInt64.size) :
    Tells (a = b) (code a).bytes (code b).bytes :=
  readable.tells_written .bytes short short'

end Readable

namespace Value

/-- Values that are equal as keys are the same values. -/
lemma beq_true_iff {a b : Value} : beq a b = true ↔ a = b :=
  ⟨eq_of_beq, fun h => h ▸ beq_self a⟩

/-- Lists of values that are equal as keys are the same lists. -/
lemma beqList_true_iff {as bs : List Value} : beqList as bs = true ↔ as = bs :=
  ⟨eq_of_beqList, fun h => h ▸ beqList_self as⟩

/-- The bit pattern of a floating-point number. -/
def pattern? : Value → Option Nat
  | .float32 x => some x.bits.toNat
  | .float64 x => some x.bits.toNat
  | _ => none

mutual

/-- The lengths of all byte strings and lists in a value. -/
def lengths : Value → List Nat
  | .bytes content => [content.length]
  | .uuid content => [content.toList.length]
  | .list items => items.length :: lengthsOfAll items
  | _ => []

/-- The lengths of all byte strings and lists in several values. -/
def lengthsOfAll : List Value → List Nat
  | [] => []
  | v :: vs => lengths v ++ lengthsOfAll vs

end

/-- Whether one word can count whatever has a length in a value. -/
def Countable (v : Value) : Prop := ∀ n ∈ v.lengths, n < UInt64.size

instance (v : Value) : Decidable v.Countable :=
  inferInstanceAs (Decidable (∀ n ∈ v.lengths, n < UInt64.size))

/-- What follows the kind in the code of a value. -/
def content : Value → Code
  | .null => []
  | .bool b => [.flag b]
  | .int32 i => [.half i.toUInt32]
  | .int64 i => [.word i.toUInt64]
  | .float32 x => [.half x.bits]
  | .float64 x => [.word x.bits]
  | .string s => Code.ofString s
  | .bytes content => Code.ofBytes content
  | .timestamp t => [.word t.toUInt64]
  | .uuid content => Code.ofBytes content.toList
  | .list items => .count items.length :: codeList items

/-- The code of a value begins with its kind. -/
lemma code_eq (v : Value) : v.code = .tag v.kind.number :: v.content := by
  cases v <;> rfl

section
variable {β : Type} {write : Token → List β} {fits : Nat → Prop}

mutual

/--
A value is read back from its code, whatever follows. The tag tells the kind, and the kind what
stands behind it; a list tells how many items there are, so two lists are split at the same places.
-/
theorem eq_of_legible (legible : Legible write fits) {a b : Value} {x y : List β}
    (short : ∀ n ∈ a.lengths, fits n) (short' : ∀ n ∈ b.lengths, fits n)
    (h : a.code.flatMap write ++ x = b.code.flatMap write ++ y) : a = b ∧ x = y := by
  rw [code_eq, code_eq, List.flatMap_cons, List.flatMap_cons, List.append_assoc,
    List.append_assoc] at h
  obtain ⟨number, h⟩ := legible.tag (Kind.number_lt _) (Kind.number_lt _) h
  have kind := Kind.number_inj number
  -- The tags leave pairs of one kind only.
  cases a <;> cases b <;> try cases kind
  all_goals simp only [content, List.flatMap_cons, List.flatMap_nil, List.append_nil,
    List.nil_append, List.append_assoc] at h
  all_goals simp only [lengths, List.forall_mem_cons] at short short'
  case null.null => exact ⟨rfl, h⟩
  case bool.bool =>
    obtain ⟨rfl, rest⟩ := legible.flag h
    exact ⟨rfl, rest⟩
  case int32.int32 =>
    obtain ⟨bits, rest⟩ := legible.half h
    exact ⟨congrArg (fun bits => int32 ⟨bits⟩) bits, rest⟩
  case int64.int64 =>
    obtain ⟨bits, rest⟩ := legible.word h
    exact ⟨congrArg (fun bits => int64 ⟨bits⟩) bits, rest⟩
  case float32.float32 =>
    obtain ⟨bits, rest⟩ := legible.half h
    exact ⟨congrArg (fun bits => float32 ⟨bits⟩) bits, rest⟩
  case float64.float64 =>
    obtain ⟨bits, rest⟩ := legible.word h
    exact ⟨congrArg (fun bits => float64 ⟨bits⟩) bits, rest⟩
  case string.string =>
    obtain ⟨rfl, rest⟩ := legible.ofString h
    exact ⟨rfl, rest⟩
  case bytes.bytes =>
    obtain ⟨rfl, rest⟩ := legible.ofBytes short.1 short'.1 h
    exact ⟨rfl, rest⟩
  case timestamp.timestamp =>
    obtain ⟨bits, rest⟩ := legible.word h
    exact ⟨congrArg (fun bits => timestamp ⟨bits⟩) bits, rest⟩
  case uuid.uuid =>
    obtain ⟨bytes, rest⟩ := legible.ofBytes short.1 short'.1 h
    exact ⟨congrArg _ (Vector.toList_inj.mp bytes), rest⟩
  case list.list =>
    obtain ⟨length, h⟩ := legible.count short.1 short'.1 h
    obtain ⟨rfl, rest⟩ := eq_of_legible_list legible short.2 short'.2 length h
    exact ⟨rfl, rest⟩

/-- The same for lists of one length. -/
theorem eq_of_legible_list (legible : Legible write fits) {as bs : List Value} {x y : List β}
    (short : ∀ n ∈ lengthsOfAll as, fits n) (short' : ∀ n ∈ lengthsOfAll bs, fits n)
    (length : as.length = bs.length)
    (h : (codeList as).flatMap write ++ x = (codeList bs).flatMap write ++ y) :
    as = bs ∧ x = y := by
  cases as <;> cases bs
  case nil.nil => exact ⟨rfl, h⟩
  case nil.cons => cases length
  case cons.nil => cases length
  case cons.cons =>
    simp only [lengthsOfAll, List.forall_mem_append] at short short'
    simp only [codeList, List.flatMap_append, List.append_assoc] at h
    obtain ⟨rfl, others⟩ := eq_of_legible legible short.1 short'.1 h
    obtain ⟨rfl, rest⟩ := eq_of_legible_list legible short.2 short'.2 (Nat.succ.inj length) others
    exact ⟨rfl, rest⟩

end

end

/-- The code of a value can be read back. -/
lemma readable : Readable code lengths := eq_of_legible

end Value

/-- The code of several values: how many there are, and the code of each. -/
def Code.ofValues (values : List Value) : Code := .count values.length :: Value.codeList values

/-- The code of a key: its type, and its values. -/
def IdentityKey.code (k : IdentityKey) : Code := Code.ofString k.entity ++ Code.ofValues k.key

/-- The code of a list of values can be read back, as it begins with the length. -/
lemma Code.readable_ofValues :
    Readable ofValues fun values => (Value.list values).lengths := by
  intro β write fits legible as bs x y short short' h
  simp only [Value.lengths, List.forall_mem_cons] at short short'
  rw [ofValues, ofValues, List.flatMap_cons, List.flatMap_cons, List.append_assoc,
    List.append_assoc] at h
  obtain ⟨length, values⟩ := legible.count short.1 short'.1 h
  exact Value.eq_of_legible_list legible short.2 short'.2 length values

/-- The code of an identity can be read back. -/
lemma IdentityKey.readable : Readable code fun k => (Value.list k.key).lengths := by
  rintro β write fits legible ⟨type, key⟩ ⟨type', key'⟩ x y short short' h
  rw [code, code, List.flatMap_append, List.flatMap_append, List.append_assoc,
    List.append_assoc] at h
  obtain ⟨rfl, values⟩ := legible.ofString h
  obtain ⟨rfl, rest⟩ := Code.readable_ofValues legible short short' values
  exact ⟨rfl, rest⟩

namespace Value

/-- Being equal as keys is an equivalence. -/
lemma beq_equivalence : Equivalence fun a b : Value => beq a b = true where
  refl := beq_self
  symm h := beq_true_iff.2 (beq_true_iff.1 h).symm
  trans h g := beq_true_iff.2 ((beq_true_iff.1 h).trans (beq_true_iff.1 g))

/-- A floating-point number is equal to what has its kind and its bit pattern. -/
lemma beq_iff_pattern {a b : Value} (float : a.pattern?.isSome = true) :
    beq a b = true ↔ a.kind = b.kind ∧ a.pattern? = b.pattern? := by
  rw [beq_true_iff]
  refine ⟨fun h => h ▸ ⟨rfl, rfl⟩, fun ⟨kind, pattern⟩ => ?_⟩
  cases a <;> cases float <;> cases b <;> cases kind
  case float32.refl.float32.refl x y =>
    exact congrArg (fun bits => float32 ⟨bits⟩) (UInt32.toNat_inj.mp (Option.some.inj pattern))
  case float64.refl.float64.refl x y =>
    exact congrArg (fun bits => float64 ⟨bits⟩) (UInt64.toNat_inj.mp (Option.some.inj pattern))

/--
Values are fit for keys of a map. Their test for equality is an equivalence, and two values, two
lists of values or two keys of instances pass it if and only if the same is hashed for them, as
tokens and as bytes, where neither is ever a proper part of the other from its beginning on. So
equal keys have one hash. A floating-point number is equal to just what has its kind and its bits.
Bytes have eight places for a length, which is enough for all that a machine can hold.
-/
theorem beq_iff_hashed_alike :
    (Equivalence fun a b : Value => beq a b = true)
    ∧ (∀ a b : Value, Tells (beq a b = true) a.code b.code
      ∧ (a.Countable → b.Countable → Tells (beq a b = true) a.code.bytes b.code.bytes))
    ∧ (∀ as bs : List Value, Tells (beqList as bs = true) (Code.ofValues as) (Code.ofValues bs)
      ∧ ((Value.list as).Countable → (Value.list bs).Countable →
        Tells (beqList as bs = true) (Code.ofValues as).bytes (Code.ofValues bs).bytes)
      ∧ (beqList as bs = true → (Code.ofValues as).hash = (Code.ofValues bs).hash))
    ∧ (∀ k l : IdentityKey,
      ((k == l) = true ↔ k.entity = l.entity ∧ beqList k.key l.key = true)
      ∧ Tells ((k == l) = true) k.code l.code
      ∧ ((Value.list k.key).Countable → (Value.list l.key).Countable →
        Tells ((k == l) = true) k.code.bytes l.code.bytes)
      ∧ ((k == l) = true → k.code.hash = l.code.hash))
    ∧ ∀ a b : Value, a.pattern?.isSome = true →
      (beq a b = true ↔ a.kind = b.kind ∧ a.pattern? = b.pattern?) := by
  refine ⟨beq_equivalence, fun a b => ?_, fun as bs => ?_, fun k l => ?_,
    fun a b => beq_iff_pattern⟩
  · rw [beq_true_iff]
    exact ⟨readable.tells_code a b, readable.tells_bytes⟩
  · rw [beqList_true_iff]
    exact ⟨Code.readable_ofValues.tells_code as bs, Code.readable_ofValues.tells_bytes,
      fun h => h ▸ rfl⟩
  · rw [beqList_true_iff, beq_iff_eq]
    refine ⟨?_, IdentityKey.readable.tells_code k l, IdentityKey.readable.tells_bytes,
      fun h => h ▸ rfl⟩
    cases k
    cases l
    exact iff_of_eq (IdentityKey.mk.injEq ..)

/--
Where a list ends shows in the bytes. A zero is equal neither to the negative one nor to that of
another width; but what is no number is equal to itself.
-/
theorem beq_iff_hashed_alike_nested :
    let inner : Value := .list [.list [.null], .bool true]
    let outer : Value := .list [.list [.null, .bool true]]
    let zero : Value := .float64 ⟨0⟩
    let negative : Value := .float64 ⟨0x8000000000000000⟩
    let nan : Value := .float32 ⟨0x7fc00000⟩
    ¬inner.code.bytes <+: outer.code.bytes
      ∧ beq zero negative = false
      ∧ beq zero (.float32 ⟨0⟩) = false
      ∧ (Code.ofValues [.float32 (.ofPattern BinaryFormat.single.nanBits), inner]).hash
        = (Code.ofValues [nan, inner]).hash := by
  intro inner outer zero negative nan
  obtain ⟨-, values, lists, -, floats⟩ := beq_iff_hashed_alike
  have apart := (values inner outer).2 (by decide) (by decide)
  refine ⟨fun h => ?_, ?_, ?_, (lists _ _).2.2 ?_⟩
  · exact absurd (apart.same_iff.2 (apart.eq_of_prefix h)) (by decide)
  · exact Bool.eq_false_iff.2 fun h => absurd ((floats zero negative rfl).1 h).2 (by decide)
  · exact Bool.eq_false_iff.2 fun h => absurd ((floats zero (.float32 ⟨0⟩) rfl).1 h).1 (by decide)
  · rfl

end Value

end RelMap
