import Mathlib.Tactic.Lemma
import RelMap.Code

/-!
# Reading codes back

A code is fed to a hash token by token, or byte by byte. Either way a token can be read back from
where it stands, whatever follows it, provided that one knows what kind of token to expect; and that
is always known from the tokens before it.
-/

namespace RelMap

section
variable {n : Nat} {v w : UInt64} {s t : List UInt8} {x y : List UInt8}

lemma length_bytesOfWord : (bytesOfWord n w).length = n := by
  induction n generalizing w with
  | zero => rfl
  | succ n ih => rw [bytesOfWord, List.length_cons, ih]

/-- The lowest bytes of a word determine it up to multiples of what they can hold. -/
lemma toNat_mod_eq_of_bytesOfWord_eq (h : bytesOfWord n v = bytesOfWord n w) :
    v.toNat % Nat.pow 256 n = w.toNat % Nat.pow 256 n := by
  induction n generalizing v w with
  | zero => exact (Nat.mod_one _).trans (Nat.mod_one _).symm
  | succ n ih =>
    obtain ⟨lowest, others⟩ := List.cons.inj h
    have split (u : UInt64) : u.toNat % (256 * Nat.pow 256 n)
        = u.toUInt8.toNat + 256 * ((u >>> 8).toNat % Nat.pow 256 n) := by
      rw [Nat.mod_mul, UInt64.toNat_toUInt8, UInt64.toNat_shiftRight, Nat.shiftRight_eq_div_pow]
      rfl
    change v.toNat % (Nat.pow 256 n * 256) = w.toNat % (Nat.pow 256 n * 256)
    rw [Nat.mul_comm, split, split, lowest, ih others]

lemma eq_of_bytesOfWord_four_eq {v w : UInt32}
    (h : bytesOfWord 4 v.toUInt64 = bytesOfWord 4 w.toUInt64) : v = w := by
  have equal := toNat_mod_eq_of_bytesOfWord_eq h
  rw [UInt32.toNat_toUInt64, UInt32.toNat_toUInt64, Nat.mod_eq_of_lt (UInt32.toNat_lt v),
    Nat.mod_eq_of_lt (UInt32.toNat_lt w)] at equal
  exact UInt32.toNat_inj.mp equal

lemma eq_of_bytesOfWord_eq (h : bytesOfWord 8 v = bytesOfWord 8 w) : v = w := by
  have equal := toNat_mod_eq_of_bytesOfWord_eq h
  rw [Nat.mod_eq_of_lt (UInt64.toNat_lt v), Nat.mod_eq_of_lt (UInt64.toNat_lt w)] at equal
  exact UInt64.toNat_inj.mp equal

/-- A number of one word is read back from its eight bytes. -/
lemma number_of_bytes {k l : Nat} (small : k < UInt64.size) (small' : l < UInt64.size)
    (h : bytesOfWord 8 (.ofNat k) ++ x = bytesOfWord 8 (.ofNat l) ++ y) : k = l ∧ x = y := by
  obtain ⟨bytes, rest⟩ := List.append_inj h (by rw [length_bytesOfWord, length_bytesOfWord])
  have equal := congrArg UInt64.toNat (eq_of_bytesOfWord_eq bytes)
  rw [UInt64.toNat_ofNat', UInt64.toNat_ofNat', Nat.mod_eq_of_lt small,
    Nat.mod_eq_of_lt small'] at equal
  exact ⟨equal, rest⟩

end

section
variable {c d : Char} {x y : List UInt8}

/-- A character is read back from its encoding. -/
lemma char_of_bytes (h : String.utf8EncodeChar c ++ x = String.utf8EncodeChar d ++ y) :
    c = d ∧ x = y := by
  have read {c : Char} {x : List UInt8} :
      ((String.utf8EncodeChar c ++ x).toByteArray).utf8DecodeChar? 0 = some c := by
    rw [List.toByteArray_append]
    exact ByteArray.utf8DecodeChar?_utf8EncodeChar_append
  have first := read (c := c) (x := x)
  rw [h, read] at first
  obtain rfl := Option.some.inj first
  exact ⟨rfl, List.append_cancel_left h⟩

/-- No encoding begins with the byte that ends a text. -/
lemma char_bytes_ne_stop : String.utf8EncodeChar c ++ x ≠ 0xff :: y := by
  intro h
  obtain ⟨first, others, split⟩ := List.exists_cons_of_ne_nil (String.utf8EncodeChar_ne_nil (c := c))
  have begins := UInt8.isUTF8FirstByte_getElem_zero_utf8EncodeChar (c := c)
  simp only [split, List.getElem_cons_zero] at begins
  rw [split] at h
  obtain rfl : first = 0xff := (List.cons.inj h).1
  exact absurd begins (by decide)

end

section
variable {β : Type} {write : Token → List β} {fits : Nat → Prop} {x y : List β}

/--
A way of writing tokens in which what stands for one can be told from what stands for another of its
kind, whatever follows: for all tags there are, and for the counts that fit.
-/
structure Legible (write : Token → List β) (fits : Nat → Prop) : Prop where
  tag : ∀ {m n : Nat} {x y : List β}, m < 16 → n < 16 →
    write (.tag m) ++ x = write (.tag n) ++ y → m = n ∧ x = y
  count : ∀ {m n : Nat} {x y : List β}, fits m → fits n →
    write (.count m) ++ x = write (.count n) ++ y → m = n ∧ x = y
  flag : ∀ {b c : Bool} {x y : List β}, write (.flag b) ++ x = write (.flag c) ++ y → b = c ∧ x = y
  byte : ∀ {b c : UInt8} {x y : List β}, write (.byte b) ++ x = write (.byte c) ++ y → b = c ∧ x = y
  half : ∀ {v w : UInt32} {x y : List β},
    write (.half v) ++ x = write (.half w) ++ y → v = w ∧ x = y
  word : ∀ {v w : UInt64} {x y : List β},
    write (.word v) ++ x = write (.word w) ++ y → v = w ∧ x = y
  char : ∀ {c d : Char} {x y : List β}, write (.char c) ++ x = write (.char d) ++ y → c = d ∧ x = y
  char_ne_stop : ∀ {c : Char} {x y : List β}, write (.char c) ++ x ≠ write .stop ++ y

theorem Legible.tokens : Legible (fun t => [t]) fun _ => True := by
  constructor <;> simp

/-- The bytes of tokens can be told apart, as long as counts fit into one word. -/
theorem Legible.bytes : Legible Token.bytes (· < UInt64.size) where
  tag hm hn := number_of_bytes (Nat.lt_trans hm (by decide)) (Nat.lt_trans hn (by decide))
  count hm hn := number_of_bytes hm hn
  flag {b c} _ _ h := by cases b <;> cases c <;> simp_all [Token.bytes]
  byte h := List.cons.inj h
  half h := by
    obtain ⟨bytes, rest⟩ := List.append_inj h (by rw [Token.bytes, Token.bytes,
      length_bytesOfWord, length_bytesOfWord])
    exact ⟨eq_of_bytesOfWord_four_eq bytes, rest⟩
  word h := by
    obtain ⟨bytes, rest⟩ := List.append_inj h (by rw [Token.bytes, Token.bytes,
      length_bytesOfWord, length_bytesOfWord])
    exact ⟨eq_of_bytesOfWord_eq bytes, rest⟩
  char := char_of_bytes
  char_ne_stop := char_bytes_ne_stop

theorem Legible.ofString (legible : Legible write fits) {s t : String}
    (h : (Code.ofString s).flatMap write ++ x = (Code.ofString t).flatMap write ++ y) :
    s = t ∧ x = y := by
  suffices read : ∀ cs ds : List Char,
      (cs.map Token.char ++ [Token.stop]).flatMap write ++ x
        = (ds.map Token.char ++ [Token.stop]).flatMap write ++ y → cs = ds ∧ x = y by
    obtain ⟨chars, rest⟩ := read _ _ h
    exact ⟨String.toList_inj.mp chars, rest⟩
  intro cs
  induction cs with
  | nil =>
    rintro (_ | ⟨d, ds⟩) h <;> simp only [List.map_nil, List.map_cons, List.nil_append,
      List.cons_append, List.flatMap_cons, List.flatMap_nil, List.append_nil, List.append_assoc] at h
    · exact ⟨rfl, List.append_cancel_left h⟩
    · exact absurd h.symm legible.char_ne_stop
  | cons c cs ih =>
    rintro (_ | ⟨d, ds⟩) h <;> simp only [List.map_nil, List.map_cons, List.nil_append,
      List.cons_append, List.flatMap_cons, List.flatMap_nil, List.append_nil, List.append_assoc] at h
    · exact absurd h legible.char_ne_stop
    · obtain ⟨rfl, others⟩ := legible.char h
      obtain ⟨rfl, rest⟩ := ih ds others
      exact ⟨rfl, rest⟩

/-- As many bytes as are known to be there are read back. -/
lemma Legible.ofLength (legible : Legible write fits) {s t : List UInt8}
    (length : s.length = t.length)
    (h : (s.map Token.byte).flatMap write ++ x = (t.map Token.byte).flatMap write ++ y) :
    s = t ∧ x = y := by
  induction s generalizing t with
  | nil =>
    cases t with
    | nil => exact ⟨rfl, h⟩
    | cons c t => cases length
  | cons b s ih =>
    cases t with
    | nil => cases length
    | cons c t =>
      simp only [List.map_cons, List.flatMap_cons, List.append_assoc] at h
      obtain ⟨rfl, others⟩ := legible.byte h
      obtain ⟨rfl, rest⟩ := ih (Nat.succ.inj length) others
      exact ⟨rfl, rest⟩

/-- Bytes are read back behind their number, which tells how many there are. -/
theorem Legible.ofBytes (legible : Legible write fits) {s t : List UInt8} (short : fits s.length)
    (short' : fits t.length)
    (h : (Code.ofBytes s).flatMap write ++ x = (Code.ofBytes t).flatMap write ++ y) :
    s = t ∧ x = y := by
  simp only [Code.ofBytes, List.flatMap_cons, List.append_assoc] at h
  obtain ⟨length, h⟩ := legible.count short short' h
  exact legible.ofLength length h

end

lemma Kind.number_lt (k : Kind) : k.number < 16 := by
  cases k <;> decide

lemma Kind.number_inj {k l : Kind} (h : k.number = l.number) : k = l := by
  cases k <;> cases l <;> first | rfl | cases h

end RelMap
