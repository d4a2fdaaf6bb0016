import Mathlib.Tactic.Lemma
import RelMap.Text.Case

/-!
# Lowercase forms in context

What becomes of a character in lower case depends on its surroundings in one respect only: whether a
character with case is met before it, and whether one is met after it. A character that ends words
and has no case shuts off what lies behind it.
-/

namespace RelMap.Text

/-- The lowercase form of a character, given whether a character with case is met on either side. -/
def lowerIn (before after : Bool) (c : Char) : List Char :=
  if c = capitalSigma then [if before && !after then finalSigma else smallSigma] else lowerChar c

/-- Whether a character ends words and has no case. -/
def isBoundary (c : Char) : Bool := !isCaseIgnorable c && !isCased c

variable {c d : Char} {cs before before' : List Char}

lemma lowerAfter_cons :
    lowerAfter before (c :: cs) =
      lowerIn (meetsCased before) (meetsCased cs) c ++ lowerAfter (c :: before) cs := rfl

lemma meetsCased_cons :
    meetsCased (c :: cs) = if isCaseIgnorable c then meetsCased cs else isCased c := by
  unfold meetsCased
  rw [List.dropWhile_cons]
  cases isCaseIgnorable c <;> rfl

/-- Nothing is met beyond a boundary. -/
lemma meetsCased_boundary (h : isBoundary c = true) : meetsCased (c :: cs) = false := by
  simp only [isBoundary, Bool.and_eq_true, Bool.not_eq_true'] at h
  rw [meetsCased_cons, h.1, h.2]
  rfl

lemma meetsCased_cons_congr (h : meetsCased before = meetsCased before') :
    meetsCased (c :: before) = meetsCased (c :: before') := by
  rw [meetsCased_cons, meetsCased_cons, h]

/-- Of what comes before a text, only whether a character with case is met there matters. -/
lemma lowerAfter_congr (h : meetsCased before = meetsCased before') :
    lowerAfter before cs = lowerAfter before' cs := by
  induction cs generalizing before before' with
  | nil => rfl
  | cons c cs ih => rw [lowerAfter_cons, lowerAfter_cons, h, ih (meetsCased_cons_congr h)]

/-- All runs lead to characters above the capitals of ASCII and what follows them there. -/
lemma lowercaseRuns_above :
    ∀ r ∈ lowercaseRuns, 0x60 < (r.first : Int) + r.shift ∧
      ((r.last : Int) + r.shift < 0xd800 ∨
        0xdfff < (r.first : Int) + r.shift ∧ (r.last : Int) + r.shift < 0x110000) := by
  decide +kernel

/-- The lowercase form of a character is the character itself or lies above all those. -/
lemma mem_lowerChar (h : d ∈ lowerChar c) : d = c ∨ 0x60 < d.toNat := by
  unfold lowerChar mapCase at h
  split at h
  next r found =>
    obtain ⟨above, valid⟩ := lowercaseRuns_above r (List.mem_of_find?_eq_some found)
    have covers := List.find?_some (p := fun r : CaseRun => r.covers c.toNat) found
    simp only [CaseRun.covers, Bool.and_eq_true, decide_eq_true_eq] at covers
    have isChar : ((c.toNat : Int) + r.shift).toNat.isValidChar := by
      unfold Nat.isValidChar
      omega
    have code : d.toNat = ((c.toNat : Int) + r.shift).toNat := by
      rw [List.mem_singleton.1 h, Char.ofNat, dif_pos isChar]
      rfl
    omega
  next =>
    split at h
    next entry found =>
      have expansions : ∀ x ∈ lowercaseExpansions, ∀ n ∈ x.2, 0x60 < (Char.ofNat n).toNat := by
        decide
      obtain ⟨n, hn, rfl⟩ := List.mem_map.1 h
      exact .inr (expansions _ (List.mem_of_find?_eq_some found) n hn)
    next => exact .inl (List.mem_singleton.1 h)

end RelMap.Text
