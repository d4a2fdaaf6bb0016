import RelMap.Text.Part
import Mathlib.Tactic.Lemma

/-!
# Parts of texts and where texts are cut

A search for a part finds it wherever it stands. A text is cut at the first occurrence of a
separator. What stands before the separator is found again when it has no character that a separator
could begin with.
-/

namespace RelMap.Text

/-- A sequence is found exactly where it stands within another. -/
lemma containsChars_iff {cs part : List Char} : containsChars cs part = true ↔ part <:+: cs := by
  induction cs with
  | nil => rw [containsChars, List.isEmpty_iff, List.infix_nil]
  | cons c cs ih =>
    rw [containsChars, Bool.or_eq_true, List.isPrefixOf_iff_prefix, ih, List.infix_cons_iff]

/-- A text contains another exactly where its characters stand within those of the text. -/
lemma contains_iff {s part : String} : contains s part = true ↔ part.toList <:+: s.toList :=
  containsChars_iff

/-- A sequence is cut at a part whose first character does not stand before it. -/
lemma cutChars_append {c : Char} {part before after : List Char} (h : c ∉ before) :
    cutChars (c :: part) (before ++ (c :: part) ++ after) = some (before, after) := by
  induction before with
  | nil =>
    have found : (c :: part).isPrefixOf ((c :: part) ++ after) = true :=
      List.isPrefixOf_iff_prefix.2 (List.prefix_append ..)
    rw [List.nil_append, List.cons_append, cutChars, ← List.cons_append, if_pos found,
      List.drop_left]
  | cons b before ih =>
    rw [List.mem_cons, not_or] at h
    have apart : (c :: part).isPrefixOf (b :: (before ++ (c :: part) ++ after)) = false := by
      rw [List.isPrefixOf, beq_eq_false_iff_ne.2 h.1, Bool.false_and]
    rw [List.cons_append, List.cons_append, cutChars, apart, if_neg Bool.false_ne_true, ih h.2]
    rfl

/-- A text is cut at a separator whose first character does not stand before it. -/
lemma cut?_append {s separator t : String} {c : Char} {part : List Char}
    (hc : separator.toList = c :: part) (h : c ∉ s.toList) :
    cut? separator (s ++ separator ++ t) = some (s, t) := by
  rw [cut?, String.toList_append, String.toList_append, hc, cutChars_append h]
  simp

/-- The pieces between the occurrences of a character do not have it. -/
lemma notMem_of_mem_splitChars {mark : Char} {cs : List Char} :
    ∀ piece ∈ splitChars mark cs, mark ∉ piece := by
  induction cs with
  | nil =>
    intro piece h
    cases List.mem_singleton.1 h
    exact List.not_mem_nil
  | cons c cs ih =>
    intro piece h
    rw [splitChars] at h
    split at h
    next =>
      rcases List.mem_cons.1 h with rfl | h
      · exact List.not_mem_nil
      · exact ih piece h
    next apart =>
      cases pieces : splitChars mark cs with
      | nil =>
        rw [pieces] at h
        cases List.mem_singleton.1 h
        exact List.not_mem_cons_of_ne_of_not_mem (Ne.symm apart) List.not_mem_nil
      | cons first others =>
        rw [pieces] at h ih
        rcases List.mem_cons.1 h with rfl | h
        · exact List.not_mem_cons_of_ne_of_not_mem (Ne.symm apart)
            (ih first (List.mem_cons_self ..))
        · exact ih piece (List.mem_cons_of_mem _ h)

lemma notMem_of_mem_split {mark : Char} {s piece : String} (h : piece ∈ split mark s) :
    mark ∉ piece.toList := by
  obtain ⟨chars, hc, rfl⟩ := List.mem_map.1 h
  rw [String.toList_ofList]
  exact notMem_of_mem_splitChars chars hc

/-- What stands before the first occurrence of a character is the first piece. -/
lemma splitChars_append {mark : Char} {piece : List Char} (h : mark ∉ piece) (rest : List Char) :
    splitChars mark (piece ++ mark :: rest) = piece :: splitChars mark rest := by
  induction piece with
  | nil => rw [List.nil_append, splitChars, if_pos rfl]
  | cons c piece ih =>
    rw [List.mem_cons, not_or] at h
    rw [List.cons_append, splitChars, if_neg (Ne.symm h.1), ih h.2]

/-- A sequence without a character is the only piece. -/
lemma splitChars_of_notMem {mark : Char} {piece : List Char} (h : mark ∉ piece) :
    splitChars mark piece = [piece] := by
  induction piece with
  | nil => rfl
  | cons c piece ih =>
    rw [List.mem_cons, not_or] at h
    rw [splitChars, if_neg (Ne.symm h.1), ih h.2]

/-- Pieces that were joined with a character that none of them has are found again. -/
lemma split_joined {mark : Char} {s : String} {pieces : List String}
    (h : ∀ piece ∈ s :: pieces, mark ∉ piece.toList) :
    split mark (joined (String.singleton mark) (s :: pieces)) = s :: pieces := by
  induction pieces generalizing s with
  | nil =>
    rw [joined, split, splitChars_of_notMem (h s (List.mem_cons_self ..)), List.map_singleton,
      String.ofList_toList]
  | cons t pieces ih =>
    have rest := ih fun piece hp => h piece (List.mem_cons_of_mem _ hp)
    rw [split] at rest
    rw [joined, split, String.toList_append, String.toList_append, String.toList_singleton,
      List.append_assoc, List.singleton_append, splitChars_append (h s (List.mem_cons_self ..)),
      List.map_cons, rest, String.ofList_toList]

/-- There is always a piece, if only an empty one. -/
lemma splitChars_ne_nil (mark : Char) (cs : List Char) : splitChars mark cs ≠ [] := by
  cases cs with
  | nil => exact List.cons_ne_nil _ _
  | cons c cs =>
    rw [splitChars]
    split
    · exact List.cons_ne_nil _ _
    · split
      · exact List.cons_ne_nil _ _
      · exact List.cons_ne_nil _ _

lemma split_ne_nil (mark : Char) (s : String) : split mark s ≠ [] := fun none =>
  splitChars_ne_nil mark s.toList (List.map_eq_nil_iff.1 none)

/-- Pieces joined in two parts, with a separator between these. -/
lemma joined_append {separator : String} {pieces more : List String} (h : pieces ≠ [])
    (hmore : more ≠ []) :
    joined separator (pieces ++ more) =
      joined separator pieces ++ separator ++ joined separator more := by
  induction pieces with
  | nil => exact absurd rfl h
  | cons s pieces ih =>
    cases pieces with
    | nil =>
      obtain ⟨t, rest, rfl⟩ := List.exists_cons_of_ne_nil hmore
      rfl
    | cons t pieces =>
      have rest := ih (List.cons_ne_nil t pieces)
      rw [List.cons_append] at rest
      rw [List.cons_append, List.cons_append, joined, rest, joined]
      simp only [String.append_assoc]

/-- The first character of what is joined is that of the first piece. -/
lemma joined_ofList_cons (separator : String) (c : Char) (cs : List Char) (pieces : List String) :
    joined separator (String.ofList (c :: cs) :: pieces) =
      String.singleton c ++ joined separator (String.ofList cs :: pieces) := by
  have first : String.ofList (c :: cs) = String.singleton c ++ String.ofList cs := by
    rw [← String.toList_inj, String.toList_append, String.toList_ofList, String.toList_ofList,
      String.toList_singleton, List.singleton_append]
  cases pieces with
  | nil => exact first
  | cons t pieces =>
    rw [joined, joined, first]
    simp only [String.append_assoc]

lemma joined_splitChars (mark : Char) (cs : List Char) :
    joined (String.singleton mark) ((splitChars mark cs).map String.ofList) = String.ofList cs := by
  induction cs with
  | nil => rfl
  | cons c cs ih =>
    obtain ⟨piece, pieces, eq⟩ := List.exists_cons_of_ne_nil (splitChars_ne_nil mark cs)
    rw [eq, List.map_cons] at ih
    rw [← String.toList_inj, String.toList_ofList]
    by_cases same : c = mark
    · rw [splitChars, if_pos same, eq, List.map_cons, List.map_cons, joined, ih]
      simp [same]
    · rw [splitChars, if_neg same, eq]
      dsimp only
      rw [List.map_cons, joined_ofList_cons, ih, String.toList_append, String.toList_singleton,
        String.toList_ofList, List.singleton_append]

/-- A text that was cut is its pieces joined with the character that it was cut at. -/
lemma joined_split (mark : Char) (s : String) :
    joined (String.singleton mark) (split mark s) = s := by
  rw [split, joined_splitChars, String.ofList_toList]

end RelMap.Text
