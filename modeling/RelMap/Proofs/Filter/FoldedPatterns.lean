import RelMap.Proofs.Filter.Patterns
import RelMap.Proofs.Text.Case

/-!
# Patterns in lower case

Where case does not count, the finished pattern is put in lower case, wildcards and escapes
included. What becomes of a character then depends on what stands around it, and escapes and
wildcards are put just there. They are boundaries of words without case, though, and so are the
characters that they escape: nothing is met beyond them that was not met before, and no character
becomes one of them. So the pattern is the one for the argument in lower case.
-/

namespace RelMap

namespace Pattern

open Text (lowerAfter lowerIn lowercase meetsCased)

/-- What stands in a pattern beside the characters that mean themselves. -/
inductive Sign where
  | anyText
  | anyChar
  | escaped (c : Char)
  deriving DecidableEq

/-- The wildcards and the escaped characters of a pattern, in order. -/
def signs : List Char → List Sign
  | [] => []
  | c :: p =>
    if c = escapeMark then
      match p with
      | [] => []
      | d :: p => .escaped d :: signs p
    else if c = Pattern.anyText then .anyText :: signs p
    else if c = Pattern.anyChar then .anyChar :: signs p
    else signs p

variable {c d : Char} {cs before after : List Char}

lemma isSpecial_iff : isSpecial c = true ↔ c = escapeMark ∨ c = anyText ∨ c = anyChar := by
  simp only [isSpecial, Bool.or_eq_true, beq_iff_eq, or_assoc]

/-- What means something in a pattern has no case and ends words. -/
lemma meetsCased_special (special : isSpecial c = true) : meetsCased (c :: cs) = false := by
  refine Text.meetsCased_boundary ?_
  obtain rfl | rfl | rfl := isSpecial_iff.1 special <;> decide +kernel

/-- What means something in a pattern stays as it is in lower case. -/
lemma lowerIn_special (special : isSpecial c = true) (b a : Bool) : lowerIn b a c = [c] := by
  have self : Text.lowerChar c = [c] := by
    obtain rfl | rfl | rfl := isSpecial_iff.1 special <;> decide +kernel
  have other : c ≠ Text.capitalSigma := by
    rintro rfl
    exact absurd special (by decide)
  rw [lowerIn, if_neg other, self]

/-- Nothing in lower case means something in a pattern unless it did before. -/
lemma isSpecial_of_mem_lowerIn {b a : Bool} (plain : isSpecial c = false) (h : d ∈ lowerIn b a c) :
    isSpecial d = false := by
  unfold lowerIn at h
  split at h
  · rw [List.mem_singleton.1 h]
    split <;> rfl
  · obtain rfl | above := Text.mem_lowerChar h
    · exact plain
    · rw [← Bool.not_eq_true, isSpecial_iff]
      rintro (rfl | rfl | rfl) <;> exact absurd above (by decide)

lemma escapeChars_append : escapeChars (cs ++ after) = escapeChars cs ++ escapeChars after := by
  induction cs with
  | nil => rfl
  | cons c cs ih =>
    rw [List.cons_append, escapeChars, escapeChars, ih]
    split <;> rfl

/-- Where nothing means anything in a pattern, nothing is escaped. -/
lemma escapeChars_of_plain (plain : ∀ c ∈ cs, isSpecial c = false) : escapeChars cs = cs := by
  induction cs with
  | nil => rfl
  | cons c cs ih =>
    rw [List.forall_mem_cons] at plain
    rw [escapeChars, plain.1, ih plain.2]
    rfl

/-- Escaping does not change whether a character with case is met. -/
lemma meetsCased_escapeChars (shut : meetsCased after = false) :
    meetsCased (escapeChars cs ++ after) = meetsCased cs := by
  induction cs with
  | nil => exact shut
  | cons c cs ih =>
    rw [escapeChars]
    split
    next special =>
      -- The escape itself is met first, and it is as good a boundary as what it escapes.
      rw [meetsCased_special special]
      exact meetsCased_special rfl
    next => rw [List.cons_append, Text.meetsCased_cons, Text.meetsCased_cons, ih]

/-- An escaped text in lower case is the escaped lowercase text, before an end that stays so. -/
lemma lowerAfter_escapeChars (shut : meetsCased after = false)
    (same : ∀ before, lowerAfter before after = after) :
    lowerAfter before (escapeChars cs ++ after) = escapeChars (lowerAfter before cs) ++ after := by
  induction cs generalizing before with
  | nil => exact same before
  | cons c cs ih =>
    have first : lowerAfter before (c :: cs) =
        lowerIn (meetsCased before) (meetsCased cs) c ++ lowerAfter (c :: before) cs :=
      Text.lowerAfter_cons
    rw [first, escapeChars_append]
    cases special : isSpecial c with
    | true =>
      have behind : meetsCased (c :: escapeMark :: before) = meetsCased (c :: before) := by
        rw [meetsCased_special special, meetsCased_special special]
      rw [escapeChars, if_pos special, lowerIn_special special, List.cons_append, List.cons_append,
        Text.lowerAfter_cons, Text.lowerAfter_cons, lowerIn_special special, lowerIn_special rfl,
        Text.lowerAfter_congr behind, ih, escapeChars, if_pos special]
      rfl
    | false =>
      rw [escapeChars, special, if_neg Bool.false_ne_true, List.cons_append, Text.lowerAfter_cons,
        meetsCased_escapeChars shut, ih,
        escapeChars_of_plain fun d hd => isSpecial_of_mem_lowerIn special hd, List.append_assoc]

/-- A wildcard that comes first leaves the lowercase form of the text after it as it is. -/
lemma lowerAfter_anyText : lowerAfter before (anyText :: cs) = anyText :: lowerAfter [] cs := by
  have behind : meetsCased (anyText :: before) = meetsCased [] := meetsCased_special rfl
  rw [Text.lowerAfter_cons, lowerIn_special rfl, Text.lowerAfter_congr behind]
  rfl

/-- The pattern of a method in lower case is the pattern for the text in lower case. -/
lemma lowercase_ofMethod (method : Method) (s : String) :
    lowercase (ofMethod method s) = ofMethod method (lowercase s) := by
  have free (cs : List Char) :
      lowerAfter [] (escapeChars cs ++ [anyText]) = escapeChars (lowerAfter [] cs) ++ [anyText] :=
    lowerAfter_escapeChars (meetsCased_special rfl) fun _ => lowerAfter_anyText
  have closed (cs : List Char) :
      lowerAfter [] (escapeChars cs ++ []) = escapeChars (lowerAfter [] cs) ++ [] :=
    lowerAfter_escapeChars rfl fun _ => rfl
  rw [← String.toList_inj, lowercase, String.toList_ofList, toList_ofMethod, toList_ofMethod,
    lowercase, String.toList_ofList, Text.lowerChars, Text.lowerChars]
  cases method with
  | startsWith => exact free s.toList
  | endsWith => rw [lowerAfter_anyText, closed]
  | _ => rw [lowerAfter_anyText, free]

/-- A text in lower case holds the same of what means something in a pattern. -/
lemma filter_isSpecial_lowerAfter :
    (lowerAfter before cs).filter isSpecial = cs.filter isSpecial := by
  induction cs generalizing before with
  | nil => rfl
  | cons c cs ih =>
    rw [Text.lowerAfter_cons, List.filter_append, ih, List.filter_cons]
    cases special : isSpecial c with
    | true => rw [lowerIn_special special, List.filter_singleton, special]; rfl
    | false =>
      rw [List.filter_eq_nil_iff.2 fun d hd => by rw [isSpecial_of_mem_lowerIn special hd]; decide]
      rfl

/-- The signs of an escaped text are its escaped characters. -/
lemma signs_escapeChars_append :
    signs (escapeChars cs ++ after) = (cs.filter isSpecial).map .escaped ++ signs after := by
  induction cs with
  | nil => rfl
  | cons c cs ih =>
    rw [escapeChars, List.filter_cons]
    cases special : isSpecial c with
    | true =>
      simp only [if_true, List.cons_append, List.map_cons, ← ih]
      rw [signs.eq_def]
      rfl
    | false =>
      have plain : ¬ (c = escapeMark ∨ c = anyText ∨ c = anyChar) := by
        rw [← isSpecial_iff, special]
        exact Bool.false_ne_true
      push Not at plain
      simp only [Bool.false_eq_true, if_false, List.cons_append, ← ih]
      rw [signs.eq_def]
      simp only [if_neg plain.1, if_neg plain.2.1, if_neg plain.2.2]

/-- Patterns of one method have the same signs if what they look for holds the same of them. -/
lemma signs_ofMethod_congr (method : Method) {s t : String}
    (same : s.toList.filter isSpecial = t.toList.filter isSpecial) :
    signs (ofMethod method s).toList = signs (ofMethod method t).toList := by
  have cons (p : List Char) : signs (anyText :: p) = .anyText :: signs p := by
    rw [signs.eq_def]
    rfl
  rw [toList_ofMethod, toList_ofMethod]
  cases method <;> simp only [cons, signs_escapeChars_append, same]

end Pattern

open Evaluation (EvaluatorCache value)

/--
Folding case does not disturb escaping. The finished pattern in lower case is the pattern built from
the argument in lower case: it has the wildcards and the escaped characters that it had before, and
matches exactly the texts that contain, start with or end with the argument in lower case. This is
what is bound for a test of a string where case does not count, after what its target binds.
-/
theorem FilterTarget.folded_pattern (t : FilterTarget) {hash : Expr → UInt64}
    {cache : EvaluatorCache} (reachable : cache.Reachable hash) {method : Method}
    (tests : method ∈ [Method.contains, .startsWith, .endsWith]) (part : String) :
    let s := t.setting (EvaluatorCache.evaluate hash)
    let before := (Pattern.wildcards method).1
    let after := (Pattern.wildcards method).2
    let pattern := before ++ Pattern.escape part ++ after
    let folded := Text.lowercase pattern
    folded = before ++ Pattern.escape (Text.lowercase part) ++ after ∧
    Pattern.signs folded.toList = Pattern.signs pattern.toList ∧
    (∀ text : String, Pattern.Matches folded.toList text.toList ↔
      Pattern.Occurs method (Text.lowercase part).toList text.toList) ∧
    ∀ target arg, s.ignoreCase = true → target.dependsOnParameter = true →
      value arg = .ok (.string part) → ∀ bound : List Value,
        let whole := (Filter.condition s (.invoke target method [arg])).run.run ⟨cache, bound⟩
        let operand := (Filter.term s target).run.run ⟨cache, bound⟩
        whole.1 = operand.1.map (fun u =>
          .like (.apply .lower u) (.apply .lower (.parameter operand.2.bound.length))) ∧
          ∀ u, operand.1 = .ok u → whole.2.bound = operand.2.bound ++ [.string folded] := by
  intro s before after pattern folded
  have folds : folded = Pattern.ofMethod method (Text.lowercase part) :=
    Pattern.lowercase_ofMethod method part
  refine ⟨folds, ?_, fun text => ?_, fun target arg folding reads hv bound => ?_⟩
  · rw [folds]
    refine Pattern.signs_ofMethod_congr method ?_
    rw [Text.lowercase, String.toList_ofList]
    exact Pattern.filter_isSpecial_lowerAfter
  · rw [folds]
    exact Pattern.matches_ofMethod
  · rw [Filter.condition_of_pattern tests reads (Evaluation.captured_of_value hv)]
    have run := @Filter.run_like_folding _ _ _ (t.faithful hash) method target _ _ hv
      ⟨cache, bound⟩ reachable.sound
    rw [folding] at run
    exact run

/-- A sigma before a wildcard that is searched for ends a word, and one after it begins a word. -/
theorem folded_pattern_sigma :
    let s := { sampleTarget with ignoreCase := some true }.setting
      (EvaluatorCache.evaluate Expr.shapeHash)
    let compiled := (Filter.condition s (.invoke (.member (.parameter "x") "A") .startsWith
      [.constant (.string "ΑΣ%_ΣΑ")])).run.run ⟨.empty 1, [.null]⟩
    Text.lowercase "ΑΣ\\%\\_ΣΑ%" = "ας\\%\\_σα%" ∧
      compiled.1 = .ok (.like (.apply .lower (.column "A")) (.apply .lower (.parameter 1))) ∧
      compiled.2.bound = [.null, .string "ας\\%\\_σα%"] := by
  intro s compiled
  have empty : (EvaluatorCache.empty 1).Reachable Expr.shapeHash := .empty 1
  have pattern : Pattern.ofMethod .startsWith "ΑΣ%_ΣΑ" = "ΑΣ\\%\\_ΣΑ%" := by decide
  have lower : Pattern.ofMethod .startsWith (Text.lowercase "ΑΣ%_ΣΑ") = "ας\\%\\_σα%" := by
    decide +kernel
  obtain ⟨folds, -, -, compile⟩ := FilterTarget.folded_pattern
    { sampleTarget with ignoreCase := some true } empty (.tail _ (.head _)) "ΑΣ%_ΣΑ"
  replace folds : Text.lowercase "ΑΣ\\%\\_ΣΑ%" = "ας\\%\\_σα%" := by
    rw [← pattern, ← lower]
    exact folds
  obtain ⟨result, bound⟩ := compile (.member (.parameter "x") "A") (.constant (.string "ΑΣ%_ΣΑ"))
    rfl rfl rfl [.null]
  refine ⟨folds, result.trans rfl, (bound _ rfl).trans ?_⟩
  change [Value.null, .string (Text.lowercase (Pattern.ofMethod .startsWith "ΑΣ%_ΣΑ"))] = _
  rw [pattern, folds]

end RelMap
