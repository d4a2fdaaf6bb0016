import Mathlib.Data.List.Infix
import RelMap.Proofs.Evaluation.Values
import RelMap.Proofs.Filter.NullTests
import RelMap.Proofs.Text.Part

/-!
# What patterns match

A pattern matches by trying: a wildcard may stand for any text, so there are many ways in which a
pattern and a text can be laid side by side. A pattern that is made for a text matches in one way
only as far as the text goes, as nothing in the escaped text is a wildcard. So it matches what
contains, starts with or ends with the text, which is also what the method says of two strings.
-/

namespace RelMap

namespace Pattern

/-- What a pattern matches: the wildcards are free, what follows an escape stands for itself. -/
inductive Matches : List Char → List Char → Prop where
  | nil :
    Matches [] []
  | anyText {p text} (skipped : List Char) :
    Matches p text →
    Matches (anyText :: p) (skipped ++ text)
  | anyChar {p text} (c : Char) :
    Matches p text →
    Matches (anyChar :: p) (c :: text)
  | escaped {p text} (c : Char) :
    Matches p text →
    Matches (escapeMark :: c :: p) (c :: text)
  | literal {p text c} :
    isSpecial c = false →
    Matches p text →
    Matches (c :: p) (c :: text)

/-- Whether a pattern matches a text, by trying all that a wildcard may stand for. -/
def accepts : List Char → List Char → Bool
  | [], text => text.isEmpty
  | c :: p, text =>
    if c = anyText then text.tails.any fun rest => accepts p rest
    else
      match text with
      | [] => false
      | d :: rest =>
        if c = anyChar then accepts p rest
        else if c = escapeMark then
          match p with
          | [] => false
          | e :: p => e == d && accepts p rest
        else c == d && accepts p rest

/-- Whether a pattern ends in an escape that has nothing to escape. -/
def dangles : List Char → Bool
  | [] => false
  | c :: p =>
    if c = escapeMark then
      match p with
      | [] => true
      | _ :: p => dangles p
    else dangles p

/-- How a method's argument stands in the strings that the method holds of. -/
def Occurs : Method → List Char → List Char → Prop
  | .startsWith, part, text => part <+: text
  | .endsWith, part, text => part <:+ text
  | _, part, text => part <:+: text

variable {p part text : List Char} {c : Char}

lemma matches_nil : Matches [] text ↔ text = [] :=
  ⟨fun h => by cases h; rfl, fun h => h ▸ .nil⟩

lemma matches_anyText :
    Matches (anyText :: p) text ↔ ∃ skipped rest, text = skipped ++ rest ∧ Matches p rest := by
  constructor
  · intro h
    cases h with
    | anyText skipped h => exact ⟨skipped, _, rfl, h⟩
    | literal plain => cases plain
  · rintro ⟨skipped, rest, rfl, h⟩
    exact .anyText skipped h

lemma matches_anyChar :
    Matches (anyChar :: p) text ↔ ∃ d rest, text = d :: rest ∧ Matches p rest := by
  constructor
  · intro h
    cases h with
    | anyChar d h => exact ⟨d, _, rfl, h⟩
    | literal plain => cases plain
  · rintro ⟨d, rest, rfl, h⟩
    exact .anyChar d h

/-- Only a wildcard for any text lets an empty text pass. -/
lemma not_matches_empty (other : c ≠ anyText) : ¬ Matches (c :: p) [] := by
  intro h
  generalize empty : [] = text at h
  cases h with
  | anyText => exact other rfl
  | _ => cases empty

lemma not_matches_escape : ¬ Matches [escapeMark] text := by
  intro h
  cases h with
  | literal plain => cases plain

lemma matches_anyText_end : Matches [anyText] text :=
  matches_anyText.2 ⟨text, [], (List.append_nil text).symm, .nil⟩

lemma matches_escaped :
    Matches (escapeMark :: c :: p) text ↔ ∃ rest, text = c :: rest ∧ Matches p rest := by
  constructor
  · intro h
    cases h with
    | escaped _ h => exact ⟨_, rfl, h⟩
    | literal plain => cases plain
  · rintro ⟨rest, rfl, h⟩
    exact .escaped c h

lemma matches_literal (plain : isSpecial c = false) :
    Matches (c :: p) text ↔ ∃ rest, text = c :: rest ∧ Matches p rest := by
  constructor
  · intro h
    cases h with
    | literal _ h => exact ⟨_, rfl, h⟩
    | anyText | anyChar | escaped => cases plain
  · rintro ⟨rest, rfl, h⟩
    exact .literal plain h

/-- A text that begins with a character goes on in one way. -/
lemma exists_rest_iff {P : List Char → Prop} {d : Char} {rest : List Char} :
    (∃ others, d :: rest = c :: others ∧ P others) ↔ c = d ∧ P rest := by
  constructor
  · rintro ⟨_, same, h⟩
    cases same
    exact ⟨rfl, h⟩
  · rintro ⟨rfl, h⟩
    exact ⟨rest, rfl, h⟩

/-- Trying finds out what a pattern matches. -/
lemma accepts_iff : accepts p text = true ↔ Matches p text := by
  fun_induction accepts p text with
  | case1 text => rw [matches_nil, List.isEmpty_iff]
  | case2 p text ih =>
    -- What is left for the rest of the pattern is a tail of the text.
    rw [matches_anyText, List.any_eq_true]
    simp only [ih, List.mem_tails]
    constructor
    · rintro ⟨rest, ⟨skipped, rfl⟩, h⟩
      exact ⟨skipped, rest, rfl, h⟩
    · rintro ⟨skipped, rest, rfl, h⟩
      exact ⟨rest, ⟨skipped, rfl⟩, h⟩
  | case3 c p other => exact ⟨nofun, fun h => absurd h (not_matches_empty other)⟩
  | case4 p d rest _ ih =>
    rw [ih, matches_anyChar]
    constructor
    · exact fun h => ⟨d, rest, rfl, h⟩
    · rintro ⟨_, _, same, h⟩
      cases same
      exact h
  | case5 => exact ⟨nofun, fun h => absurd h not_matches_escape⟩
  | case6 d rest c p _ _ ih =>
    rw [Bool.and_eq_true, beq_iff_eq, ih, matches_escaped, exists_rest_iff]
  | case7 c p notAny d rest notOne notEscape ih =>
    have plain : isSpecial c = false := by simp [isSpecial, notAny, notOne, notEscape]
    rw [Bool.and_eq_true, beq_iff_eq, ih, matches_literal plain, exists_rest_iff]

instance : Decidable (Matches p text) := decidable_of_iff _ accepts_iff

example : Matches "5\\%_".toList "5%!".toList ∧ ¬ Matches "5\\%_".toList "50!".toList := by decide

/-- An escaped text is matched by itself only, and then the rest of the pattern goes on. -/
lemma matches_escapeChars_append :
    Matches (escapeChars part ++ p) text ↔ ∃ rest, text = part ++ rest ∧ Matches p rest := by
  induction part generalizing text with
  | nil => exact ⟨fun h => ⟨text, rfl, h⟩, fun ⟨_, h, m⟩ => h ▸ m⟩
  | cons c part ih =>
    -- Escaped or not, the first character takes one character of the text and leaves the rest to
    -- the rest, so no wildcard is met before the end of the escaped text.
    have first : Matches (escapeChars (c :: part) ++ p) text ↔
        ∃ rest, text = c :: rest ∧ Matches (escapeChars part ++ p) rest := by
      rw [escapeChars]
      split
      next special => exact matches_escaped
      next plain => exact matches_literal (eq_false_of_ne_true plain)
    rw [first]
    constructor
    · rintro ⟨_, rfl, others⟩
      obtain ⟨rest, rfl, h⟩ := ih.1 others
      exact ⟨rest, rfl, h⟩
    · rintro ⟨rest, rfl, h⟩
      exact ⟨part ++ rest, rfl, ih.2 ⟨rest, rfl, h⟩⟩

lemma dangles_cons (other : c ≠ escapeMark) : dangles (c :: p) = dangles p := by
  rw [dangles.eq_def]
  exact if_neg other

/-- An escaped text leaves no escape open, so only what follows it can. -/
lemma dangles_escapeChars_append : dangles (escapeChars part ++ p) = dangles p := by
  induction part with
  | nil => rfl
  | cons c part ih =>
    rw [escapeChars]
    split
    next special => exact ih
    next plain =>
      have other : c ≠ escapeMark := by
        rintro rfl
        exact plain rfl
      exact (dangles_cons other).trans ih

/-- An escaped text with a free end matches what begins with the text. -/
lemma matches_before : Matches (escapeChars part ++ [anyText]) text ↔ part <+: text := by
  rw [matches_escapeChars_append]
  constructor
  · rintro ⟨rest, rfl, -⟩
    exact ⟨rest, rfl⟩
  · rintro ⟨rest, rfl⟩
    exact ⟨rest, rfl, matches_anyText_end⟩

/-- An escaped text with a free beginning matches what ends with the text. -/
lemma matches_after : Matches (anyText :: (escapeChars part ++ [])) text ↔ part <:+ text := by
  simp only [matches_anyText, matches_escapeChars_append, matches_nil]
  constructor
  · rintro ⟨skipped, _, rfl, _, rfl, rfl⟩
    exact ⟨skipped, by rw [List.append_nil]⟩
  · rintro ⟨skipped, rfl⟩
    exact ⟨skipped, part, rfl, [], (List.append_nil part).symm, rfl⟩

/-- An escaped text with both ends free matches what contains the text. -/
lemma matches_within :
    Matches (anyText :: (escapeChars part ++ [anyText])) text ↔ part <:+: text := by
  rw [matches_anyText]
  simp only [matches_before]
  constructor
  · rintro ⟨skipped, _, rfl, rest, rfl⟩
    exact ⟨skipped, rest, List.append_assoc ..⟩
  · rintro ⟨skipped, rest, rfl⟩
    exact ⟨skipped, part ++ rest, List.append_assoc .., List.prefix_append ..⟩

lemma toList_ofMethod (method : Method) (s : String) :
    (ofMethod method s).toList =
      match method with
      | .startsWith => escapeChars s.toList ++ [anyText]
      | .endsWith => anyText :: (escapeChars s.toList ++ [])
      | _ => anyText :: (escapeChars s.toList ++ [anyText]) := by
  have free : ("%" : String).toList = [anyText] := by decide
  rw [ofMethod, String.toList_append, String.toList_append, escape, String.toList_ofList,
    List.append_assoc]
  cases method <;> simp only [wildcards, free, String.toList_empty] <;> rfl

/-- A method's pattern matches the texts in which the argument stands as the method wants it. -/
lemma matches_ofMethod {method : Method} {s : String} :
    Matches (ofMethod method s).toList text ↔ Occurs method s.toList text := by
  rw [toList_ofMethod]
  cases method with
  | startsWith => exact matches_before
  | endsWith => exact matches_after
  | _ => exact matches_within

/-- No method's pattern ends in an escape that has nothing to escape. -/
lemma dangles_ofMethod (method : Method) (s : String) :
    dangles (ofMethod method s).toList = false := by
  rw [toList_ofMethod]
  cases method with
  | startsWith => exact dangles_escapeChars_append
  | _ => exact (dangles_cons (by decide)).trans dangles_escapeChars_append

/-- What the evaluator says of two strings is whether the one stands in the other as wanted. -/
lemma textTest_iff {method : Method} (tests : method ∈ [Method.contains, .startsWith, .endsWith])
    {s part : String} :
    Evaluation.textTest method s part = true ↔ Occurs method part.toList s.toList := by
  cases method with
  | contains => exact Text.containsChars_iff
  | startsWith => exact List.isPrefixOf_iff_prefix
  | endsWith => exact List.isSuffixOf_iff_suffix
  | _ => simp at tests

end Pattern

open Evaluation (EvaluatorCache targetCall textTest value)

lemma Evaluation.targetCall_strings {method : Method}
    (tests : method ∈ [Method.contains, .startsWith, .endsWith]) (s part : String) :
    targetCall method (.string s) [.string part] = .ok (.bool (textTest method s part)) := by
  cases method with
  | contains | startsWith | endsWith => rfl
  | _ => simp at tests

namespace Filter

variable {σ : Type} {s : Setting σ} {good : σ → Prop}

/-- A test of what reads the entity against what does not is a test with a pattern. -/
lemma condition_of_pattern {method : Method}
    (tests : method ∈ [Method.contains, .startsWith, .endsWith]) {target arg : Expr}
    (reads : target.dependsOnParameter = true) (free : arg.dependsOnParameter = false) :
    condition s (.invoke target method [arg]) = like s method (term s target) arg := by
  have chosen : targetCondition s target method arg = like s method (term s target) arg := by
    unfold targetCondition
    rw [if_pos reads, free]
    rfl
  rw [condition, Expr.dependsOnParameter, reads, ← chosen]
  cases method with
  | contains | startsWith | endsWith => rfl
  | _ => simp at tests

/--
A test with a pattern is compiled if its target is a term; the pattern is bound after it. Where case
does not count the whole pattern is bound in lower case, and both sides are folded in the text.
-/
lemma run_like_folding (hs : s.Faithful good) {method : Method} {target arg : Expr} {text : String}
    (hv : value arg = .ok (.string text)) {p : Progress σ} (hp : good p.evaluators) :
    let pattern := Pattern.ofMethod method text
    let whole := (like s method (term s target) arg).run.run p
    let operand := (term s target).run.run p
    whole.1 = operand.1.map (fun u => .like (foldedTerm s.ignoreCase u)
        (foldedTerm s.ignoreCase (.parameter operand.2.bound.length))) ∧
      ∀ u, operand.1 = .ok u → whole.2.bound = operand.2.bound ++
        [.string (if s.ignoreCase then Text.lowercase pattern else pattern)] := by
  obtain ⟨q, hq, bound, run⟩ := hs.run_evaluate arg hp
  obtain ⟨result, after⟩ := run_term_eq hs target hq hp bound
  intro pattern whole operand
  simp only [whole, operand, ← result, ← after]
  rw [like, run_bind, run, hv]
  simp only [patternText, pure_bind]
  rw [run_bind]
  rcases (term s target).run.run q with ⟨f | u, q'⟩
  · exact ⟨rfl, nofun⟩
  · exact ⟨rfl, fun _ _ => rfl⟩

/-- Where case counts, the pattern is bound as it is. -/
lemma run_like (hs : s.Faithful good) (cased : s.ignoreCase = false) {method : Method}
    {target arg : Expr} {text : String} (hv : value arg = .ok (.string text)) {p : Progress σ}
    (hp : good p.evaluators) :
    let whole := (like s method (term s target) arg).run.run p
    let operand := (term s target).run.run p
    whole.1 = operand.1.map (Condition.like · (.parameter operand.2.bound.length)) ∧
      ∀ u, operand.1 = .ok u →
        whole.2.bound = operand.2.bound ++ [.string (Pattern.ofMethod method text)] := by
  have run := @run_like_folding _ _ _ hs method target _ _ hv _ hp
  rw [cased] at run
  exact run

end Filter

/--
What is bound for a test of a string matches literally. Where case counts, the test is compiled if
its target is a term, and the pattern is bound after it. The pattern ends in no open escape and
matches exactly the texts that contain, start with or end with the argument, and these are the texts
of which the evaluator says so when both are captured.
-/
theorem FilterTarget.pattern_matches_literally (t : FilterTarget) {hash : Expr → UInt64}
    {cache : EvaluatorCache} (reachable : cache.Reachable hash) {method : Method}
    (tests : method ∈ [Method.contains, .startsWith, .endsWith]) (part : String) :
    let s := t.setting (EvaluatorCache.evaluate hash)
    let pattern := Pattern.ofMethod method part
    (∀ target arg, s.ignoreCase = false → target.dependsOnParameter = true →
      value arg = .ok (.string part) → ∀ bound : List Value,
        let whole := (Filter.condition s (.invoke target method [arg])).run.run ⟨cache, bound⟩
        let operand := (Filter.term s target).run.run ⟨cache, bound⟩
        whole.1 = operand.1.map (Condition.like · (.parameter operand.2.bound.length)) ∧
          ∀ u, operand.1 = .ok u → whole.2.bound = operand.2.bound ++ [.string pattern]) ∧
    Pattern.dangles pattern.toList = false ∧
    ∀ text : String,
      (Pattern.Matches pattern.toList text.toList ↔
        Pattern.Occurs method part.toList text.toList) ∧
      ∀ a b, value a = .ok (.string text) → value b = .ok (.string part) →
        ∃ found, (cache.evaluate hash (.invoke a method [b])).1 = .ok (.bool found) ∧
          (found = true ↔ Pattern.Matches pattern.toList text.toList) := by
  intro s pattern
  refine ⟨fun target arg cased reads hv bound => ?_, Pattern.dangles_ofMethod method part,
    fun text => ⟨Pattern.matches_ofMethod, fun a b ha hb => ?_⟩⟩
  · rw [Filter.condition_of_pattern tests reads (Evaluation.captured_of_value hv)]
    exact Filter.run_like (t.faithful hash) cased hv reachable.sound
  · refine ⟨textTest method text part, ?_, ?_⟩
    · have known : method.isNamed = false := by
        cases method with
        | named => simp at tests
        | _ => rfl
      rw [(reachable.sound.evaluate _).1, Evaluation.value_invoke known ha hb]
      exact Evaluation.targetCall_strings tests text part
    · rw [Pattern.textTest_iff tests, Pattern.matches_ofMethod]

/-- A search for all that means something in a pattern, in a property and in a captured string. -/
theorem pattern_matches_literally_special :
    let s := sampleTarget.setting (EvaluatorCache.evaluate Expr.shapeHash)
    let search (target : Expr) : Expr := .invoke target .contains [.constant (.string "%_\\")]
    let compiled := (Filter.condition s (search (.member (.parameter "x") "A"))).run.run
      ⟨.empty 1, [.null]⟩
    compiled.1 = .ok (.like (.column "A") (.parameter 1)) ∧
      compiled.2.bound = [.null, .string "%\\%\\_\\\\%"] ∧
      (∃ found, ((EvaluatorCache.empty 1).evaluate Expr.shapeHash
          (search (.constant (.string "5%_\\")))).1 = .ok (.bool found) ∧
        (found = true ↔ Pattern.Matches "%\\%\\_\\\\%".toList "5%_\\".toList)) := by
  intro s search compiled
  have pattern : Pattern.ofMethod .contains "%_\\" = "%\\%\\_\\\\%" := by decide
  have empty : (EvaluatorCache.empty 1).Reachable Expr.shapeHash := .empty 1
  obtain ⟨compile, -, texts⟩ := sampleTarget.pattern_matches_literally empty (.head _) "%_\\"
  rw [pattern] at compile texts
  obtain ⟨result, bound⟩ := compile (.member (.parameter "x") "A") (.constant (.string "%_\\"))
    rfl rfl rfl [.null]
  exact ⟨result.trans rfl, bound _ rfl, (texts "5%_\\").2 _ _ rfl rfl⟩

end RelMap
