import RelMap.Dialect
import Mathlib.Logic.Function.Basic
import Mathlib.Tactic.Lemma

/-!
# Reading quoted names

A name that was quoted is read back as it was, and reading stops behind its closing mark, whatever
the name consists of and whatever follows that does not double the mark. Since a text can be read in
one way only, no two tables have the same qualified name.
-/

namespace RelMap

namespace Text

variable {mark : Char} {cs text rest : List Char}

/-- A text that was doubled is read back up to the mark behind it. -/
lemma unquoteChars_doubled (h : rest.head? ≠ some mark) (cs : List Char) :
    unquoteChars mark (doubled mark cs ++ mark :: rest) = some (cs, rest) := by
  induction cs with
  | nil =>
    cases rest with
    | nil => rw [doubled, List.nil_append, unquoteChars, if_pos rfl]
    | cons d rest =>
      have apart : d ≠ mark := fun same => h (congrArg some same)
      rw [doubled, List.nil_append, unquoteChars, if_pos rfl, if_neg apart]
  | cons c cs ih =>
    rw [doubled]
    split
    next same =>
      rw [List.cons_append, List.cons_append, unquoteChars, if_pos same, if_pos same, ih]
      rfl
    next apart =>
      -- The mark at the end is there to be looked at behind the last character.
      obtain ⟨d, tail, eq⟩ : ∃ d tail, doubled mark cs ++ mark :: rest = d :: tail :=
        List.exists_cons_of_ne_nil (List.append_ne_nil_of_right_ne_nil _ (List.cons_ne_nil _ _))
      rw [List.cons_append, eq, unquoteChars, if_neg apart, ← eq, ih]
      rfl

/-- What is read back was doubled, and the mark behind it is not. -/
lemma eq_doubled_of_unquoteChars (h : unquoteChars mark text = some (cs, rest)) :
    text = doubled mark cs ++ mark :: rest ∧ rest.head? ≠ some mark := by
  fun_induction unquoteChars mark text generalizing cs with
  | case1 => cases h
  | case2 => cases h; exact ⟨rfl, nofun⟩
  | case3 => cases h
  | case4 tail ih =>
    obtain ⟨⟨cs', rest'⟩, read, eq⟩ := Option.map_eq_some_iff.1 h
    cases eq
    obtain ⟨rfl, stops⟩ := ih read
    exact ⟨by rw [doubled, if_pos rfl]; rfl, stops⟩
  | case5 d tail apart =>
    cases h
    exact ⟨rfl, fun same => apart (Option.some.inj same)⟩
  | case6 c d tail apart ih =>
    obtain ⟨⟨cs', rest'⟩, read, eq⟩ := Option.map_eq_some_iff.1 h
    cases eq
    obtain ⟨eq, stops⟩ := ih read
    exact ⟨by rw [doubled, if_neg apart, List.cons_append, ← eq], stops⟩

lemma toList_quote_append (opening closing : Char) (name rest : String) :
    (quote opening closing name ++ rest).toList =
      opening :: (doubled closing name.toList ++ closing :: rest.toList) := by
  rw [quote, String.toList_append, String.toList_ofList, List.cons_append, List.cons_append,
    List.append_assoc, List.singleton_append]

/-- What is read at the start of a text is what was quoted there, if nothing doubles its end. -/
lemma unquote?_eq_some {opening : Char} {s name rest : String} :
    unquote? opening mark s = some (name, rest) ↔
      s = quote opening mark name ++ rest ∧ rest.toList.head? ≠ some mark := by
  constructor
  · intro h
    unfold unquote? at h
    split at h
    next => cases h
    next c cs starts =>
      split at h
      next opens =>
        obtain ⟨⟨t, r⟩, read, eq⟩ := Option.map_eq_some_iff.1 h
        cases eq
        obtain ⟨eq, stops⟩ := eq_doubled_of_unquoteChars read
        refine ⟨?_, by rwa [String.toList_ofList]⟩
        rw [← String.toList_inj, toList_quote_append, starts, eq, opens, String.toList_ofList,
          String.toList_ofList]
      next => cases h
  · rintro ⟨rfl, stops⟩
    unfold unquote?
    rw [toList_quote_append]
    dsimp only
    rw [if_pos rfl, unquoteChars_doubled stops, Option.map_some, String.ofList_toList,
      String.ofList_toList]

end Text

namespace Dialect

variable {d : Dialect} {name rest : String}

/-- A quoted name at the start of a text is read as that name, and nothing else is. -/
lemma unquote?_eq_some {s : String} :
    d.unquote? s = some (name, rest) ↔
      s = d.quote name ++ rest ∧ rest.toList.head? ≠ some d.closingMark :=
  Text.unquote?_eq_some

lemma unquote?_quote (d : Dialect) (name : String) : d.unquote? (d.quote name) = some (name, "") :=
  unquote?_eq_some.2 ⟨String.append_empty.symm, nofun⟩

lemma quote_injective (d : Dialect) : Function.Injective d.quote := fun name name' same => by
  have read := congrArg d.unquote? same
  rw [unquote?_quote, unquote?_quote] at read
  cases read
  rfl

/-- A schema is read back from a qualified name, as the dot behind it doubles no mark. -/
lemma unquote?_quote_dot (d : Dialect) (schema table : String) :
    d.unquote? (d.quote schema ++ "." ++ table) = some (schema, "." ++ table) := by
  have dot : d.closingMark ≠ '.' := by cases d <;> decide
  refine unquote?_eq_some.2 ⟨String.append_assoc, fun same => dot ?_⟩
  rw [String.toList_append] at same
  exact (Option.some.inj same).symm

/-- A quoted name is over behind its closing mark, where a qualified one goes on with a dot. -/
lemma quote_ne_quote_dot (d : Dialect) (name schema table : String) :
    d.quote name ≠ d.quote schema ++ "." ++ table := by
  intro same
  have read := congrArg d.unquote? same
  rw [unquote?_quote, unquote?_quote_dot, Option.some.injEq, Prod.mk.injEq] at read
  exact absurd (congrArg String.toList read.2) (by simp)

/-- No two tables have one qualified name, with or without schemas. -/
lemma qualify_injective (d : Dialect) :
    Function.Injective fun t : Option String × String => d.qualify t.1 t.2 := by
  rintro ⟨schema, table⟩ ⟨schema', table'⟩ same
  cases schema with
  | none =>
    cases schema' with
    | none => exact congrArg (Prod.mk none) (d.quote_injective same)
    | some schema' => exact absurd same (d.quote_ne_quote_dot _ _ _)
  | some schema =>
    cases schema' with
    | none => exact absurd same.symm (d.quote_ne_quote_dot _ _ _)
    | some schema' =>
      have read := congrArg d.unquote? same
      simp only [qualify, unquote?_quote_dot, Option.some.injEq, Prod.mk.injEq] at read
      obtain ⟨rfl, rest⟩ := read
      exact congrArg (Prod.mk _) (d.quote_injective ((String.append_right_inj _).1 rest))

/--
Reading a text by the rules of a dialect finds a name and stops exactly where the text begins with
that name quoted and does not go on with the closing mark. So what follows a quoted name is never
taken for a part of it, and no two tables have the same qualified name, with or without schemas.
-/
theorem quote_contained (d : Dialect) :
    (∀ s name rest, d.unquote? s = some (name, rest) ↔
      s = d.quote name ++ rest ∧ rest.toList.head? ≠ some d.closingMark) ∧
    Function.Injective fun t : Option String × String => d.qualify t.1 t.2 :=
  ⟨fun _ _ _ => unquote?_eq_some, d.qualify_injective⟩

/-- A name that holds all that could stand between a schema and a table is still one name. -/
theorem quote_contained_brackets :
    sqlServer.quote "a].[b" = "[a]].[b]" ∧
      sqlServer.unquote? "[a]].[b].[c]" = some ("a].[b", ".[c]") ∧
      sqlServer.qualify none "a].[b" ≠ sqlServer.qualify (some "a") "b" := by
  obtain ⟨reads, injective⟩ := quote_contained sqlServer
  refine ⟨by decide, (reads _ _ _).2 ⟨by decide, by decide⟩, fun same => ?_⟩
  have pairs : (none, "a].[b") = (some "a", "b") := injective same
  exact absurd pairs (by decide)

end Dialect

end RelMap
