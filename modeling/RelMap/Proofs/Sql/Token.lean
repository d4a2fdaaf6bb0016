import RelMap.Expr.Basic
import RelMap.Proofs.Text.Marks

/-!
# Tokens of SQL

A database cuts the text of a condition into tokens by the lexical rules of its dialect. The lexer
here takes the longest word, sign or mark at every point. It refuses quotes that are not closed,
signs that are no operator, such as those that open a comment, and the second kind of quotes that
some dialects have for names or literals.
-/

namespace RelMap.Sql

/-- A token. -/
inductive Token where
  /-- A quoted name, without its quotes. -/
  | name (text : String)
  /-- A string literal, without its quotes. -/
  | literal (text : String)
  /-- The mark of a parameter. -/
  | mark (text : String)
  /-- A number, or a word that is no keyword. -/
  | word (text : String)
  | null
  | connective (op : Connective)
  | not
  | is
  | among
  | like
  | escape
  | comparison (op : Comparison)
  | arithmetic (op : Arithmetic)
  | opening
  | closing
  | comma
  | dot
  deriving DecidableEq, Repr

/-- The token of a word; the case of a keyword does not matter. -/
def Token.ofWord (word : List Char) : Token :=
  match word.map Char.toUpper with
  | ['A', 'N', 'D'] => .connective .and
  | ['O', 'R'] => .connective .or
  | ['N', 'O', 'T'] => .not
  | ['I', 'S'] => .is
  | ['I', 'N'] => .among
  | ['L', 'I', 'K', 'E'] => .like
  | ['E', 'S', 'C', 'A', 'P', 'E'] => .escape
  | ['N', 'U', 'L', 'L'] => .null
  | _ => .word (String.ofList word)

/-- The token of a sign, if it is an operator. -/
def Token.ofSign? : List Char → Option Token
  | ['='] => some (.comparison .eq)
  | ['<', '>'] => some (.comparison .ne)
  | ['<'] => some (.comparison .lt)
  | ['<', '='] => some (.comparison .le)
  | ['>'] => some (.comparison .gt)
  | ['>', '='] => some (.comparison .ge)
  | ['+'] => some (.arithmetic .add)
  | ['-'] => some (.arithmetic .sub)
  | ['*'] => some (.arithmetic .mul)
  | ['/'] => some (.arithmetic .div)
  | ['%'] => some (.arithmetic .mod)
  | _ => none

/-- Whether a word goes on with a character. -/
def isWordChar (c : Char) : Bool := c.isAlphanum || c == '_'

/-- Whether a sign goes on with a character. -/
def isSignChar (c : Char) : Bool := c ∈ ['=', '<', '>', '+', '-', '*', '/', '%']

/-- Where in a text a lexer stands, with what it has read of a token. -/
inductive Place where
  | outside
  | word (read : List Char)
  | sign (read : List Char)
  | mark (read : List Char)
  /-- In a quoted name. -/
  | quoted (read : List Char)
  /-- Behind a quote that closes a name unless it is doubled. -/
  | unquoted (read : List Char)
  /-- In a string literal. -/
  | literal (read : List Char)
  /-- Behind an escape character in a string literal. -/
  | escaped (read : List Char)
  /-- Behind a quote that closes a string literal unless it is doubled. -/
  | unescaped (read : List Char)
  deriving DecidableEq

namespace Place

/-- The tokens of a character that begins anew, and the place behind it. -/
def start (d : Dialect) (c : Char) : Option (List Token × Place) :=
  if c.isWhitespace then some ([], .outside)
  else if c = '(' then some ([.opening], .outside)
  else if c = ')' then some ([.closing], .outside)
  else if c = ',' then some ([.comma], .outside)
  else if c = '.' then some ([.dot], .outside)
  else if c = d.openingMark then some ([], .quoted [])
  else if c = '\'' then some ([], .literal [])
  else if c = d.markSign then some ([], .mark [c])
  else if isSignChar c then some ([], .sign [c])
  else if isWordChar c then some ([], .word [c])
  else none

/-- The place behind a character that belongs to the token before it. -/
def next? (d : Dialect) : Place → Char → Option Place
  | .outside, _ => none
  | .word read, c => if isWordChar c then some (.word (read ++ [c])) else none
  | .sign read, c => if isSignChar c then some (.sign (read ++ [c])) else none
  | .mark read, c => if d.continuesMark c then some (.mark (read ++ [c])) else none
  | .quoted read, c =>
    if c = d.closingMark then some (.unquoted read) else some (.quoted (read ++ [c]))
  | .unquoted read, c => if c = d.closingMark then some (.quoted (read ++ [c])) else none
  | .literal read, c =>
    if c = '\'' then some (.unescaped read)
    else if d.hasEscapes ∧ c = '\\' then some (.escaped read)
    else some (.literal (read ++ [c]))
  | .escaped read, c => some (.literal (read ++ [c]))
  | .unescaped read, c => if c = '\'' then some (.literal (read ++ [c])) else none

/-- The tokens that are complete at a place, unless a quote is missing or there is no such sign. -/
def finish? : Place → Option (List Token)
  | .outside => some []
  | .word read => some [.ofWord read]
  | .sign read => (Token.ofSign? read).map fun t => [t]
  | .mark read => some [.mark (String.ofList read)]
  | .unquoted read => some [.name (String.ofList read)]
  | .unescaped read => some [.literal (String.ofList read)]
  | .quoted _ | .literal _ | .escaped _ => none

/-- The tokens that a character completes, and the place behind it. -/
def step (d : Dialect) (place : Place) (c : Char) : Option (List Token × Place) :=
  match place.next? d c with
  | some next => some ([], next)
  | none =>
    match place.finish?, start d c with
    | some ts, some (us, next) => some (ts ++ us, next)
    | _, _ => none

end Place

/-- The tokens of a text that is read from some place on, and the place behind it. -/
def scan (d : Dialect) : Place → List Char → Option (List Token × Place)
  | place, [] => some ([], place)
  | place, c :: cs =>
    match place.step d c with
    | some (ts, next) => (scan d next cs).map fun (us, last) => (ts ++ us, last)
    | none => none

/-- The tokens of a text. -/
def lex (d : Dialect) (sql : String) : Option (List Token) :=
  match scan d .outside sql.toList with
  | some (ts, last) => last.finish?.map (ts ++ ·)
  | none => none

/-- A text that leads to some place by the tokens that it completes. -/
def Leads (d : Dialect) (text : String) (ts : List Token) (last : Place) : Prop :=
  scan d .outside text.toList = some (ts, last)

/-- A text of tokens of which the last one is complete before every separator. -/
def Ends (d : Dialect) (text : String) (ts : List Token) : Prop :=
  ∃ us last vs, Leads d text us last ∧ last.finish? = some vs ∧ ts = us ++ vs ∧
    ∀ c, isSeparator c → last.next? d c = none

/-- Whether a text begins with a separator. -/
def separates (text : String) : Bool := text.toList.head?.any isSeparator

section
variable {d : Dialect} {a b : String} {as bs : List Char} {ts us : List Token}
variable {place next last : Place}

lemma scan_append (ha : scan d place as = some (ts, next)) (hb : scan d next bs = some (us, last)) :
    scan d place (as ++ bs) = some (ts ++ us, last) := by
  induction as generalizing place ts with
  | nil =>
    cases ha
    exact hb
  | cons c as ih =>
    rw [List.cons_append]
    unfold scan at ha ⊢
    cases step : place.step d c with
    | none =>
      rw [step] at ha
      cases ha
    | some r =>
      obtain ⟨vs, q⟩ := r
      rw [step] at ha
      obtain ⟨⟨ws, q'⟩, hq, same⟩ := Option.map_eq_some_iff.1 ha
      cases same
      dsimp only
      rw [ih hq, Option.map_some, List.append_assoc]

lemma Leads.append (ha : Leads d a ts .outside) (hb : Leads d b us last) :
    Leads d (a ++ b) (ts ++ us) last := by
  unfold Leads
  rw [String.toList_append]
  exact scan_append ha hb

lemma Leads.append_ends (ha : Leads d a ts .outside) (hb : Ends d b us) :
    Ends d (a ++ b) (ts ++ us) := by
  obtain ⟨vs, last, ws, leads, finish, rfl, stops⟩ := hb
  exact ⟨ts ++ vs, last, ws, ha.append leads, finish, (List.append_assoc ..).symm, stops⟩

/-- A character that does not go on with a token is read as from outside. -/
lemma scan_of_next?_eq_none {c : Char} (stop : last.next? d c = none)
    (finish : last.finish? = some ts) (h : scan d .outside (c :: as) = some (us, next)) :
    scan d last (c :: as) = some (ts ++ us, next) := by
  unfold scan Place.step at h ⊢
  rw [stop, finish]
  dsimp only [Place.next?, Place.finish?] at h ⊢
  cases start : Place.start d c with
  | none =>
    rw [start] at h
    cases h
  | some r =>
    obtain ⟨vs, q⟩ := r
    rw [start] at h
    obtain ⟨⟨ws, q'⟩, hq, same⟩ := Option.map_eq_some_iff.1 h
    cases same
    dsimp only
    rw [hq, Option.map_some, List.nil_append, List.append_assoc]

lemma separates_append (ha : separates a) : separates (a ++ b) := by
  unfold separates at ha ⊢
  rw [String.toList_append]
  cases h : a.toList with
  | nil =>
    rw [h] at ha
    cases ha
  | cons c cs =>
    rw [h] at ha
    exact ha

/-- A text that begins with a separator completes the last token before it. -/
lemma Ends.append (ha : Ends d a ts) (hb : Leads d b us last) (sep : separates b) :
    Leads d (a ++ b) (ts ++ us) last := by
  obtain ⟨vs, place, ws, leads, finish, rfl, stops⟩ := ha
  unfold Leads at hb ⊢
  unfold separates at sep
  rw [String.toList_append, List.append_assoc]
  cases opens : b.toList with
  | nil =>
    rw [opens] at sep
    cases sep
  | cons c cs =>
    rw [opens] at sep hb
    exact scan_append leads (scan_of_next?_eq_none (stops c sep) finish hb)

lemma Ends.append_ends (ha : Ends d a ts) (hb : Ends d b us) (sep : separates b) :
    Ends d (a ++ b) (ts ++ us) := by
  obtain ⟨vs, place, ws, leads, finish, rfl, stops⟩ := hb
  exact ⟨ts ++ vs, place, ws, ha.append leads sep, finish, (List.append_assoc ..).symm, stops⟩

lemma Leads.ends (ha : Leads d a ts .outside) : Ends d a ts :=
  ⟨ts, .outside, [], ha, rfl, (List.append_nil ts).symm, fun _ _ => rfl⟩

/-- A text that ends with a complete token is cut into its tokens. -/
lemma Ends.lex (ha : Ends d a ts) : lex d a = some ts := by
  obtain ⟨us, last, vs, leads, finish, rfl, _⟩ := ha
  unfold Sql.lex
  rw [leads]
  dsimp only
  rw [finish, Option.map_some]

lemma isWordChar_of_isSeparator {c : Char} (h : isSeparator c) : isWordChar c = false := by
  simp only [isSeparator, List.mem_cons, List.not_mem_nil, or_false, decide_eq_true_eq] at h
  rcases h with rfl | rfl | rfl | rfl <;> decide

/-- A text that ends in a word. -/
lemma Leads.word {read : List Char} (ha : Leads d a ts (.word read)) :
    Ends d a (ts ++ [.ofWord read]) := by
  refine ⟨ts, .word read, [.ofWord read], ha, rfl, rfl, fun c hc => ?_⟩
  rw [Place.next?, isWordChar_of_isSeparator hc, if_neg Bool.false_ne_true]

/-- A text that ends in a string literal. -/
lemma Leads.unescaped {read : List Char} (ha : Leads d a ts (.unescaped read)) :
    Ends d a (ts ++ [.literal (String.ofList read)]) := by
  refine ⟨ts, .unescaped read, [.literal (String.ofList read)], ha, rfl, rfl, fun c hc => ?_⟩
  rw [Place.next?, if_neg]
  rintro rfl
  exact absurd hc (by decide)

lemma scan_doubled (read cs : List Char) :
    scan d (.quoted read) (Text.doubled d.closingMark cs ++ [d.closingMark]) =
      some ([], .unquoted (read ++ cs)) := by
  induction cs generalizing read with
  | nil => simp [Text.doubled, scan, Place.step, Place.next?]
  | cons c cs ih =>
    have tail := ih (read ++ [c])
    rw [List.append_assoc, List.singleton_append] at tail
    by_cases same : c = d.closingMark
    · simpa [Text.doubled, scan, Place.step, Place.next?, same] using tail
    · simpa [Text.doubled, scan, Place.step, Place.next?, same] using tail

/-- A quoted name is one token, whatever its characters. -/
lemma Ends.quote (d : Dialect) (name : String) : Ends d (d.quote name) [.name name] := by
  have start : Place.start d d.openingMark = some ([], .quoted []) := by cases d <;> decide
  refine ⟨[], .unquoted name.toList, [.name name], ?_, ?_, rfl, fun c hc => ?_⟩
  · unfold Leads
    simp [Dialect.quote, Text.quote, scan, Place.step, Place.next?, Place.finish?, start,
      scan_doubled]
  · rw [Place.finish?, String.ofList_toList]
  · rw [Place.next?, if_neg]
    rintro rfl
    cases d <;> exact absurd hc (by decide)

lemma scan_mark (read cs : List Char) (hc : ∀ c ∈ cs, d.continuesMark c) :
    scan d (.mark read) cs = some ([], .mark (read ++ cs)) := by
  induction cs generalizing read with
  | nil => rw [List.append_nil]; rfl
  | cons c cs ih =>
    have tail := ih (read ++ [c]) fun c' h => hc c' (List.mem_cons_of_mem c h)
    rw [List.append_assoc, List.singleton_append] at tail
    simpa [scan, Place.step, Place.next?, hc c (List.mem_cons_self ..)] using tail

/-- A mark is one token. -/
lemma Ends.mark {cs : List Char} (hc : ∀ c ∈ cs, d.continuesMark c)
    (ha : a.toList = d.markSign :: cs) : Ends d a [.mark a] := by
  have start : Place.start d d.markSign = some ([], .mark [d.markSign]) := by cases d <;> decide
  refine ⟨[], .mark (d.markSign :: cs), [.mark a], ?_, ?_, rfl, fun c sep => ?_⟩
  · unfold Leads
    rw [ha]
    simp [scan, Place.step, Place.next?, Place.finish?, start, scan_mark _ _ hc]
  · rw [Place.finish?, ← ha, String.ofList_toList]
  · rw [Place.next?, continuesMark_of_isSeparator sep, if_neg Bool.false_ne_true]

/-- The mark of a parameter is one token. -/
lemma Ends.placeholder (d : Dialect) (index : Nat) :
    Ends d (d.placeholder index) [.mark (d.placeholder index)] := by
  obtain ⟨cs, spelled, continues⟩ := placeholder_eq d index
  exact Ends.mark continues spelled

end

end RelMap.Sql
