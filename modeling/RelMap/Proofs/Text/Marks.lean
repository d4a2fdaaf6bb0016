import RelMap.Dialect
import RelMap.Text.Part
import Mathlib.Tactic.Lemma

/-!
# Reading the marks of parameters

A database reads a statement from left to right and finds the marks of its parameters; what stands
between quotes is no mark. The scanner here follows the rules of each dialect: a closing quote that
is written twice does not close, and only MySQL has a character that escapes the next one.
-/

namespace RelMap

namespace Dialect

/-- The character that a mark begins with. -/
def markSign : Dialect → Char
  | .sqlServer | .sqlite => '@'
  | .postgres => '$'
  | .mySql => '?'
  | .oracle => ':'

/-- Whether a mark goes on with a character; the mark of MySQL is a single character. -/
def continuesMark : Dialect → Char → Bool
  | .mySql, _ => false
  | .postgres, c => c.isDigit
  | _, c => c.isAlphanum || c == '_'

/-- Whether a backslash between quotes of a literal escapes the character after it. -/
def hasEscapes (d : Dialect) : Bool := d == .mySql

end Dialect

/-- Where in a statement a scanner stands. -/
inductive Place where
  | outside
  | quoted (closing : Char) (escapes : Bool)
  /-- Behind an escape character between quotes. -/
  | escaped (closing : Char)
  /-- Behind a closing quote, which the same character would take back. -/
  | closed (closing : Char) (escapes : Bool)
  /-- In a mark of which some characters have been read. -/
  | mark (read : List Char)
  deriving DecidableEq

namespace Place

/-- The mark that a place is in. -/
def mark? : Place → Option String
  | .mark read => some (String.ofList read)
  | _ => none

/-- The place behind a character that belongs to nothing before it. -/
def enter (d : Dialect) (c : Char) : Place :=
  if c = d.openingMark then .quoted d.closingMark false
  else if c = '\'' ∨ c = '\x22' then .quoted c d.hasEscapes
  else if c = d.markSign then .mark [c]
  else .outside

/-- The mark that a character ends. -/
def ended? (d : Dialect) (place : Place) (c : Char) : Option String :=
  if d.continuesMark c then none else place.mark?

/-- The place behind a character. -/
def next (d : Dialect) : Place → Char → Place
  | .outside, c => enter d c
  | .quoted closing escapes, c =>
    if c = closing then .closed closing escapes
    else if escapes ∧ c = '\\' then .escaped closing
    else .quoted closing escapes
  | .escaped closing, _ => .quoted closing true
  | .closed closing escapes, c => if c = closing then .quoted closing escapes else enter d c
  | .mark read, c => if d.continuesMark c then .mark (read ++ [c]) else enter d c

end Place

/-- The marks in a text that is read from some place on. -/
def marksFrom (d : Dialect) : Place → List Char → List String
  | place, [] => place.mark?.toList
  | place, c :: cs => (place.ended? d c).toList ++ marksFrom d (place.next d c) cs

/-- The marks of the parameters of a statement. -/
def marks (d : Dialect) (sql : String) : List String := marksFrom d .outside sql.toList

/-- Whether no dialect gives a character a meaning of its own. -/
def isPlain (c : Char) : Bool :=
  c ∉ ['[', '\x60', '\x22', '\'', '@', '$', '?', ':']

/-- Whether all characters of a text are plain. -/
def isPlainText (s : String) : Bool := s.toList.all isPlain

/-- Whether a character ends whatever stands before it. -/
def isSeparator (c : Char) : Bool := c ∈ [' ', ')', ',', '.']

/-- Whether a text is over, or goes on with a separator. -/
def isBreak : List Char → Bool
  | [] => true
  | c :: _ => isSeparator c

/-- A text whose marks are the same whatever stands behind it. -/
def Scans (d : Dialect) (text : String) (found : List String) : Prop :=
  ∀ rest, marksFrom d .outside (text.toList ++ rest) = found ++ marksFrom d .outside rest

/-- A text whose marks are the same before every break. -/
def Reads (d : Dialect) (text : String) (found : List String) : Prop :=
  ∀ rest, isBreak rest →
    marksFrom d .outside (text.toList ++ rest) = found ++ marksFrom d .outside rest

section
variable {d : Dialect} {a b : String} {ms ns : List String}

/-- A plain character leads nowhere. -/
lemma enter_of_isPlain {c : Char} (h : isPlain c) : Place.enter d c = .outside := by
  simp only [isPlain, List.mem_cons, List.not_mem_nil, or_false, not_or, decide_eq_true_eq] at h
  obtain ⟨h1, h2, h3, h4, h5, h6, h7, h8⟩ := h
  cases d <;>
    simp [Place.enter, Dialect.openingMark, Dialect.markSign, h1, h2, h3, h4, h5, h6, h7, h8]

/-- A plain text has no marks. -/
lemma marksFrom_plain {cs : List Char} (h : cs.all isPlain) (rest : List Char) :
    marksFrom d .outside (cs ++ rest) = marksFrom d .outside rest := by
  induction cs with
  | nil => rfl
  | cons c cs ih =>
    simp only [List.all_cons, Bool.and_eq_true] at h
    simp only [List.cons_append, marksFrom, Place.ended?, Place.mark?, ite_self, Place.next,
      enter_of_isPlain h.1, Option.toList_none, List.nil_append]
    exact ih h.2

/-- No separator takes a closing quote back. -/
lemma marksFrom_closed {closing : Char} {escapes : Bool} {rest : List Char}
    (hc : isSeparator closing = false) (h : isBreak rest) :
    marksFrom d (.closed closing escapes) rest = marksFrom d .outside rest := by
  cases rest with
  | nil => rfl
  | cons c cs =>
    have ne : c ≠ closing := by
      rintro rfl
      exact Bool.false_ne_true (hc.symm.trans h)
    simp [marksFrom, Place.ended?, Place.mark?, Place.next, ne]

/-- A quoted name is read to its end. -/
lemma marksFrom_doubled (closing : Char) (cs rest : List Char) :
    marksFrom d (.quoted closing false) (Text.doubled closing cs ++ closing :: rest) =
      marksFrom d (.closed closing false) rest := by
  induction cs with
  | nil => simp [Text.doubled, marksFrom, Place.ended?, Place.mark?, Place.next]
  | cons c cs ih =>
    by_cases same : c = closing
    · simp [Text.doubled, marksFrom, Place.ended?, Place.mark?, Place.next, same, ih]
    · simp [Text.doubled, marksFrom, Place.ended?, Place.mark?, Place.next, same, ih]

lemma continuesMark_of_isSeparator {c : Char} (h : isSeparator c) : d.continuesMark c = false := by
  simp only [isSeparator, List.mem_cons, List.not_mem_nil, or_false, decide_eq_true_eq] at h
  rcases h with rfl | rfl | rfl | rfl <;> cases d <;> decide

/-- A mark is read to its end. -/
lemma marksFrom_mark {read cs rest : List Char} (hc : ∀ c ∈ cs, d.continuesMark c)
    (h : isBreak rest) :
    marksFrom d (.mark read) (cs ++ rest) =
      String.ofList (read ++ cs) :: marksFrom d .outside rest := by
  induction cs generalizing read with
  | nil =>
    cases rest with
    | nil => simp [marksFrom, Place.mark?]
    | cons c rest =>
      simp [marksFrom, Place.ended?, Place.mark?, Place.next, continuesMark_of_isSeparator h]
  | cons c cs ih =>
    have hd := hc c (List.mem_cons_self ..)
    have tail := @ih (read ++ [c]) fun c' h' => hc c' (List.mem_cons_of_mem c h')
    simp only [List.append_assoc, List.singleton_append] at tail
    simp [marksFrom, Place.ended?, Place.next, hd, tail]

/-- A plain text has no marks, whatever stands behind it. -/
lemma Scans.plain (h : isPlainText a = true) : Scans d a [] := marksFrom_plain h

/-- What stands behind a text that ends by itself is read for itself. -/
lemma Scans.append (ha : Scans d a ms) (hb : Scans d b ns) : Scans d (a ++ b) (ms ++ ns) := by
  intro rest
  rw [String.toList_append, List.append_assoc, ha, hb, List.append_assoc]

/-- What stands behind a text that ends by itself is read up to a break. -/
lemma Scans.append_reads (ha : Scans d a ms) (hb : Reads d b ns) :
    Reads d (a ++ b) (ms ++ ns) := by
  intro rest h
  rw [String.toList_append, List.append_assoc, ha, hb rest h, List.append_assoc]

lemma Scans.reads (ha : Scans d a ms) : Reads d a ms := fun rest _ => ha rest

/-- A text that begins with a separator ends the one before it. -/
lemma Reads.append {c : Char} {cs : List Char} (ha : Reads d a ms) (hb : Scans d b ns)
    (opens : b.toList = c :: cs) (hc : isSeparator c = true) : Scans d (a ++ b) (ms ++ ns) := by
  intro rest
  have stop : isBreak (b.toList ++ rest) := by
    rw [opens]
    exact hc
  rw [String.toList_append, List.append_assoc, ha _ stop, hb, List.append_assoc]

/-- A plain text before another one adds no mark. -/
lemma Reads.after_plain (h : isPlainText a = true) (hb : Reads d b ns) : Reads d (a ++ b) ns :=
  (Scans.plain h).append_reads hb

lemma Scans.append_plain (ha : Scans d a ms) (h : isPlainText b = true) : Scans d (a ++ b) ms := by
  have both := ha.append (Scans.plain h)
  rwa [List.append_nil] at both

/-- A plain text that begins with a separator ends the one before it and adds no mark. -/
lemma Reads.append_plain {c : Char} {cs : List Char} (ha : Reads d a ms)
    (h : isPlainText b = true) (opens : b.toList = c :: cs) (hc : isSeparator c = true) :
    Scans d (a ++ b) ms := by
  have both := ha.append (Scans.plain h) opens hc
  rwa [List.append_nil] at both

/-- A blank ends what stands before it. -/
lemma Reads.blank (ha : Reads d a ms) : Scans d (a ++ " ") ms :=
  ha.append_plain (by decide) (by decide : " ".toList = [' ']) rfl

lemma Reads.comma (ha : Reads d a ms) : Scans d (a ++ ", ") ms :=
  ha.append_plain (by decide) (by decide : ", ".toList = [',', ' ']) rfl

lemma Reads.parenthesis (ha : Reads d a ms) : Scans d (a ++ ")") ms :=
  ha.append_plain (by decide) (by decide : ")".toList = [')']) rfl

/-- A whole text ends with a break. -/
lemma Reads.marks (ha : Reads d a ms) : marks d a = ms := by
  have h := ha [] rfl
  rw [List.append_nil] at h
  exact h.trans (List.append_nil ms)

/-- There is no mark in a quoted name. -/
lemma Reads.quote (d : Dialect) (name : String) : Reads d (d.quote name) [] := by
  intro rest h
  have hc : isSeparator d.closingMark = false := by cases d <;> decide
  have body : marksFrom d (.quoted d.closingMark false)
      (Text.doubled d.closingMark name.toList ++ d.closingMark :: rest) =
      marksFrom d .outside rest :=
    (marksFrom_doubled ..).trans (marksFrom_closed hc h)
  simpa [Dialect.quote, Text.quote, marksFrom, Place.ended?, Place.mark?, Place.next, Place.enter]
    using body

/-- A mark is found. -/
lemma Reads.mark {cs : List Char} (hc : ∀ c ∈ cs, d.continuesMark c)
    (ha : a.toList = d.markSign :: cs) : Reads d a [a] := by
  intro rest h
  have enters : Place.enter d d.markSign = .mark [d.markSign] := by cases d <;> decide
  have same : a = String.ofList ([d.markSign] ++ cs) := by
    rw [← @String.ofList_toList a, ha]
    rfl
  have found := @marksFrom_mark d [d.markSign] cs rest hc h
  rw [← same] at found
  simpa [ha, marksFrom, Place.ended?, Place.mark?, Place.next, enters] using found

lemma Scans.column (ha : Scans d a []) (name : String) : Reads d (a ++ "." ++ d.quote name) [] :=
  (ha.append_plain (by decide : isPlainText "." = true)).append_reads (Reads.quote d name)

lemma isDigit_of_mem_toString {n : Nat} {c : Char} (h : c ∈ (toString n).toList) : c.isDigit := by
  refine Nat.isDigit_of_mem_toDigits (by decide) (by decide) (?_ : c ∈ Nat.toDigits 10 n)
  simpa [ToString.toString, Nat.repr] using h

/-- A digit is plain. -/
lemma isPlain_of_isDigit {c : Char} (h : c.isDigit) : isPlain c = true := by
  rw [isPlain, decide_eq_true_eq]
  intro special
  simp only [List.mem_cons, List.not_mem_nil, or_false] at special
  rcases special with rfl | rfl | rfl | rfl | rfl | rfl | rfl | rfl <;>
    exact absurd h (by decide)

/-- The digits of a number go on with every mark but that of MySQL. -/
lemma continuesMark_of_mem_toString {n : Nat} {c : Char} (hd : d ≠ .mySql)
    (h : c ∈ (toString n).toList) : d.continuesMark c := by
  have digit := isDigit_of_mem_toString h
  cases d with
  | mySql => exact absurd rfl hd
  | postgres => exact digit
  | sqlServer | sqlite | oracle => simp [Dialect.continuesMark, Char.isAlphanum, digit]

/-- The mark of a parameter is its sign and what a mark goes on with. -/
lemma placeholder_eq (d : Dialect) (index : Nat) :
    ∃ cs, (d.placeholder index).toList = d.markSign :: cs ∧ ∀ c ∈ cs, d.continuesMark c := by
  cases hd : d with
  | mySql => exact ⟨[], (by decide : "?".toList = ['?']), fun c h => absurd h List.not_mem_nil⟩
  | postgres =>
    refine ⟨(toString (index + 1)).toList, ?_, fun c h => ?_⟩
    · simp [Dialect.placeholder, Dialect.markSign]
    · exact continuesMark_of_mem_toString (by decide) h
  | sqlServer | sqlite | oracle =>
    refine ⟨'p' :: (toString index).toList, ?_, fun c h => ?_⟩
    · simp [Dialect.placeholder, Dialect.parameterName, Dialect.markSign]
    · rcases List.mem_cons.1 h with rfl | h
      · decide
      · exact continuesMark_of_mem_toString (by decide) h

lemma Reads.placeholder (d : Dialect) (index : Nat) :
    Reads d (d.placeholder index) [d.placeholder index] := by
  obtain ⟨cs, spelled, continues⟩ := placeholder_eq d index
  exact Reads.mark continues spelled

/-- There is no mark in the clause that names the escape character. -/
lemma Reads.likeEscape (d : Dialect) : Reads d d.likeEscape [] := by
  intro rest h
  have body : marksFrom d .outside (d.likeEscape.toList ++ rest) =
      marksFrom d (.closed '\'' d.hasEscapes) rest := by
    have plain : "ESCAPE '\\'".toList =
        ['E', 'S', 'C', 'A', 'P', 'E', ' ', '\'', '\\', '\''] := by decide
    have escaped : "ESCAPE '\\\\'".toList =
        ['E', 'S', 'C', 'A', 'P', 'E', ' ', '\'', '\\', '\\', '\''] := by decide
    cases d with
    | mySql =>
      rw [Dialect.likeEscape, escaped]
      rfl
    | sqlServer | postgres | sqlite | oracle =>
      rw [Dialect.likeEscape, plain]
      · rfl
      · decide
  exact body.trans (marksFrom_closed (by decide) h)

/-- The marks of several texts with separators between them are those of the texts. -/
lemma Reads.joined {separator : String} {c : Char} {cs : List Char} (texts : List String)
    (found : String → List String) (plain : isPlainText separator = true)
    (opens : separator.toList = c :: cs) (hc : isSeparator c = true)
    (h : ∀ t ∈ texts, Reads d t (found t)) :
    Reads d (Text.joined separator texts) (texts.flatMap found) := by
  fun_induction Text.joined separator texts with
  | case1 => exact (@Scans.plain d "" (by decide)).reads
  | case2 t =>
    rw [List.flatMap_singleton]
    exact h t (List.mem_singleton_self t)
  | case3 t t' rest ih =>
    have started := (h t (List.mem_cons_self ..)).append_plain plain opens hc
    rw [List.flatMap_cons]
    exact started.append_reads (ih fun u hu => h u (List.mem_cons_of_mem t hu))

/-- There is no mark in several texts if there is none in any of them. -/
lemma Reads.joined_nil {separator : String} {c : Char} {cs : List Char} {texts : List String}
    (plain : isPlainText separator = true) (opens : separator.toList = c :: cs)
    (hc : isSeparator c = true) (h : ∀ t ∈ texts, Reads d t []) :
    Reads d (Text.joined separator texts) [] := by
  have whole := Reads.joined texts (fun _ => []) plain opens hc h
  rwa [List.flatMap_eq_nil_iff.2 fun _ _ => rfl] at whole

end

end RelMap
