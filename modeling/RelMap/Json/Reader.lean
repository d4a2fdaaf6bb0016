import RelMap.Json.Numeral

/-!
# Reading documents

A text is read from the left into a tree, as far as it goes. Where it stops being a document the
tree says so: a value may be broken, and an array or an object may not be closed. What was read
before such a place is there, so that whoever takes the tree apart meets the first problem first.
-/

namespace RelMap.Json

/-- A document, as far as it could be read. -/
inductive Tree where
  | null
  | bool (b : Bool)
  | number (n : Numeral)
  /-- A text, or nothing where its escapes stand for half a character. -/
  | text (s : Option String)
  | array (items : List Tree) (closed : Bool)
  | object (fields : List (Option String × Tree)) (closed : Bool)
  /-- No value stands where one should. -/
  | broken

instance : Inhabited Tree := ⟨.broken⟩

/-- A tree and what follows it, or nothing where reading has stopped. -/
structure Reading (α : Type) where
  /-- What was read. -/
  value : α
  /-- What follows, if reading can go on. -/
  rest : Option (List Char)

/-- Whether a character may stand between the parts of a document. -/
def isSpace (c : Char) : Bool := c == ' ' || c == '\n' || c == '\t' || c == '\r'

/-- What follows the spaces. -/
def skipSpaces (cs : List Char) : List Char := cs.dropWhile isSpace

/-- The value of a hexadecimal digit. -/
def hexDigit? (c : Char) : Option Nat :=
  if '0' ≤ c ∧ c ≤ '9' then some (c.toNat - 48)
  else if 'a' ≤ c ∧ c ≤ 'f' then some (c.toNat - 87)
  else if 'A' ≤ c ∧ c ≤ 'F' then some (c.toNat - 55)
  else none

/-- The character of an escape of one letter. -/
def escaped? : Char → Option Char
  | '\x22' => some '\x22'
  | '\\' => some '\\'
  | '/' => some '/'
  | 'b' => some '\x08'
  | 'f' => some '\x0c'
  | 'n' => some '\n'
  | 'r' => some '\r'
  | 't' => some '\t'
  | _ => none

/-- Where reading stands within a text. -/
inductive TextState where
  /-- Between characters. -/
  | plain
  /-- Behind a backslash. -/
  | escape
  /-- Within an escape by number: the digits still owed, and the value of those before. -/
  | hex (owed value : Nat)

/-- A character of a text, or the number of an escape. -/
inductive TextUnit where
  | char (c : Char)
  | unit (n : Nat)

/-- The units of a text up to its closing quote, and what follows it. -/
def textUnits : TextState → List Char → Option (List TextUnit × List Char)
  | _, [] => none
  | .plain, c :: cs =>
    if c = '\x22' then some ([], cs)
    else if c = '\\' then textUnits .escape cs
    else if c.toNat < 0x20 then none
    else (textUnits .plain cs).map fun (us, rest) => (.char c :: us, rest)
  | .escape, c :: cs =>
    if c = 'u' then textUnits (.hex 4 0) cs
    else
      match escaped? c with
      | some e => (textUnits .plain cs).map fun (us, rest) => (.char e :: us, rest)
      | none => none
  | .hex owed value, c :: cs =>
    match hexDigit? c with
    | none => none
    | some d =>
      if owed ≤ 1 then
        (textUnits .plain cs).map fun (us, rest) => (.unit (16 * value + d) :: us, rest)
      else textUnits (.hex (owed - 1) (16 * value + d)) cs

/-- The characters of units; two numbers may stand for the halves of one character. -/
def unitChars : List TextUnit → Option (List Char)
  | [] => some []
  | .char c :: us => (unitChars us).map (c :: ·)
  | .unit n :: us =>
    if n < 0xd800 ∨ 0xdfff < n then (unitChars us).map (Char.ofNat n :: ·)
    else
      match us with
      | .unit m :: rest =>
        if n < 0xdc00 ∧ 0xdc00 ≤ m ∧ m ≤ 0xdfff then
          (unitChars rest).map (Char.ofNat (0x10000 + (n - 0xd800) * 0x400 + (m - 0xdc00)) :: ·)
        else none
      | _ => none

/-- A text behind its opening quote. -/
def readText (cs : List Char) : Option (Option String × List Char) :=
  (textUnits .plain cs).map fun (us, rest) => ((unitChars us).map String.ofList, rest)

/-- Whether a character is a decimal digit. -/
def isDigit (c : Char) : Bool := decide ('0' ≤ c) && decide (c ≤ '9')

/-- The digits at the start, and what follows them. -/
def readDigits (cs : List Char) : List Nat × List Char :=
  ((cs.takeWhile isDigit).map fun c => c.toNat - 48, cs.dropWhile isDigit)

/-- The digits behind a point, if there is one; at least one has to be there. -/
def readFraction (cs : List Char) : Option (Option (List Nat) × List Char) :=
  match cs with
  | '.' :: rest =>
    let (ds, rest) := readDigits rest
    if ds.isEmpty then none else some (some ds, rest)
  | _ => some (none, cs)

/-- The sign of an exponent. -/
def readSign : List Char → Bool × List Char
  | '+' :: rest => (false, rest)
  | '-' :: rest => (true, rest)
  | cs => (false, cs)

/-- The exponent, if there is one; it has at least one digit. -/
def readExponent (cs : List Char) : Option (Option (Bool × List Nat) × List Char) :=
  match cs with
  | 'e' :: rest | 'E' :: rest =>
    let (negative, rest) := readSign rest
    let (ds, rest) := readDigits rest
    if ds.isEmpty then none else some (some (negative, ds), rest)
  | _ => some (none, cs)

/-- A number behind its sign; only a zero on its own begins with a zero. -/
def readNumber (negative : Bool) (cs : List Char) : Option (Numeral × List Char) := do
  let (whole, rest) := readDigits cs
  guard (!whole.isEmpty && (whole.length == 1 || whole.head? != some 0))
  let (fraction, rest) ← readFraction rest
  let (exponent, rest) ← readExponent rest
  return ({ negative, whole, fraction, exponent }, rest)

/-- What follows a word, if it stands at the start. -/
def word? (word : String) (cs : List Char) : Option (List Char) :=
  if word.toList.isPrefixOf cs then some (cs.drop word.length) else none

/-- Nothing can be read. -/
def stopped : Reading Tree := ⟨.broken, none⟩

/-- A value that has been read, if it has been. -/
def finished {α : Type} (make : α → Tree) : Option (α × List Char) → Reading Tree
  | some (a, rest) => ⟨make a, some rest⟩
  | none => stopped

/-- A value without parts. -/
def readAtom (cs : List Char) : Reading Tree :=
  match cs with
  | '\x22' :: rest => finished .text (readText rest)
  | '-' :: rest => finished .number (readNumber true rest)
  | 'n' :: _ => finished (fun _ => .null) ((word? "null" cs).map (((), ·)))
  | 't' :: _ => finished (fun _ => .bool true) ((word? "true" cs).map (((), ·)))
  | 'f' :: _ => finished (fun _ => .bool false) ((word? "false" cs).map (((), ·)))
  | _ => finished .number (readNumber false cs)

mutual

/-- A value; the fuel bounds the depth and the number of its parts. -/
def readValue : Nat → List Char → Reading Tree
  | 0, _ => stopped
  | fuel + 1, cs =>
    match skipSpaces cs with
    | '[' :: rest =>
      match skipSpaces rest with
      | ']' :: rest => ⟨.array [] true, some rest⟩
      | rest =>
        let r := readItems fuel rest
        ⟨.array r.value r.rest.isSome, r.rest⟩
    | '\x7b' :: rest =>
      match skipSpaces rest with
      | '\x7d' :: rest => ⟨.object [] true, some rest⟩
      | rest =>
        let r := readFields fuel rest
        ⟨.object r.value r.rest.isSome, r.rest⟩
    | rest => readAtom rest

/-- The items of an array, of which there is at least one, and its end. -/
def readItems : Nat → List Char → Reading (List Tree)
  | 0, _ => ⟨[], none⟩
  | fuel + 1, cs =>
    let item := readValue fuel cs
    match item.rest.map skipSpaces with
    | some (',' :: rest) =>
      let more := readItems fuel rest
      ⟨item.value :: more.value, more.rest⟩
    | some (']' :: rest) => ⟨[item.value], some rest⟩
    | _ => ⟨[item.value], none⟩

/-- The fields of an object, of which there is at least one, and its end. -/
def readFields : Nat → List Char → Reading (List (Option String × Tree))
  | 0, _ => ⟨[], none⟩
  | fuel + 1, cs =>
    match skipSpaces cs with
    | '\x22' :: rest =>
      match readText rest with
      | none => ⟨[], none⟩
      | some (name, rest) =>
        match skipSpaces rest with
        | ':' :: rest =>
          let value := readValue fuel rest
          match value.rest.map skipSpaces with
          | some (',' :: rest) =>
            let more := readFields fuel rest
            ⟨(name, value.value) :: more.value, more.rest⟩
          | some ('\x7d' :: rest) => ⟨[(name, value.value)], some rest⟩
          | _ => ⟨[(name, value.value)], none⟩
        | _ => ⟨[(name, .broken)], none⟩
    | _ => ⟨[], none⟩

end

/-- A whole text as a document. -/
structure Document where
  /-- The value, as far as it could be read. -/
  value : Tree
  /-- Whether nothing but spaces follows it. -/
  ended : Bool

/-- The document of a text. -/
def read (s : String) : Document :=
  let cs := s.toList
  let r := readValue (2 * cs.length + 2) cs
  ⟨r.value, match r.rest with | some rest => (skipSpaces rest).isEmpty | none => false⟩

mutual

/-- Whether a tree was read to its end. -/
def Tree.isIntact : Tree → Bool
  | .array items closed => closed && allIntact items
  | .object fields closed => closed && fieldsIntact fields
  | .broken => false
  | .null => true
  | .bool _ => true
  | .number _ => true
  | .text _ => true

/-- Whether several trees were read to their ends. -/
def allIntact : List Tree → Bool
  | [] => true
  | t :: ts => t.isIntact && allIntact ts

/-- Whether the values of several fields were read to their ends. -/
def fieldsIntact : List (Option String × Tree) → Bool
  | [] => true
  | (_, t) :: fs => t.isIntact && fieldsIntact fs

end

end RelMap.Json
