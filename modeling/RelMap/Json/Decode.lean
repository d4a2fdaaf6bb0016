import RelMap.Fault
import RelMap.Json.Reader

/-!
# Taking documents apart

What a tree has to be for a value of some type to be read from it. Fields of a structure are found
by name, or by place when the structure is written as an array; what is not asked for is left out,
and nothing may be given twice.
-/

namespace RelMap.Json

/-- Why no value could be read from a document. -/
inductive DocumentError where
  /-- The text is no document, or not one of the wanted form. -/
  | unreadable
  /-- A mapping in it has a fault. -/
  | invalidMapping (error : Error)
  /-- The mappings in it do not fit together. -/
  | invalidRegistry (error : Error)
  deriving DecidableEq

/-- A value read from a document. -/
abbrev Decoded (α : Type) := Except DocumentError α

/-- Fail as the document is not of the wanted form. -/
def unreadable {α : Type} : Decoded α := .error .unreadable

/-- A text. -/
def text : Tree → Decoded String
  | .text (some s) => .ok s
  | _ => unreadable

/-- A boolean. -/
def bool : Tree → Decoded Bool
  | .bool b => .ok b
  | _ => unreadable

/-- A number. -/
def number : Tree → Decoded Number
  | .number n =>
    match n.read with
    | some x => .ok x
    | none => unreadable
  | _ => unreadable

/-- An integer between two bounds, the upper one excluded. -/
def integer (low high : Int) (t : Tree) : Decoded Int := do
  match ← number t with
  | .integer i => if low ≤ i ∧ i < high then .ok i else unreadable
  | .float _ => unreadable

/-- A natural number of 64 bits. -/
def natural (t : Tree) : Decoded Nat := do
  let i ← integer 0 0x10000000000000000 t
  return i.toNat

/-- A double; an integer is one too. -/
def double (t : Tree) : Decoded Binary64 := do
  match ← number t with
  | .integer i => return Binary64.ofInt i
  | .float x => return x

/-- A value or null. -/
def optional {α : Type} (decode : Tree → Decoded α) : Tree → Decoded (Option α)
  | .null => .ok none
  | t => (decode t).map some

/-- Several values, one after the other. -/
def several {α : Type} (decode : Tree → Decoded α) : List Tree → Decoded (List α)
  | [] => .ok []
  | t :: ts => do
    let a ← decode t
    let more ← several decode ts
    return a :: more

/-- The values of an array, and then its end. -/
def list {α : Type} (decode : Tree → Decoded α) : Tree → Decoded (List α)
  | .array items closed => do
    let as ← several decode items
    if closed then .ok as else unreadable
  | _ => unreadable

/-- One of several words, which may also be the only field of an object, with null as its value. -/
def oneOf {α : Type} (ofName? : String → Option α) : Tree → Decoded α
  | .text (some s) | .object [(some s, .null)] true =>
    match ofName? s with
    | some a => .ok a
    | none => unreadable
  | _ => unreadable

/-- The fields of a structure that were given. -/
abbrev Fields := List (String × Tree)

/-- The named fields of an object, none of them twice and all others whole. -/
def namedFields (names : List String) (found : Fields) :
    List (Option String × Tree) → Decoded Fields
  | [] => .ok found
  | (none, _) :: _ => unreadable
  | (some name, t) :: rest =>
    if name ∈ names then
      if name ∈ found.map (·.1) then unreadable
      else namedFields names (found ++ [(name, t)]) rest
    else if t.isIntact then namedFields names found rest
    else unreadable

/-- The fields of a structure whose fields are declared in the given order. -/
def fields (names : List String) : Tree → Decoded Fields
  | .object given closed => do
    let found ← namedFields names [] given
    if closed then .ok found else unreadable
  | .array items closed =>
    if closed ∧ items.length ≤ names.length then .ok (names.zip items) else unreadable
  | _ => unreadable

/-- A field that has to be given. -/
def required {α : Type} (given : Fields) (name : String) (decode : Tree → Decoded α) : Decoded α :=
  match given.lookup name with
  | some t => decode t
  | none => unreadable

/-- A field that has a default. -/
def withDefault {α : Type} (given : Fields) (name : String) (decode : Tree → Decoded α)
    (default : α) : Decoded α :=
  match given.lookup name with
  | some t => decode t
  | none => .ok default

/-- The value of a whole text, behind which nothing may follow. -/
def whole {α : Type} (decode : Tree → Decoded α) (s : String) : Decoded α := do
  let document := read s
  let a ← decode document.value
  if document.ended then .ok a else unreadable

end RelMap.Json
