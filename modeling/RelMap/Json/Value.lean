import RelMap.Json.Decode
import RelMap.Number.Shortest
import RelMap.Value.Basic

/-!
# Values as documents

A value is written as an object with one field, which is named for the kind of the value, and null
as the name of its kind. Documents are nested no deeper than a fixed bound.
-/

namespace RelMap.Json

/-- How many arrays and objects may lie in one another, and one. -/
def depthLimit : Nat := 128

/-- A byte. -/
def byte (t : Tree) : Decoded UInt8 := do
  let i ← integer 0 256 t
  return UInt8.ofNat i.toNat

/-- A number of the single format; an integer is rounded to it directly. -/
def single (t : Tree) : Decoded Binary32 := do
  match ← number t with
  | .integer i => return Binary32.ofInt i
  | .float x => return x.toBinary32

/-- An integer of 64 bits with a sign. -/
def wide (t : Tree) : Decoded Int64 :=
  (integer (-0x8000000000000000) 0x8000000000000000 t).map Int64.ofInt

/-- Sixteen bytes. -/
def sixteenBytes (t : Tree) : Decoded (Vector UInt8 16) := do
  let content ← list byte t
  if h : content.toArray.size = 16 then .ok ⟨content.toArray, h⟩ else unreadable

/-- The content of a value of a kind that holds no list. -/
def flatValue (name : String) (t : Tree) : Decoded Value :=
  match name with
  | "Null" => match t with | .null => .ok .null | _ => unreadable
  | "Bool" => (bool t).map .bool
  | "Int32" => (integer (-0x80000000) 0x80000000 t).map fun i => .int32 (Int32.ofInt i)
  | "Int64" => (wide t).map .int64
  | "Float32" => (single t).map .float32
  | "Float64" => (double t).map .float64
  | "String" => (text t).map .string
  | "Timestamp" => (wide t).map .timestamp
  | _ => unreadable

/-- A value in a document that may be nested so deep. -/
def value : Nat → Tree → Decoded Value
  | _, .text (some "Null") => .ok .null
  | depth + 3, .object [(some name, t)] true =>
    match name with
    | "Bytes" => (list byte t).map .bytes
    | "Uuid" => (sixteenBytes t).map .uuid
    | "List" => (list (value (depth + 1)) t).map .list
    | name => flatValue name t
  | 2, .object [(some name, t)] true => flatValue name t
  | _, _ => unreadable

/-- The value of a text. -/
def readValueText (s : String) : Decoded Value := whole (value depthLimit) s

/-- How floating-point numbers of the single format are written. -/
def singleStyle : FloatStyle := ⟨-6, 13, true, .even⟩

/-- How floating-point numbers of the double format are written. -/
def doubleStyle : FloatStyle := ⟨-5, 16, true, .even⟩

/-- The hexadecimal digit of a number below sixteen. -/
def hexDigit (n : Nat) : Char := if n < 10 then Char.ofNat (48 + n) else Char.ofNat (87 + n)

/-- A character within a text: quotes, backslashes and controls are escaped. -/
def writeChar (c : Char) : List Char :=
  match c with
  | '\x22' => ['\\', '\x22']
  | '\\' => ['\\', '\\']
  | '\x08' => ['\\', 'b']
  | '\x0c' => ['\\', 'f']
  | '\n' => ['\\', 'n']
  | '\r' => ['\\', 'r']
  | '\t' => ['\\', 't']
  | c =>
    if c.toNat < 0x20 then ['\\', 'u', '0', '0', hexDigit (c.toNat / 16), hexDigit (c.toNat % 16)]
    else [c]

/-- A text between quotes. -/
def writeText (s : String) : String :=
  String.ofList ('\x22' :: s.toList.flatMap writeChar ++ ['\x22'])

/-- An array of texts that are documents. -/
def writeArray (items : List String) : String := "[" ++ Text.joined "," items ++ "]"

/-- An object with one field. -/
def writeField (name content : String) : String :=
  "\x7b" ++ writeText name ++ ":" ++ content ++ "\x7d"

/-- A floating-point number, and null for those that are not finite. -/
def writeFloat (style : FloatStyle) (f : BinaryFormat) (d : Datum) : String :=
  (style.finite? f d).getD "null"

/-- Bytes as an array of numbers. -/
def writeBytes (content : List UInt8) : String :=
  writeArray (content.map fun b => toString b.toNat)

mutual

/-- The text of a value, without spaces. -/
def writeValue : Value → String
  | .null => writeText "Null"
  | .bool b => writeField "Bool" (if b then "true" else "false")
  | .int32 i => writeField "Int32" (toString i.toInt)
  | .int64 i => writeField "Int64" (toString i.toInt)
  | .float32 x => writeField "Float32" (writeFloat singleStyle .single x.datum)
  | .float64 x => writeField "Float64" (writeFloat doubleStyle .double x.datum)
  | .string s => writeField "String" (writeText s)
  | .bytes content => writeField "Bytes" (writeBytes content)
  | .timestamp t => writeField "Timestamp" (toString t.toInt)
  | .uuid content => writeField "Uuid" (writeBytes content.toList)
  | .list items => writeField "List" (writeArray (writeValues items))

/-- The texts of several values. -/
def writeValues : List Value → List String
  | [] => []
  | v :: vs => writeValue v :: writeValues vs

end

end RelMap.Json
