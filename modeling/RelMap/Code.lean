import RelMap.Hash
import RelMap.Value.Basic

/-!
# Flat codes

A key of a cache is written out as a flat sequence of tokens, and its hash is that of their bytes.
Texts end with a stop and sequences begin with their length, so that no code runs into the next one.
-/

namespace RelMap

/-- One item of a code. -/
inductive Token where
  /-- Which alternative of a type follows. -/
  | tag (n : Nat)
  /-- How many items follow. -/
  | count (n : Nat)
  | flag (b : Bool)
  | byte (b : UInt8)
  | half (w : UInt32)
  | word (w : UInt64)
  | char (c : Char)
  /-- The end of a text. -/
  | stop
  deriving DecidableEq, Repr

/-- The bytes of a token: eight for a number, and those of its encoding for a character. -/
def Token.bytes : Token → List UInt8
  | .tag n => bytesOfWord 8 (UInt64.ofNat n)
  | .count n => bytesOfWord 8 (UInt64.ofNat n)
  | .flag b => [if b then 1 else 0]
  | .byte b => [b]
  | .half w => bytesOfWord 4 w.toUInt64
  | .word w => bytesOfWord 8 w
  | .char c => String.utf8EncodeChar c
  | .stop => [0xff]

/-- A sequence of tokens. -/
abbrev Code := List Token

namespace Code

/-- The code of a text: its characters and a stop. -/
def ofString (s : String) : Code := s.toList.map .char ++ [.stop]

/-- The code of bytes: their number and each of them. -/
def ofBytes (content : List UInt8) : Code := .count content.length :: content.map .byte

/-- The bytes of a code: those of its tokens, one after the other. -/
def bytes (code : Code) : List UInt8 := code.flatMap Token.bytes

/-- The hash of a code. -/
def hash (code : Code) : UInt64 := hashBytes code.bytes

end Code

/-- The number of a kind in codes. -/
def Kind.number : Kind → Nat
  | .null => 0
  | .bool => 1
  | .int32 => 2
  | .int64 => 3
  | .float32 => 4
  | .float64 => 5
  | .string => 6
  | .bytes => 7
  | .timestamp => 8
  | .uuid => 9
  | .list => 10

namespace Value

mutual

/-- The code of a value: its kind, and then its content. -/
def code : Value → Code
  | .null => [.tag Kind.null.number]
  | .bool b => [.tag Kind.bool.number, .flag b]
  | .int32 i => [.tag Kind.int32.number, .half i.toUInt32]
  | .int64 i => [.tag Kind.int64.number, .word i.toUInt64]
  | .float32 x => [.tag Kind.float32.number, .half x.bits]
  | .float64 x => [.tag Kind.float64.number, .word x.bits]
  | .string s => .tag Kind.string.number :: Code.ofString s
  | .bytes content => .tag Kind.bytes.number :: Code.ofBytes content
  | .timestamp t => [.tag Kind.timestamp.number, .word t.toUInt64]
  | .uuid content => .tag Kind.uuid.number :: Code.ofBytes content.toList
  | .list items => .tag Kind.list.number :: .count items.length :: codeList items

/-- The codes of several values, one after the other. -/
def codeList : List Value → Code
  | [] => []
  | v :: vs => code v ++ codeList vs

end

/-- The hash of a value. -/
def hash (v : Value) : UInt64 := v.code.hash

end Value

end RelMap
