import RelMap.Number.Shortest
import RelMap.Text.Case
import RelMap.Text.Part
import RelMap.Text.PrintableTable
import RelMap.Value.Basic

/-!
# Descriptions of values

How messages and listings show a value: its kind with its content in parentheses. A text stands
between quotes, with an escape in the place of every character that would not be seen.
-/

namespace RelMap

namespace Text

/-- Whether a character is shown as it is. -/
def isPrintable (c : Char) : Bool :=
  !inRanges unprintableRanges c && !inRanges extendingRanges c

/-- The escape of a character by its number. -/
def numberedEscape (c : Char) : List Char :=
  ['\\', 'u', '\x7b'] ++ Nat.toDigits 16 c.toNat ++ ['\x7d']

/-- A character as it is shown within quotes. -/
def shownChar (c : Char) : List Char :=
  match c with
  | '\x00' => ['\\', '0']
  | '\t' => ['\\', 't']
  | '\r' => ['\\', 'r']
  | '\n' => ['\\', 'n']
  | '\\' => ['\\', '\\']
  | '\x22' => ['\\', '\x22']
  | c => if isPrintable c then [c] else numberedEscape c

/-- A text as it is shown. -/
def shown (s : String) : String :=
  String.ofList ('\x22' :: s.toList.flatMap shownChar ++ ['\x22'])

end Text

namespace Value

/--
Floating-point numbers are shown without an exponent from a ten-thousandth below 10^16, and of two
equally near decimals the greater one is.
-/
def shownStyle : FloatStyle := ⟨-4, 16, false, .up⟩

/-- A floating-point number as it is shown. -/
def shownFloat (f : BinaryFormat) (d : Datum) : String :=
  match d with
  | .nan => "NaN"
  | .infinite negative => if negative then "-inf" else "inf"
  | .finite .. => (shownStyle.finite? f d).getD ""

/-- Several texts as they are shown in a list. -/
def shownList (items : List String) : String := "[" ++ Text.joined ", " items ++ "]"

/-- A kind with its content. -/
def shownContent (k : Kind) (content : String) : String := k.name ++ "(" ++ content ++ ")"

mutual

/-- The description of a value. -/
def describe : Value → String
  | .null => Kind.null.name
  | .bool b => shownContent .bool (if b then "true" else "false")
  | .int32 i => shownContent .int32 (toString i.toInt)
  | .int64 i => shownContent .int64 (toString i.toInt)
  | .float32 x => shownContent .float32 (shownFloat .single x.datum)
  | .float64 x => shownContent .float64 (shownFloat .double x.datum)
  | .string s => shownContent .string (Text.shown s)
  | .bytes content => shownContent .bytes (shownList (content.map fun b => toString b.toNat))
  | .timestamp t => shownContent .timestamp (toString t.toInt)
  | .uuid content => shownContent .uuid (shownList (content.toList.map fun b => toString b.toNat))
  | .list items => shownContent .list (shownList (describeAll items))

/-- The descriptions of several values. -/
def describeAll : List Value → List String
  | [] => []
  | v :: vs => describe v :: describeAll vs

end

end Value

end RelMap
