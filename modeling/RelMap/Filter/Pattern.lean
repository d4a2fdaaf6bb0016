import RelMap.Expr.Basic

/-!
# Patterns

Patterns that match a text literally: the wildcards of a pattern and its escape character are
escaped, and a wildcard stands where any text may come before or after.
-/

namespace RelMap.Pattern

/-- The escape character of patterns. -/
def escapeMark : Char := '\\'

/-- The wildcard for any text. -/
def anyText : Char := '%'

/-- The wildcard for any one character. -/
def anyChar : Char := '_'

/-- Whether a character means something in a pattern. -/
def isSpecial (c : Char) : Bool := c == escapeMark || c == anyText || c == anyChar

/-- Characters with an escape before each special one. -/
def escapeChars : List Char → List Char
  | [] => []
  | c :: cs => if isSpecial c then escapeMark :: c :: escapeChars cs else c :: escapeChars cs

/-- A text with an escape before each special character. -/
def escape (s : String) : String := String.ofList (escapeChars s.toList)

/-- The wildcards that a method puts before and after the text that it looks for. -/
def wildcards : Method → String × String
  | .startsWith => ("", "%")
  | .endsWith => ("%", "")
  | _ => ("%", "%")

/-- The pattern of the texts that contain, start with or end with a text. -/
def ofMethod (method : Method) (s : String) : String :=
  (wildcards method).1 ++ escape s ++ (wildcards method).2

end RelMap.Pattern
