/-!
# Parts of texts

Whether a text holds another, where it is cut, and how pieces are joined.
-/

namespace RelMap.Text

/-- Whether the second sequence occurs in the first. -/
def containsChars : List Char → List Char → Bool
  | [], part => part.isEmpty
  | c :: cs, part => part.isPrefixOf (c :: cs) || containsChars cs part

/-- Whether a text contains another. -/
def contains (s part : String) : Bool := containsChars s.toList part.toList

/-- Whether a text begins with another. -/
def startsWith (s part : String) : Bool := part.toList.isPrefixOf s.toList

/-- Whether a text ends with another. -/
def endsWith (s part : String) : Bool := part.toList.isSuffixOf s.toList

/-- The pieces between the occurrences of a character, one more than there are occurrences. -/
def splitChars (mark : Char) : List Char → List (List Char)
  | [] => [[]]
  | c :: cs =>
    if c = mark then [] :: splitChars mark cs
    else
      match splitChars mark cs with
      | [] => [[c]]
      | piece :: pieces => (c :: piece) :: pieces

/-- The pieces of a text between the occurrences of a character. -/
def split (mark : Char) (s : String) : List String :=
  (splitChars mark s.toList).map String.ofList

/-- What comes before and after the first occurrence of a part, if it occurs. -/
def cutChars (part : List Char) : List Char → Option (List Char × List Char)
  | [] => if part.isEmpty then some ([], []) else none
  | c :: cs =>
    if part.isPrefixOf (c :: cs) then some ([], (c :: cs).drop part.length)
    else (cutChars part cs).map fun (before, after) => (c :: before, after)

/-- A text cut at the first occurrence of a part. -/
def cut? (part s : String) : Option (String × String) :=
  (cutChars part.toList s.toList).map fun (before, after) =>
    (String.ofList before, String.ofList after)

/-- Texts one after the other with a separator between them. -/
def joined (separator : String) : List String → String
  | [] => ""
  | [s] => s
  | s :: t :: rest => s ++ separator ++ joined separator (t :: rest)

end RelMap.Text
