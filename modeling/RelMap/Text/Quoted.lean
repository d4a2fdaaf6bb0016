/-!
# Quoted texts

A quoted text stands between an opening and a closing mark, and a closing mark inside it is written
twice.
-/

namespace RelMap.Text

/-- Each occurrence of a mark written twice. -/
def doubled (mark : Char) : List Char → List Char
  | [] => []
  | c :: cs => if c = mark then c :: c :: doubled mark cs else c :: doubled mark cs

/-- A text between two marks. -/
def quote (opening closing : Char) (s : String) : String :=
  String.ofList (opening :: doubled closing s.toList ++ [closing])

/-- The quoted part at the start of what follows an opening mark, and the rest behind it. -/
def unquoteChars (closing : Char) : List Char → Option (List Char × List Char)
  | [] => none
  | [c] => if c = closing then some ([], []) else none
  | c :: d :: rest =>
    if c = closing then
      if d = closing then (unquoteChars closing rest).map fun (s, r) => (c :: s, r)
      else some ([], d :: rest)
    else (unquoteChars closing (d :: rest)).map fun (s, r) => (c :: s, r)

/-- The quoted text at the start of another, and what stands behind it. -/
def unquote? (opening closing : Char) (s : String) : Option (String × String) :=
  match s.toList with
  | [] => none
  | c :: cs =>
    if c = opening then
      (unquoteChars closing cs).map fun (t, r) => (String.ofList t, String.ofList r)
    else none

end RelMap.Text
