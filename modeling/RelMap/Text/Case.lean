import RelMap.Text.CaseTable

/-!
# Upper and lower case of texts

The case mappings of whole texts. Some characters become several, and a capital sigma becomes a
final one where a word ends: a character with case comes before it and none after it, those that
do not end a word left out.
-/

namespace RelMap.Text

/-- Whether a character lies in one of several ranges of code points. -/
def inRanges (ranges : List (Nat × Nat)) (c : Char) : Bool :=
  ranges.any fun r => decide (r.1 ≤ c.toNat) && decide (c.toNat ≤ r.2)

/-- Whether a character has case. -/
def isCased (c : Char) : Bool := inRanges casedRanges c

/-- Whether a character does not end a word. -/
def isCaseIgnorable (c : Char) : Bool := inRanges caseIgnorableRanges c

/-- A character mapped through runs and expansions, itself where it is in neither. -/
def mapCase (runs : List CaseRun) (expansions : List (Nat × List Nat)) (c : Char) : List Char :=
  match runs.find? (·.covers c.toNat) with
  | some r => [Char.ofNat ((c.toNat : Int) + r.shift).toNat]
  | none =>
    match expansions.find? (·.1 == c.toNat) with
    | some (_, cs) => cs.map Char.ofNat
    | none => [c]

/-- The lowercase form of a character on its own. -/
def lowerChar (c : Char) : List Char := mapCase lowercaseRuns lowercaseExpansions c

/-- The uppercase form of a character. -/
def upperChar (c : Char) : List Char := mapCase uppercaseRuns uppercaseExpansions c

/-- Whether the first character that could end a word has case. -/
def meetsCased (cs : List Char) : Bool :=
  match cs.dropWhile isCaseIgnorable with
  | [] => false
  | c :: _ => isCased c

/-- The capital sigma. -/
def capitalSigma : Char := Char.ofNat 0x3a3

/-- The small sigma within a word. -/
def smallSigma : Char := Char.ofNat 0x3c3

/-- The small sigma at the end of a word. -/
def finalSigma : Char := Char.ofNat 0x3c2

/-- The lowercase form of a text that follows the given characters, nearest first. -/
def lowerAfter (before : List Char) : List Char → List Char
  | [] => []
  | c :: rest =>
    let mapped :=
      if c = capitalSigma then
        [if meetsCased before && !meetsCased rest then finalSigma else smallSigma]
      else lowerChar c
    mapped ++ lowerAfter (c :: before) rest

/-- The lowercase form of characters. -/
def lowerChars (cs : List Char) : List Char := lowerAfter [] cs

/-- The lowercase form of a text. -/
def lowercase (s : String) : String := String.ofList (lowerChars s.toList)

/-- The uppercase form of a text. -/
def uppercase (s : String) : String := String.ofList (s.toList.flatMap upperChar)

end RelMap.Text
