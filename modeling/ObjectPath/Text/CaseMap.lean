import ObjectPath.Text.CaseTable

/-!
# Case conversion

Full upper and lower case of a text. Every character is replaced by its mapping, with one
exception that looks at its neighbours: a capital sigma that ends a word becomes `ς`, any other
becomes `σ`.
-/

namespace ObjectPath.Text

/-- The mapping of one character: its expansion if it has one, else the run that covers it,
    else the character itself. -/
def mapCase (expansions : List (Nat × List Nat)) (runs : List CaseRun) (c : Char) : List Char :=
  match expansions.lookup c.toNat with
  | some codes => codes.map Char.ofNat
  | none =>
    match runs.findSome? (·.image? c.toNat) with
    | some n => [Char.ofNat n]
    | none => [c]

/-- The uppercase form of one character. -/
def upperChar (c : Char) : List Char := mapCase upperExpansions upperRuns c

/-- The lowercase form of one character, away from the end of a word. -/
def lowerChar (c : Char) : List Char := mapCase lowerExpansions lowerRuns c

/-- Past the case-ignorable characters comes a cased one. -/
def reachesCased (cs : List Char) : Bool :=
  match cs.dropWhile caseIgnorableRanges.has with
  | c :: _ => casedRanges.has c
  | [] => false

/-- The lowercase of `rest`, where `before` holds the characters in front of it, nearest first.
    A capital sigma is final when a cased character precedes it and none follows. -/
def lowerFrom (before : List Char) : List Char → List Char
  | [] => []
  | c :: rest =>
    (if c = 'Σ' then
      [if reachesCased before && !reachesCased rest then 'ς' else 'σ']
    else lowerChar c) ++ lowerFrom (c :: before) rest

/-- The text in upper case. -/
def uppercase (s : String) : String := String.ofList (s.toList.flatMap upperChar)

/-- The text in lower case. -/
def lowercase (s : String) : String := String.ofList (lowerFrom [] s.toList)

end ObjectPath.Text
