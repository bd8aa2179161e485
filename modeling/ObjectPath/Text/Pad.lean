/-!
# Padding

Filling a text up to a width with blanks in front of it, behind it, or on both sides. A text
that is too wide is left as it is.
-/

namespace ObjectPath.Text

/-- So many blanks. -/
def blanks (n : Nat) : String := String.ofList (List.replicate n ' ')

/-- The text at the right end of the width. -/
def padStart (width : Nat) (s : String) : String := blanks (width - s.length) ++ s

/-- The text at the left end of the width. -/
def padEnd (width : Nat) (s : String) : String := s ++ blanks (width - s.length)

/-- The text in the middle of the width; an odd blank goes behind it. -/
def padBoth (width : Nat) (s : String) : String :=
  let missing := width - s.length
  blanks (missing / 2) ++ s ++ blanks (missing - missing / 2)

end ObjectPath.Text
