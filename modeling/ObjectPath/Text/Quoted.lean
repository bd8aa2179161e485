import ObjectPath.Text.Visible

/-!
# Quoted text

A quoted text stands between two quotes of one kind. Inside, the quote, the backslash and the
five named controls are written with a backslash, and a character without a glyph of its own is
written by its code point, as in `\u{1b}`.
-/

namespace ObjectPath.Text

/-- The digits of `n` in base sixteen. -/
def hexDigits (n : Nat) : List Char := Nat.toDigits 16 n

/-- How a character is written inside quotes of the given kind. -/
def escapeChar (quote : Char) (c : Char) : List Char :=
  if c = '\x00' then ['\x5c', '0']
  else if c = '\t' then ['\x5c', 't']
  else if c = '\r' then ['\x5c', 'r']
  else if c = '\n' then ['\x5c', 'n']
  else if c = '\x5c' || c = quote then ['\x5c', c]
  else if isVisible c then [c]
  else ['\x5c', 'u', '\x7b'] ++ hexDigits c.toNat ++ ['\x7d']

/-- The text between two quotes of the given kind. -/
def enclose (quote : Char) (cs : List Char) : String :=
  String.ofList (quote :: cs.flatMap (escapeChar quote) ++ [quote])

/-- The text in double quotes. -/
def quoted (s : String) : String := enclose '\x22' s.toList

/-- The character in single quotes. -/
def quotedChar (c : Char) : String := enclose '\x27' [c]

end ObjectPath.Text
