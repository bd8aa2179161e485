import ObjectPath.Text.Blank
import ObjectPath.Text.Name

/-!
# Tokens of source texts

Types and paths in source items are texts of the language that the items are written in.
`SourceToken.ofText?` cuts such a text into names, lifetimes, literals, brackets and marks, and
drops its blanks and comments. A text cannot be cut if something in it is none of these, or if
its brackets do not match.

A `Lexeme` tells how many characters go with the first one, so every cut makes the text shorter.
-/

namespace ObjectPath

/-- The brackets that must match. -/
inductive SourceBracket where
  | parenthesis
  | square
  | curly
deriving DecidableEq

/-- A token of a source text. A mark is one character, joint if another mark follows at once. -/
inductive SourceToken where
  | name (text : String)
  | lifetime (word : String)
  | literal (text : String)
  | opening (bracket : SourceBracket)
  | closing (bracket : SourceBracket)
  | mark (symbol : Char) (joint : Bool)
deriving DecidableEq

/-- The opening and the closing character. -/
def SourceBracket.ends : SourceBracket → Char × Char
  | parenthesis => ('(', ')')
  | square => ('[', ']')
  | curly => ('\x7b', '\x7d')

/-- All kinds of brackets. -/
def SourceBracket.all : List SourceBracket := [parenthesis, square, curly]

/-- What is cut off at one place: a token, or nothing for blanks and comments, and how many
    characters go with it after the first. -/
structure Lexeme where
  token : Option SourceToken
  extra : Nat

namespace Lexeme

/-! ## Comments -/

/-- The length of a comment between `/*` and `*/`; `depth` counts the comments that are open. -/
def blockLength? (depth : Nat) : List Char → Option Nat
  | '/' :: '*' :: rest => (blockLength? (depth + 1) rest).map (· + 2)
  | '*' :: '/' :: rest =>
    if depth ≤ 1 then some 2 else (blockLength? (depth - 1) rest).map (· + 2)
  | _ :: rest => (blockLength? depth rest).map (· + 1)
  | [] => none

/-- The length of the comment in front of the text: none if no comment begins there, or if it
    does not end. -/
def commentLength? (cs : List Char) : Option Nat :=
  match cs with
  | '/' :: '/' :: _ => some (cs.takeWhile (· ≠ '\n')).length
  | '/' :: '*' :: _ => blockLength? 0 cs
  | _ => none

/-- The comment documents what follows or encloses it, and so is more than a blank. -/
def documents (cs : List Char) : Bool :=
  match cs with
  | '/' :: '/' :: '!' :: _ | '/' :: '*' :: '!' :: _ => true
  | '/' :: '/' :: '/' :: rest => rest.head? ≠ some '/'
  | '/' :: '*' :: '*' :: rest => rest.head? ≠ some '*' ∧ rest.head? ≠ some '/'
  | _ => false

/-! ## Literals -/

/-- The character is a digit of the given base. -/
def isDigitOf (base : Nat) (c : Char) : Bool :=
  let n := c.toNat
  if c.isDigit then n < 48 + base
  else if c.isLower then n < 87 + base
  else c.isUpper && n < 55 + base

/-- The number that hexadecimal digits stand for. -/
def hexValue (digits : List Char) : Nat :=
  let digit (c : Char) : Nat := c.toNat - if c.isDigit then 48 else if c.isLower then 87 else 55
  digits.foldl (fun n c => 16 * n + digit c) 0

/-- The length of an escaped code point behind its `u`. -/
def codePointLength? (cs : List Char) : Option Nat :=
  let inside := cs.drop 1 |>.takeWhile fun c => isDigitOf 16 c || c == '_'
  let digits := inside.filter (· ≠ '_')
  if cs.head? = some '\x7b' ∧ cs[inside.length + 1]? = some '\x7d' ∧ inside.head? ≠ some '_' ∧
      digits ≠ [] ∧ digits.length ≤ 6 ∧ (hexValue digits).isValidChar then
    some (inside.length + 2)
  else none

/-- The length of an escape behind its backslash. In texts of bytes a code point has no escape,
    and a byte may be larger than those of ASCII. -/
def escapeLength? (bytes : Bool) : List Char → Option Nat
  | 'x' :: a :: b :: _ =>
    if isDigitOf (if bytes then 16 else 8) a ∧ isDigitOf 16 b then some 3 else none
  | 'u' :: rest => if bytes then none else (codePointLength? rest).map (· + 1)
  | c :: _ =>
    if ['n', 'r', 't', '0', '\n', '\x5c', '\x22', '\x27'].contains c then some 1 else none
  | [] => none

/-- A carriage return in front of `rest` stands alone, which no text may hold. -/
def isLoneReturn (c : Char) (rest : List Char) : Bool := c == '\r' && rest.head? ≠ some '\n'

/-- The length of the rest of a quoted text, its closing quote included; `skip` characters in
    front of it belong to an escape. -/
def quotedLength? (bytes : Bool) (skip : Nat) : List Char → Option Nat
  | [] => none
  | c :: rest =>
    match skip with
    | n + 1 => (quotedLength? bytes n rest).map (· + 1)
    | 0 =>
      if c = '\x22' then some 1
      else if c = '\x5c' then
        (escapeLength? bytes rest).bind fun n => (quotedLength? bytes n rest).map (· + 1)
      else if isLoneReturn c rest ∨ bytes ∧ 128 ≤ c.toNat then none
      else (quotedLength? bytes 0 rest).map (· + 1)

/-- The length of the rest of a raw text, which ends at a quote and the given number of `#`. -/
def rawLength? (bytes : Bool) (hashes : Nat) : List Char → Option Nat
  | [] => none
  | c :: rest =>
    if c = '\x22' ∧ rest.take hashes = List.replicate hashes '#' then some (hashes + 1)
    else if isLoneReturn c rest ∨ bytes ∧ 128 ≤ c.toNat then none
    else (rawLength? bytes hashes rest).map (· + 1)

/-- The length of a raw text behind its `r`. -/
def rawTextLength? (bytes : Bool) (cs : List Char) : Option Nat :=
  let hashes := (cs.takeWhile (· = '#')).length
  if cs[hashes]? = some '\x22' ∧ hashes ≤ 255 then
    (rawLength? bytes hashes (cs.drop (hashes + 1))).map (· + (hashes + 1))
  else none

/-- The length of a character literal behind its first quote. -/
def charLength? (bytes : Bool) : List Char → Option Nat
  | [] => none
  | c :: rest =>
    let length :=
      if c = '\x5c' then (escapeLength? bytes rest).map (· + 1)
      else if bytes ∧ 128 ≤ c.toNat then none
      else some 1
    length.bind fun n => if (c :: rest)[n]? = some '\x27' then some (n + 1) else none

/-- The length of a text or character literal, without a suffix. -/
def textLength? : List Char → Option Nat
  | '\x22' :: rest => (quotedLength? false 0 rest).map (· + 1)
  | '\x27' :: rest => (charLength? false rest).map (· + 1)
  | 'r' :: rest => (rawTextLength? false rest).map (· + 1)
  | 'b' :: '\x22' :: rest => (quotedLength? true 0 rest).map (· + 2)
  | 'c' :: '\x22' :: rest => (quotedLength? false 0 rest).map (· + 2)
  | 'b' :: 'r' :: rest => (rawTextLength? true rest).map (· + 2)
  | 'c' :: 'r' :: rest => (rawTextLength? false rest).map (· + 2)
  | 'b' :: '\x27' :: rest => (charLength? true rest).map (· + 2)
  | _ => none

/-- The length of the digits of a fraction, with the point in front. A point that begins a range
    or stands before a name belongs to no number. -/
def fractionLength : List Char → Nat
  | '.' :: rest =>
    if rest.head?.any fun c => c == '.' || Text.isNameStart c then 0
    else 1 + (rest.takeWhile fun c => c.isDigit || c == '_').length
  | _ => 0

/-- The length of a number, without a suffix. -/
def numberLength? (cs : List Char) : Option Nat :=
  let based (base : Nat) (digits : List Char) : Option Nat :=
    let run := digits.takeWhile fun c => c.isDigit || isDigitOf base c || c == '_'
    if run.all (· = '_') ∨ run.any (fun c => c.isDigit && !isDigitOf base c) then none
    else some (run.length + 2)
  match cs with
  | '0' :: 'x' :: rest => based 16 rest
  | '0' :: 'o' :: rest => based 8 rest
  | '0' :: 'b' :: rest => based 2 rest
  | c :: _ =>
    if c.isDigit then
      let whole := (cs.takeWhile fun c => c.isDigit || c == '_').length
      some (whole + fractionLength (cs.drop whole))
    else none
  | [] => none

/-- The length of a literal with its suffix. No part of a name can follow a number. -/
def literalLength? (cs : List Char) : Option Nat :=
  let withSuffix (n : Nat) : Nat := n + Text.nameLength (cs.drop n)
  match textLength? cs with
  | some n => some (withSuffix n)
  | none =>
    match numberLength? cs with
    | some n =>
      let length := withSuffix n
      if cs[length]?.any Text.isNamePart then none else some length
    | none => none

/-! ## Names and marks -/

/-- Names that cannot be raw. -/
def neverRaw : List String := ["_", "super", "self", "Self", "crate"]

/-- The length of the name in front of the text, with its mark if it is a raw one. -/
def wordLength? (cs : List Char) : Option Nat :=
  match cs with
  | 'r' :: '#' :: rest =>
    let n := Text.nameLength rest
    if n = 0 ∨ neverRaw.contains (String.ofList (rest.take n)) then none else some (n + 2)
  | _ =>
    let n := Text.nameLength cs
    if n = 0 then none else some n

/-- What begins a literal, and therefore no name even if no literal can be read. -/
def literalStarts : List (List Char) :=
  ["r\x22", "r#\x22", "r##", "b\x22", "b\x27", "br\x22", "br#", "c\x22", "cr\x22", "cr#"].map
    String.toList

/-- The length of the name of a lifetime behind its quote. Another quote would have made the name
    a character. -/
def lifetimeLength? (cs : List Char) : Option Nat :=
  (wordLength? cs).filter fun n =>
    cs[n]? ≠ some '\x27' && (cs[n]? ≠ some '#' || "r#".toList.isPrefixOf cs)

/-- The characters that are marks. -/
def marks : List Char := "~!@#$%^&*-=+|;:,<.>/?".toList

/-- A mark stands in front of the text. -/
def startsMark (cs : List Char) : Bool :=
  match cs with
  | '/' :: '/' :: _ | '/' :: '*' :: _ => false
  | '\x27' :: _ => true
  | c :: _ => marks.contains c
  | [] => false

/-- The bracket that begins or ends with the character. -/
def bracket? (c : Char) : Option SourceToken :=
  SourceBracket.all.findSome? fun b =>
    if c = b.ends.1 then some (.opening b) else if c = b.ends.2 then some (.closing b) else none

/-- The characters that the text may have besides white space to separate tokens: the marks of
    direction. -/
def directionMarks : List Char := ['\u200E', '\u200F']

/-- What is cut off in front of the text `c :: rest`. -/
def next? (c : Char) (rest : List Char) : Option Lexeme :=
  let cs := c :: rest
  if Text.isBlank c ∨ directionMarks.contains c then some ⟨none, 0⟩
  else
    match commentLength? cs with
    | some n => some ⟨if documents cs then some (.mark '#' false) else none, n - 1⟩
    | none =>
    match bracket? c with
    | some token => some ⟨some token, 0⟩
    | none =>
    match literalLength? cs with
    | some n => some ⟨some (.literal (String.ofList (cs.take n))), n - 1⟩
    | none =>
      if c = '\x27' then
        (lifetimeLength? rest).map fun n => ⟨some (.lifetime (String.ofList (rest.take n))), n⟩
      else if startsMark cs then some ⟨some (.mark c (startsMark rest)), 0⟩
      else if literalStarts.any (·.isPrefixOf cs) then none
      else
        (wordLength? cs).map fun n => ⟨some (.name (String.ofList (cs.take n))), n - 1⟩

end Lexeme

namespace SourceToken

/-- Cuts a text into tokens. -/
def scan : List Char → Option (List SourceToken)
  | [] => some []
  | c :: rest =>
    match Lexeme.next? c rest with
    | none => none
    | some lexeme => (scan (rest.drop lexeme.extra)).map (lexeme.token.toList ++ ·)
termination_by cs => cs.length
decreasing_by simp only [List.length_drop, List.length_cons]; omega

/-- Every bracket is closed by one of its kind; `unclosed` holds those that are open, the
    innermost first. -/
def balanced : List SourceBracket → List SourceToken → Bool
  | unclosed, [] => unclosed.isEmpty
  | unclosed, .opening b :: rest => balanced (b :: unclosed) rest
  | unclosed, .closing b :: rest => unclosed.head? = some b && balanced unclosed.tail rest
  | unclosed, _ :: rest => balanced unclosed rest

/-- The tokens of a text, if it can be cut into tokens. A byte order mark in front is dropped. -/
def ofText? (text : String) : Option (List SourceToken) :=
  let cs := text.toList
  (scan (if cs.head? = some '\uFEFF' then cs.tail else cs)).filter (balanced [])

/-- The token as it is written. -/
def text : SourceToken → String
  | .name text | .literal text => text
  | .lifetime word => String.ofList ('\x27' :: word.toList)
  | .opening b => b.ends.1.toString
  | .closing b => b.ends.2.toString
  | .mark symbol _ => symbol.toString

/-- The tokens as they are written, with no blanks between or inside them. -/
def compact (tokens : List SourceToken) : String :=
  String.ofList ((tokens.flatMap fun t => t.text.toList).filter fun c => !Text.isBlank c)

end SourceToken

end ObjectPath
