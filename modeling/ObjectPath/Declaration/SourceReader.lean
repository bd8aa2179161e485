import ObjectPath.Declaration.Attribute

/-!
# Reading source texts

A `Reading` takes tokens from the front of a source text. The contents of brackets are read
where they stand and end at the closing bracket. What is left over in front of a closing bracket
is an error, but only if nothing else is wrong with the text, so the first place where it
happens is remembered.

Readers that call each other take a bound on the depth of their calls; `Reading.whole` gives
them one that is larger than any text needs.
-/

namespace ObjectPath

/-- What is left of a text, and the first brackets that were closed with something unread in
    them. -/
structure Pending where
  rest : List SourceToken
  unread : Option SourceBracket

/-- Reads some tokens from the front of a text. -/
abbrev Reading := StateT Pending (Except DeclarationError)

namespace SourceToken

/-- The text, or the contents of the brackets being read, ends here. -/
def atEnd : List SourceToken → Bool
  | [] | .closing _ :: _ => true
  | _ => false

/-- The given mark comes next. -/
def nextMark (c : Char) : List SourceToken → Bool
  | .mark symbol _ :: _ => symbol == c
  | _ => false

/-- The two marks of `::` come next. -/
def nextSeparator : List SourceToken → Bool
  | .mark ':' true :: .mark ':' _ :: _ => true
  | _ => false

/-- An opening bracket of the kind comes next. -/
def nextOpening (b : SourceBracket) (tokens : List SourceToken) : Bool :=
  tokens.head? = some (.opening b)

/-- What follows the closing bracket that matches; `depth` counts the other brackets that are
    open. -/
def afterClosing : Nat → List SourceToken → List SourceToken
  | 0, .closing _ :: rest => rest
  | depth + 1, .closing _ :: rest => afterClosing depth rest
  | depth, .opening _ :: rest => afterClosing (depth + 1) rest
  | depth, _ :: rest => afterClosing depth rest
  | _, [] => []

end SourceToken

namespace Reading

open SourceToken

/-- What is left of the text. -/
def rest : Reading (List SourceToken) := return (← get).rest

/-- Takes the given number of tokens. -/
def skip (n : Nat) : Reading Unit := modify fun p => { p with rest := p.rest.drop n }

/-- The test holds for what is left of the text. -/
def next (test : List SourceToken → Bool) : Reading Bool := return test (← rest)

/-- Something is missing at this place. -/
def missing {α : Type} (what : Wanted) : Reading α := do
  throw (.expected what (atEnd (← rest)))

/-- Takes the mark if it comes next. -/
def mark? (c : Char) : Reading Bool := do
  if ← next (nextMark c) then
    skip 1
    return true
  else return false

/-- Takes the mark, which must come next. -/
def mark (c : Char) : Reading Unit := do
  unless ← mark? c do throw (.markExpected c.toString)

/-- Takes `::` if it comes next. -/
def separator? : Reading Bool := do
  if ← next nextSeparator then
    skip 2
    return true
  else return false

/-- Takes the word if it comes next. -/
def word? (word : String) : Reading Bool := do
  if (← rest).head? = some (.name word) then
    skip 1
    return true
  else return false

/-- Takes a lifetime if it comes next. -/
def lifetime? : Reading Bool := do
  match ← rest with
  | .lifetime _ :: _ =>
    skip 1
    return true
  | _ => return false

/-- Takes the closing bracket of the contents that have been read. -/
def close (b : SourceBracket) : Reading Unit := do
  unless atEnd (← rest) do
    modify fun p => { p with unread := p.unread.or (some b) }
  modify fun p => { p with rest := afterClosing 0 p.rest }

/-- Takes all that is left before the closing bracket. -/
def skipContents : Reading Unit := do
  modify fun p =>
    let behind := afterClosing 0 p.rest
    { p with rest := p.rest.drop (p.rest.length - behind.length - 1) }

/-- Takes the brackets that come next with their contents. -/
def skipGroup : Reading Unit := do
  skip 1
  modify fun p => { p with rest := afterClosing 0 p.rest }

/-- Reads a whole text, given how to read it with a bound on the depth of calls. -/
def whole {α : Type} (reader : Nat → Reading α) (text : String) :
    Except DeclarationError (α × List SourceToken) :=
  match SourceToken.ofText? text with
  | none => .error .unreadable
  | some tokens => do
    let (result, left) ← (reader (16 * (tokens.length + 1))).run ⟨tokens, none⟩
    match left.unread, left.rest with
    | some bracket, _ => .error (.unexpected (some bracket))
    | none, _ :: _ => .error (.unexpected none)
    | none, [] => .ok (result, tokens)

end Reading

end ObjectPath
