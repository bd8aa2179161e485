import ObjectPath.Script.Placeholder

/-!
# Segments

A segment is one step of a script: the name of a field, or a call `name(%i,%j,…)` of a method
with placeholders for its arguments. A text is a call when it has an opening parenthesis and
ends in a closing one; everything else is a field, whose name must not have a dot.
-/

namespace ObjectPath

/-- Model of `Segment`: one step of a script. -/
inductive Segment where
  | field (name : String)
  | call (name : String) (params : List Placeholder)
deriving DecidableEq

namespace Segment

/-- The name of the field or method. -/
def name : Segment → String
  | field name => name
  | call name _ => name

/-- Model of `is_call`: the segment is a call. -/
def isCall : Segment → Bool
  | field _ => false
  | call _ _ => true

/-! ## Reading -/

/-- The text has the form of a call. -/
def looksLikeCall (text : List Char) : Bool :=
  text.contains '(' && text.getLast? == some ')'

/-- What stands in front of the first opening parenthesis. -/
def callName (text : List Char) : List Char := text.takeWhile (· != '(')

/-- What stands between the first opening parenthesis and the first closing one behind it. -/
def callBody (text : List Char) : List Char :=
  ((text.dropWhile (· != '(')).drop 1).takeWhile (· != ')')

/-- Reads the placeholders of a call; a blank text has none. -/
def parseParams (body : List Char) : Except Reason (List Placeholder) :=
  if Text.trim body = [] then .ok [] else (body.splitOn ',').mapM Placeholder.parse

/-- Model of `parse` of `Segment`: reads a segment. -/
def parse (text : List Char) : Except Reason Segment :=
  if text = [] then .error (.emptySegment 0)
  else if looksLikeCall text then
    if callName text = [] then .error (.emptySegment 0)
    else (parseParams (callBody text)).map (.call (String.ofList (callName text)))
  else if text.contains '.' then .error (.dottedFieldName (String.ofList text))
  else .ok (.field (String.ofList text))

/-! ## Writing -/

/-- The text of the segment. -/
def print : Segment → List Char
  | field name => name.toList
  | call name params =>
    name.toList ++ '(' :: [','].intercalate (params.map Placeholder.print) ++ [')']

/-- The text of the segment, as a string. -/
def text (s : Segment) : String := String.ofList s.print

end Segment

end ObjectPath
