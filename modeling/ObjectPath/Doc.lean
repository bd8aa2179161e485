import ObjectPath.Text.Quoted

/-!
# Structured texts

The text of a compound value has brackets, heads and labels. `Doc` keeps that structure, and two
layouts write it: `Doc.flat` on one line, `Doc.indented` with one item per line, four blanks of
indentation per level and a comma after every item.
-/

namespace ObjectPath

/-- The kinds of brackets around the items of a group. -/
inductive Bracket where
  | record
  | tuple
  | list
  | set
deriving DecidableEq

/-- A text with structure. -/
inductive Doc where
  | atom (text : String)
  | labelled (label : String) (body : Doc)
  | group (bracket : Bracket) (head : String) (items : List Doc)

namespace Bracket

/-- The opening bracket, as it follows the head. -/
def opening : Bracket → String
  | record => " \x7b"
  | tuple => "("
  | list => "["
  | set => "\x7b"

/-- The closing bracket. -/
def closing : Bracket → String
  | record => "\x7d"
  | tuple => ")"
  | list => "]"
  | set => "\x7d"

/-- What stands between the brackets and the items on one line. -/
def padding : Bracket → String
  | record => " "
  | _ => ""

/-- The brackets are written even when there is nothing between them. -/
def keepsEmpty : Bracket → Bool
  | list | set => true
  | record | tuple => false

end Bracket

namespace Doc

/-- The group of the labelled items. -/
def fields (head : String) (items : List (String × Doc)) : Doc :=
  group .record head (items.map fun item => labelled item.1 item.2)

/-- The text in quotes. -/
def quote (s : String) : Doc := atom (Text.quoted s)

/-- A missing value, or a present one. -/
def option : Option Doc → Doc
  | none => atom "None"
  | some d => group .tuple "Some" [d]

/-- A group without items. -/
def emptyGroup (bracket : Bracket) (head : String) : String :=
  if bracket.keepsEmpty then head ++ bracket.opening ++ bracket.closing else head

mutual

/-- The text on one line. -/
def flat : Doc → String
  | atom text => text
  | labelled label body => label ++ ": " ++ flat body
  | group bracket head [] => emptyGroup bracket head
  | group bracket head (first :: rest) =>
    head ++ bracket.opening ++ bracket.padding ++ flat first ++ flatRest rest ++
      bracket.padding ++ bracket.closing

/-- The items behind the first one, on one line. -/
def flatRest : List Doc → String
  | [] => ""
  | d :: rest => ", " ++ flat d ++ flatRest rest

end

/-- The lines of an item inside brackets. -/
def indentItem (lines : List String) : List String :=
  (lines.dropLast ++ lines.getLast?.toList.map (· ++ ",")).map ("    " ++ ·)

mutual

/-- The lines of the text, one item per line. -/
def lines : Doc → List String
  | atom text => [text]
  | labelled label body =>
    match lines body with
    | [] => [label ++ ": "]
    | first :: rest => (label ++ ": " ++ first) :: rest
  | group bracket head [] => [emptyGroup bracket head]
  | group bracket head (first :: rest) =>
    (head ++ bracket.opening) :: (indentItem (lines first) ++ linesAll rest) ++ [bracket.closing]

/-- The lines of the items behind the first one. -/
def linesAll : List Doc → List String
  | [] => []
  | d :: rest => indentItem (lines d) ++ linesAll rest

end

/-- The text with one item per line. -/
def indented (d : Doc) : String := String.intercalate "\n" (lines d)

end Doc

end ObjectPath
