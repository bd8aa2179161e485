import ObjectPath.Lookup
import ObjectPath.Script.Segment

/-!
# The log

What an evaluation reports as it goes: one line when it starts, one for every segment it
reaches, and a warning when a method was chosen by its name although it does not accept the
arguments.
-/

namespace ObjectPath

/-- A line of the log. -/
inductive LogEntry where
  | started (script cls : String) (arguments : Nat) (assigning : Bool)
  | startedStatic (script cls : String) (arguments : Nat)
  | reached (script : String) (offset : Nat) (segment : Segment) (cls : String)
  | chosenByName (owner name : String) (types : List Ty)
deriving DecidableEq

namespace LogEntry

/-- The importance of the line. -/
def level : LogEntry → String
  | started .. | startedStatic .. => "DEBUG"
  | reached .. => "TRACE"
  | chosenByName .. => "WARN"

/-- The text of the line. -/
def message : LogEntry → String
  | started script cls arguments assigning =>
    s!"evaluate `{script}` on `{cls}` with {arguments} argument(s)" ++
      if assigning then ", assigning" else ""
  | startedStatic script cls arguments =>
    s!"evaluate `{script}` statically on `{cls}` with {arguments} argument(s)"
  | reached script offset segment cls =>
    s!"`{script}` offset {offset}: `" ++ segment.text ++ s!"` on `{cls}`"
  | chosenByName owner name types =>
    s!"`{owner}::{name}` was selected by name only and does not accept " ++
      (Doc.group .list "" (types.map fun ty => .atom ty.path)).flat

/-- The line as it is written. -/
def render (e : LogEntry) : String := e.level ++ " " ++ e.message

end LogEntry

/-- The warnings of `resolve_method` about the method that it found. -/
def Lookup.warnings (lookup : Lookup) (name : String) (types : List Ty) :
    Option (Found Method) → List LogEntry
  | some found =>
    if lookup = .nameOnly ∧ found.member.accepts types = false then
      [.chosenByName found.owner.path name types]
    else []
  | none => []

end ObjectPath
