/-!
# Why a script is rejected

The reasons for which a script, or the arguments of one of its calls, are refused before a
member is touched.
-/

namespace ObjectPath

/-- Model of `InvalidScriptReason`: the reason why a script is invalid. -/
inductive Reason where
  | emptySegment (offset : Nat)
  | dottedFieldName (name : String)
  | malformedPlaceholder (token : String)
  | placeholderOutOfRange (placeholder available : Nat)
  | argumentNotCloneable (placeholder : Nat)
  | argumentTypes (values types : Nat)
deriving DecidableEq

/-- The text of the reason. -/
def Reason.message : Reason → String
  | emptySegment offset => s!"empty segment at offset {offset}"
  | dottedFieldName name => s!"field name `{name}` contains `.`"
  | malformedPlaceholder token =>
    s!"`{token}` is not a placeholder, expected `%<positive integer>`"
  | placeholderOutOfRange placeholder available =>
    s!"placeholder `%{placeholder}` refers past the {available} supplied argument(s)"
  | argumentNotCloneable placeholder => s!"argument bound to `%{placeholder}` cannot be cloned"
  | argumentTypes values types => s!"{values} argument value(s) but {types} argument type(s)"

end ObjectPath
