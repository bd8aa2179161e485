import ObjectPath.Clone
import ObjectPath.Invoke
import ObjectPath.Script.Reason

/-!
# Why a script fails

Every failure names a class and quotes the script; most also name the member at fault. A failed
call or clone passes on its own error.
-/

namespace ObjectPath

/-- Model of `ScriptError`: the failure of a script. -/
inductive ScriptError where
  | invalidScript (cls script : String) (reason : Reason)
  | memberNotFound (cls member script : String)
  | invocationFault (cls member script : String) (cause : InvokeError)
  | classNotFound (cls script : String)
  | nullTarget (cls script : String)
  | typeMismatch (cls member expected found script : String)
  | notCloneable (cls member script : String) (cause : CloneError)
  | detachedAssignment (cls member script : String)
deriving DecidableEq

namespace ScriptError

/-- Model of `class_name`: the class that the failure names. -/
def className : ScriptError → String
  | invalidScript cls .. | memberNotFound cls .. | invocationFault cls .. | classNotFound cls ..
  | nullTarget cls .. | typeMismatch cls .. | notCloneable cls .. | detachedAssignment cls .. =>
    cls

/-- Model of `script` of `ScriptError`: the script that the failure quotes. -/
def script : ScriptError → String
  | invalidScript _ script _ | memberNotFound _ _ script | invocationFault _ _ script _
  | classNotFound _ script | nullTarget _ script | typeMismatch _ _ _ _ script
  | notCloneable _ _ script _ | detachedAssignment _ _ script => script

/-- The member at fault, if there is one. -/
def member? : ScriptError → Option String
  | invalidScript .. | classNotFound .. | nullTarget .. => none
  | memberNotFound _ member _ | invocationFault _ member _ _ | typeMismatch _ member ..
  | notCloneable _ member _ _ | detachedAssignment _ member _ => some member

/-- The text of the failure. -/
def message : ScriptError → String
  | invalidScript cls script reason =>
    s!"invalid script `{script}` for class `{cls}`: " ++ reason.message
  | memberNotFound cls member script =>
    s!"cannot find `{member}` in class `{cls}` or its base classes, check `{script}`"
  | invocationFault cls member script _ =>
    s!"calling `{member}` on class `{cls}` failed, check `{script}`"
  | classNotFound cls script => s!"cannot find class `{cls}`, check `{script}`"
  | nullTarget cls script =>
    s!"null value of class `{cls}` cannot be dereferenced, check `{script}`"
  | typeMismatch cls member expected found script =>
    s!"`{member}` of class `{cls}` expects `{expected}`, found `{found}`, check `{script}`"
  | notCloneable cls member script _ =>
    s!"`{member}` of class `{cls}` cannot be cloned out, check `{script}`"
  | detachedAssignment cls member script =>
    s!"cannot assign through `{member}()` on class `{cls}`, its result is a detached value, " ++
      s!"check `{script}`"

end ScriptError

end ObjectPath
