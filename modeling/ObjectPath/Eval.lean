import ObjectPath.Arguments
import ObjectPath.Log
import ObjectPath.Script.Basic
import ObjectPath.Script.Error

/-!
# Evaluation

A script is evaluated on a target, segment by segment. A field segment goes on inside the
target, at the place of the field; a call goes on with the value it returned, which is detached
from the target. The last segment gives the result: a field is cloned, or replaced by a new
value when there is one to assign, and a call gives what it returned.

Every value on the way is seen through its optional layers first. Whatever a call did to the
target stays done when a later segment fails.

* `Evaluation.step` is the evaluation of the segments that are left;
* `Evaluation.evaluate` and `Evaluation.evaluateStatic` are the two ways to start.
-/

namespace ObjectPath

/-- What evaluating a script came to: its result, the target as it is afterwards, and what was
    reported on the way. -/
structure Outcome where
  result : Except ScriptError Value
  target : Value
  log : List LogEntry

namespace Outcome

/-- The outcome with a line in front of its log. -/
def logged (o : Outcome) (entry : LogEntry) : Outcome := { o with log := entry :: o.log }

end Outcome

/-- Model of `Evaluator`: a script with all that its evaluation depends on besides the target. -/
structure Evaluation where
  schema : Schema
  lookup : Lookup
  script : Script
  args : Arguments

namespace Evaluation

/-- The quoted script. -/
def source (E : Evaluation) : String := E.script.source

/-- Model of `trace`: the line for a segment reached on a value of the given type. -/
def reached (E : Evaluation) (s : PlacedSegment) (ty : Ty) : LogEntry :=
  .reached E.source s.offset s.segment ty.path

/-- Model of `member_not_found`: the member is unknown to the class. -/
def unknown (E : Evaluation) (ty : Ty) (name : String) : ScriptError :=
  .memberNotFound ty.path name E.source

/-! ## One segment -/

/-- The spot of a field inside a struct value: up to the class that declares the field, and into
    its slot. -/
def fieldSpot? (E : Evaluation) (v : Value) (name : String) : Option Spot := do
  let found ← E.schema.resolveField v.ty name
  let owner ← E.schema.ascend? v found.depth
  let field ← E.schema.field? owner.value name
  some (owner.within field)

/-- What a call did: its result, its receiver afterwards, and the warnings about it. -/
structure Called where
  result : Except ScriptError Value
  receiver : Option Value
  log : List LogEntry

/-- Model of `call` of `Evaluator`: calls a method of the given type, on a value of that type or on
    none. The arguments are bound first, then the method is found, then the receiver is moved up to
    the class that declares it. -/
def call (E : Evaluation) (ty : Ty) (receiver : Option Value) (name : String)
    (params : List Placeholder) : Called :=
  match E.args.bind E.schema params with
  | .error reason => ⟨.error (.invalidScript ty.path E.source reason), receiver, []⟩
  | .ok bound =>
    let found? := E.schema.resolveMethod E.lookup ty name bound.types
    let warnings := E.lookup.warnings name bound.types found?
    match found? with
    | none => ⟨.error (E.unknown ty name), receiver, warnings⟩
    | some found =>
      let fault (e : InvokeError) : ScriptError := .invocationFault ty.path name E.source e
      match receiver with
      | none => ⟨(found.member.invoke none bound.values).outcome.mapError fault, none, warnings⟩
      | some v =>
        match E.schema.ascend? v found.depth with
        | none => ⟨.error (E.unknown ty name), receiver, warnings⟩
        | some up =>
          let done := found.member.invoke (some up.value) bound.values
          ⟨done.outcome.mapError fault, some (v.put up.place (done.receiver.getD up.value)),
            warnings⟩

/-- Model of `finish_field`. The end of a script at a field: its clone, or its old value when a new
    one takes its place. The value returned second is what the field holds afterwards. -/
def finish (E : Evaluation) (ty : Ty) (name : String) (field : Value) :
    Option Value → Except ScriptError Value × Value
  | none =>
    ((E.schema.clone field).mapError fun e => .notCloneable ty.path name E.source e, field)
  | some new =>
    match field.overwrite? new with
    | some stored => (.ok field, stored)
    | none =>
      (.error (.typeMismatch ty.path name field.ty.path new.ty.path E.source), field)

/-! ## All segments -/

/-- Model of `step` of `Evaluator`: evaluates the segments on the target, with a value to assign at
    the end or none. -/
def step (E : Evaluation) : List PlacedSegment → Value → Option Value → Outcome
  | [], target, _ =>
    match target.seeThrough with
    | .error ty => ⟨.error (.nullTarget ty.path E.source), target, []⟩
    | .ok here =>
      ⟨(E.schema.clone here.value).mapError fun e =>
        .notCloneable here.value.ty.path "" E.source e, target, []⟩
  | first :: rest, target, terminal =>
    match target.seeThrough with
    | .error ty => ⟨.error (.nullTarget ty.path E.source), target, []⟩
    | .ok here =>
      let ty := here.value.ty
      let entry := E.reached first ty
      match first.segment with
      | .field name =>
        match E.fieldSpot? here.value name with
        | none => ⟨.error (E.unknown ty name), target, [entry]⟩
        | some inside =>
          let field := here.within inside
          if rest.isEmpty then
            let done := E.finish ty name field.value terminal
            ⟨done.1, target.put field.place done.2, [entry]⟩
          else
            let inner := E.step rest field.value terminal
            ⟨inner.result, target.put field.place inner.target, entry :: inner.log⟩
      | .call name params =>
        let called := E.call ty (some here.value) name params
        let after := target.put here.place (called.receiver.getD here.value)
        match called.result with
        | .error e => ⟨.error e, after, entry :: called.log⟩
        | .ok value =>
          if rest.isEmpty then ⟨.ok value, after, entry :: called.log⟩
          else
            let inner := E.step rest value none
            ⟨inner.result, after, entry :: (called.log ++ inner.log)⟩

/-- Model of `check_attached`: the first call in front of a final field. What is assigned behind it
    would be lost. -/
def detachedBy? (segments : List PlacedSegment) : Option Segment :=
  match segments.getLast? with
  | none => none
  | some last =>
    if last.segment.isCall then none
    else (segments.dropLast.map (·.segment)).find? (·.isCall)

/-- Model of `evaluate` of `Evaluator`: evaluates the script on the target. A value to assign
    replaces the field at the end of the script; the result is then the old value of the field. -/
def evaluate (E : Evaluation) (target : Value) (terminal : Option Value) : Outcome :=
  let entry := LogEntry.started E.source target.ty.path E.args.size terminal.isSome
  match terminal, detachedBy? E.script.segments with
  | some _, some call =>
    ⟨.error (.detachedAssignment target.ty.path call.name E.source), target, [entry]⟩
  | _, _ => (E.step E.script.segments target terminal).logged entry

/-- Model of `evaluate_static`: evaluates the script with no target, from the class of a type. The
    first segment must call a static method, and the rest is evaluated on what the call returns. -/
def evaluateStatic (E : Evaluation) (ty : Ty) : Except ScriptError Value × List LogEntry :=
  let entry := LogEntry.startedStatic E.source ty.path E.args.size
  match E.script.segments with
  | [] => (.error (.invalidScript ty.path E.source (.emptySegment 0)), [entry])
  | first :: rest =>
    let entries := [entry, E.reached first ty]
    match first.segment with
    | .field name =>
      match E.schema.resolveField ty name with
      | none => (.error (E.unknown ty name), entries)
      | some found =>
        (.error (.invocationFault ty.path name E.source (.missingReceiver found.member.name)),
          entries)
    | .call name params =>
      let called := E.call ty none name params
      match called.result with
      | .error e => (.error e, entries ++ called.log)
      | .ok value =>
        if rest.isEmpty then (.ok value, entries ++ called.log)
        else
          let inner := E.step rest value none
          (inner.result, entries ++ called.log ++ inner.log)

end Evaluation

end ObjectPath
