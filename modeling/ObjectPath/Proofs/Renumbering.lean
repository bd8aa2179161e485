import ObjectPath.Gallery
import ObjectPath.Proofs.Quotation
import ObjectPath.Proofs.StaticEntry
import Mathlib.Data.List.OfFn
import Mathlib.Logic.Equiv.Basic

/-!
# Only the arguments referred to matter

A script sees its arguments through its placeholders alone. Two scripts with the same fields and
methods, whose placeholders refer to the same arguments one by one, run alike: they invoke the
same methods with the same arguments, end in the same result and leave the target in the same
state. Only the text that failures quote may differ, and the number of the placeholder that they
name.

So the arguments may stand in any order, some of them may be used by no placeholder, and one of
them may be used by many.

Results:
* `Arguments.bind_eq_ok_iff`: a call gets the clones of its arguments in the order of its
  placeholders.
* `Evaluation.step_alike`: the steps of two scripts that are alike.
* `Evaluation.arguments_matter_through_placeholders`: whole evaluations, and what may be done to
  the arguments and the placeholders.
-/

namespace ObjectPath

/-! ## Failures without labels -/

/-- The same reason, not saying which placeholder it is about. -/
def Reason.unnumbered : Reason → Reason
  | placeholderOutOfRange _ available => placeholderOutOfRange 0 available
  | argumentNotCloneable _ => argumentNotCloneable 0
  | reason => reason

namespace ScriptError

/-- The same failure, quoting no script and naming no placeholder. -/
def unlabelled : ScriptError → ScriptError
  | invalidScript cls _ reason => invalidScript cls "" reason.unnumbered
  | e => e.quoting ""

@[simp] theorem unlabelled_quoting (text : String) (e : ScriptError) :
    (e.quoting text).unlabelled = e.unlabelled := by
  cases e <;> rfl

end ScriptError

/-! ## Placeholders for the same arguments -/

/-- The placeholders of the segment, in order. -/
def Segment.params : Segment → List Placeholder
  | field _ => []
  | call _ params => params

/-- The placeholders of the script, in order. -/
def Script.placeholders (script : Script) : List Placeholder :=
  script.segments.flatMap (·.segment.params)

/-- The placeholders refer to equal arguments: the same value, with the same declared type. -/
def Arguments.SameAt (args args' : Arguments) (p p' : Placeholder) : Prop :=
  ∃ a, args.entries[p.index]? = some a ∧ args'.entries[p'.index]? = some a

/-- The segments go to the same field, or call the same method with equal arguments. -/
inductive Segment.Alike (args args' : Arguments) : Segment → Segment → Prop
  | field (name : String) : Alike args args' (.field name) (.field name)
  | call (name : String) {params params' : List Placeholder}
      (h : List.Forall₂ (args.SameAt args') params params') :
      Alike args args' (.call name params) (.call name params')

/-- The segments are alike, one by one, wherever they stand. -/
abbrev PlacedSegment.AllAlike (args args' : Arguments) : List PlacedSegment →
    List PlacedSegment → Prop :=
  List.Forall₂ fun s s' => Segment.Alike args args' s.segment s'.segment

/-- The scripts have segments that are alike. Their texts need not be. -/
def Script.Alike (args args' : Arguments) (script script' : Script) : Prop :=
  PlacedSegment.AllAlike args args' script.segments script'.segments

namespace Segment.Alike

variable {args args' : Arguments} {s s' : Segment} {name : String}

theorem name_eq (h : Alike args args' s s') : s'.name = s.name := by
  cases h <;> rfl

theorem isCall_eq (h : Alike args args' s s') : s'.isCall = s.isCall := by
  cases h <;> rfl

theorem of_field (h : Alike args args' (.field name) s') : s' = .field name := by
  cases h
  rfl

theorem of_call {params : List Placeholder} (h : Alike args args' (.call name params) s') :
    ∃ params', s' = .call name params' ∧ List.Forall₂ (args.SameAt args') params params' := by
  cases h with
  | call _ hparams => exact ⟨_, rfl, hparams⟩

end Segment.Alike

theorem PlacedSegment.AllAlike.eq_nil_iff {args args' : Arguments}
    {segments segments' : List PlacedSegment} (h : AllAlike args args' segments segments') :
    segments' = [] ↔ segments = [] := by
  cases h <;> simp

/-! ## Binding -/

namespace Arguments

variable {S : Schema} {args args' : Arguments}

theorem bindOne_eq_ok_iff {p : Placeholder} {a : Argument} :
    args.bindOne S p = .ok a ↔
      ∃ given, args.entries[p.index]? = some given ∧ S.clone given.value = .ok a.value ∧
        a.ty = given.ty := by
  unfold bindOne
  cases hgiven : args.entries[p.index]? with
  | none => simp
  | some given =>
    cases hcopy : S.clone given.value with
    | error e => simp [hcopy]
    | ok copy =>
      obtain ⟨value, ty⟩ := a
      simp [hcopy, eq_comm]

/-- A call gets a clone of the argument of each of its placeholders, in their order. -/
theorem bind_eq_ok_iff {params : List Placeholder} {bound : BoundCall} :
    args.bind S params = .ok bound ↔
      List.Forall₂ (fun p a => ∃ given, args.entries[p.index]? = some given ∧
        S.clone given.value = .ok a.value ∧ a.ty = given.ty) params bound.entries := by
  obtain ⟨entries⟩ := bound
  simp [bind, Except.mapM_eq_ok_iff, bindOne_eq_ok_iff]

theorem bind_swap_iff {p q : Placeholder} {a b : Argument} :
    args.bind S [p, q] = .ok ⟨[a, b]⟩ ↔ args.bind S [q, p] = .ok ⟨[b, a]⟩ := by
  simp only [bind_eq_ok_iff, List.forall₂_cons, List.Forall₂.nil, and_true]
  exact and_comm

theorem SameAt.bindOne_eq {p p' : Placeholder} (h : args.SameAt args' p p') :
    (args'.bindOne S p').mapError Reason.unnumbered =
      (args.bindOne S p).mapError Reason.unnumbered := by
  obtain ⟨a, ha, ha'⟩ := h
  unfold bindOne
  simp only [ha, ha']
  cases S.clone a.value <;> rfl

/-- Binding placeholders for equal arguments comes to the same. -/
theorem bind_alike {params params' : List Placeholder}
    (h : List.Forall₂ (args.SameAt args') params params') :
    (args'.bind S params').mapError Reason.unnumbered =
      (args.bind S params).mapError Reason.unnumbered := by
  have hall : (params'.mapM (args'.bindOne S)).mapError Reason.unnumbered =
      (params.mapM (args.bindOne S)).mapError Reason.unnumbered := by
    rw [Except.mapError_mapM, Except.mapError_mapM]
    exact Except.mapM_eq_of_forall₂ (h.imp fun _ _ hp => hp.bindOne_eq)
  unfold bind
  rw [Except.mapError_map, Except.mapError_map, hall]

end Arguments

/-! ## One call -/

/-- The results are the same, up to the labels of a failure. -/
def SameResult (r r' : Except ScriptError Value) : Prop :=
  r'.mapError ScriptError.unlabelled = r.mapError ScriptError.unlabelled

namespace SameResult

variable {r r' : Except ScriptError Value}

theorem quoting (text : String) : SameResult r (r.mapError (·.quoting text)) := by
  unfold SameResult
  rw [Except.mapError_mapError]
  simp only [ScriptError.unlabelled_quoting]

/-- What comes behind a value also comes behind the same value of the other result. -/
theorem bind (h : SameResult r r') {next next' : Value → Except ScriptError Value}
    (hnext : ∀ value, SameResult (next value) (next' value)) :
    SameResult (r.bind next) (r'.bind next') := by
  unfold SameResult at h
  cases hr : r with
  | error e =>
    rw [hr] at h
    obtain ⟨e', hr', he⟩ := Except.mapError_eq_error_iff.1 h
    rw [hr']
    exact congrArg Except.error he
  | ok value =>
    rw [hr] at h
    rw [Except.mapError_eq_ok_iff.1 h]
    exact hnext value

/-- A call is the end of the script behind the one call exactly if it is behind the other. -/
theorem last_or_next (h : SameResult r r') {rest rest' : List PlacedSegment}
    (hempty : rest' = [] ↔ rest = []) (value : Value) :
    SameResult (if rest = [] then .ok value else r) (if rest' = [] then .ok value else r') := by
  by_cases hlast : rest = []
  · rw [if_pos hlast, if_pos (hempty.2 hlast)]
    rfl
  · rw [if_neg hlast, if_neg fun hnil => hlast (hempty.1 hnil)]
    exact h

end SameResult

namespace Evaluation

/-- The evaluation of another script with other arguments, with the same classes. -/
def withInput (E : Evaluation) (script : Script) (args : Arguments) : Evaluation :=
  { E with script, args }

variable {E : Evaluation} {args : Arguments}

/-- Calls with placeholders for equal arguments come to the same. -/
theorem call_alike {params params' : List Placeholder}
    (h : List.Forall₂ (E.args.SameAt args) params params') (script : Script) (ty : Ty)
    (receiver : Option Value) (name : String) :
    SameResult (E.call ty receiver name params).result
        ((E.withInput script args).call ty receiver name params').result ∧
      ((E.withInput script args).call ty receiver name params').receiver =
        (E.call ty receiver name params).receiver := by
  have hbind := Arguments.bind_alike (S := E.schema) h
  cases hleft : E.args.bind E.schema params with
  | error reason =>
    rw [hleft] at hbind
    obtain ⟨reason', hright, hreason⟩ := Except.mapError_eq_error_iff.1 hbind
    have hreason' : reason'.unnumbered = reason.unnumbered := hreason
    simp [call, withInput, hleft, hright, SameResult, Except.mapError, ScriptError.unlabelled,
      hreason']
  | ok bound =>
    rw [hleft] at hbind
    have hright : args.bind E.schema params' = .ok bound := Except.mapError_eq_ok_iff.1 hbind
    -- bound alike, the calls differ in the script that failures quote
    have hsame : (E.withInput script args).call ty receiver name params' =
        (E.withScript script).call ty receiver name params := by
      simp [call, withInput, withScript, hleft, hright, unknown, source]
    rw [hsame, call_withScript]
    exact ⟨.quoting script.source, rfl⟩

/-- Calls with placeholders for equal arguments lead to the same invocation. -/
theorem invocation?_alike {params params' : List Placeholder}
    (h : List.Forall₂ (E.args.SameAt args) params params') (script : Script) (v : Value)
    (name : String) :
    (E.withInput script args).invocation? v name params' = E.invocation? v name params := by
  have hbind := congrArg Except.toOption (Arguments.bind_alike (S := E.schema) h)
  rw [Except.toOption_mapError, Except.toOption_mapError] at hbind
  simp only [invocation?, withInput, hbind]

/-! ## All segments -/

theorem finish_alike (E : Evaluation) (script : Script) (args : Arguments) (ty : Ty)
    (name : String) (field : Value) (terminal : Option Value) :
    SameResult (E.finish ty name field terminal).1
        ((E.withInput script args).finish ty name field terminal).1 ∧
      ((E.withInput script args).finish ty name field terminal).2 =
        (E.finish ty name field terminal).2 := by
  have hsame : (E.withInput script args).finish ty name field terminal =
      (E.withScript script).finish ty name field terminal := rfl
  rw [hsame, finish_withScript]
  exact ⟨.quoting script.source, rfl⟩

/-- Segments that are alike come to the same, whatever the scripts are that they stand in. The
    induction takes one segment off both lists; the evaluations go on with the same value, since
    what a segment leads to does not depend on the number of a placeholder. -/
theorem step_alike {segments segments' : List PlacedSegment}
    (h : PlacedSegment.AllAlike E.args args segments segments') (script : Script)
    (target : Value) (terminal : Option Value) :
    SameResult (E.step segments target terminal).result
        ((E.withInput script args).step segments' target terminal).result ∧
      ((E.withInput script args).step segments' target terminal).target =
        (E.step segments target terminal).target := by
  induction h generalizing target terminal with
  | nil =>
    have hsame : (E.withInput script args).step [] target terminal =
        (E.withScript script).step [] target terminal := rfl
    have hnone : ([] : List PlacedSegment).map (·.segment) =
        ([] : List PlacedSegment).map (·.segment) := rfl
    obtain ⟨hresult, htarget⟩ := E.step_withScript script hnone target terminal
    rw [hsame, hresult, htarget]
    exact ⟨.quoting script.source, rfl⟩
  | @cons first first' rest rest' hfirst hrest ih =>
    have hempty : rest' = [] ↔ rest = [] := PlacedSegment.AllAlike.eq_nil_iff hrest
    cases hsee : target.seeThrough with
    | error ty =>
      simp only [step, hsee, and_true]
      rfl
    | ok here =>
      cases hseg : first.segment with
      | field name =>
        rw [hseg] at hfirst
        have hseg' : first'.segment = .field name := hfirst.of_field
        cases hspot : E.fieldSpot? here.value name with
        | none =>
          have hspot' : (E.withInput script args).fieldSpot? here.value name = none := hspot
          rw [step_unknownField hsee hseg hspot, step_unknownField hsee hseg' hspot']
          exact ⟨rfl, rfl⟩
        | some inside =>
          have hspot' : (E.withInput script args).fieldSpot? here.value name = some inside := hspot
          by_cases hlast : rest = []
          · have hlast' : rest' = [] := hempty.2 hlast
            obtain ⟨hresult, hfield⟩ :=
              E.finish_alike script args here.value.ty name inside.value terminal
            subst hlast hlast'
            rw [step_field hsee hseg hspot, step_field hsee hseg' hspot', hfield]
            exact ⟨hresult, rfl⟩
          · have hlast' : rest' ≠ [] := fun hnil => hlast (hempty.1 hnil)
            obtain ⟨hresult, htarget⟩ := ih inside.value terminal
            rw [step_hop hlast hsee hseg hspot, step_hop hlast' hsee hseg' hspot', htarget]
            exact ⟨hresult, rfl⟩
      | call name params =>
        rw [hseg] at hfirst
        obtain ⟨params', hseg', hparams⟩ := hfirst.of_call
        obtain ⟨hcalled, hreceiver⟩ :=
          call_alike hparams script here.value.ty (some here.value) name
        obtain ⟨hresult, htarget⟩ := step_call (E := E) hsee hseg rest terminal
        obtain ⟨hresult', htarget'⟩ :=
          step_call (E := E.withInput script args) hsee hseg' rest' terminal
        rw [hresult, hresult', htarget, htarget', hreceiver]
        exact ⟨hcalled.bind fun value => (ih value none).1.last_or_next hempty value, rfl⟩

/-- Segments that are alike lead to the same invocations. -/
theorem invocations_alike {segments segments' : List PlacedSegment}
    (h : PlacedSegment.AllAlike E.args args segments segments') (script : Script) (target : Value) :
    (E.withInput script args).invocations segments' target = E.invocations segments target := by
  induction h generalizing target with
  | nil => rfl
  | @cons first first' rest rest' hfirst _ ih =>
    cases hsee : target.seeThrough with
    | error ty => simp only [invocations, hsee]
    | ok here =>
      cases hseg : first.segment with
      | field name =>
        rw [hseg] at hfirst
        have hspot : (E.withInput script args).fieldSpot? here.value name =
            E.fieldSpot? here.value name := rfl
        simp only [invocations, hsee, hseg, hfirst.of_field, hspot, ih]
      | call name params =>
        rw [hseg] at hfirst
        obtain ⟨params', hseg', hparams⟩ := hfirst.of_call
        simp only [invocations, hsee, hseg, hseg', invocation?_alike hparams, ih]

/-! ## Whole evaluations -/

/-- The name of the call that detaches what is assigned, if there is one, in terms of the kinds and
    names of the segments. -/
theorem name_detachedBy? (segments : List PlacedSegment) :
    (detachedBy? segments).map Segment.name =
      ((segments.map fun s => (s.segment.isCall, s.segment.name)).getLast?.bind fun last =>
        if last.1 then none
        else ((segments.map fun s => (s.segment.isCall, s.segment.name)).dropLast.find?
          (·.1)).map (·.2)) := by
  unfold detachedBy?
  rw [List.getLast?_map]
  cases segments.getLast? with
  | none => rfl
  | some last =>
    cases hcall : last.segment.isCall with
    | true => simp [hcall]
    | false => simp [hcall, ← List.map_dropLast, List.find?_map, Function.comp_def]

theorem name_detachedBy?_alike {args args' : Arguments} {segments segments' : List PlacedSegment}
    (h : PlacedSegment.AllAlike args args' segments segments') :
    (detachedBy? segments').map Segment.name = (detachedBy? segments).map Segment.name := by
  have hkinds : segments'.map (fun s => (s.segment.isCall, s.segment.name)) =
      segments.map fun s => (s.segment.isCall, s.segment.name) := by
    induction h with
    | nil => rfl
    | cons hfirst _ ih => rw [List.map_cons, List.map_cons, hfirst.isCall_eq, hfirst.name_eq, ih]
  rw [name_detachedBy?, name_detachedBy?, hkinds]

theorem invoked_of_attached {terminal : Option Value}
    (h : terminal.isSome → detachedBy? E.script.segments = none) (target : Value) :
    E.invoked target terminal = E.invocations E.script.segments target := by
  cases terminal with
  | none => rfl
  | some new => simp only [invoked, h rfl]

/-- An assignment is rejected for both scripts or for none, and then both run in step. -/
theorem evaluate_alike {script : Script} (h : E.script.Alike E.args args script) (target : Value)
    (terminal : Option Value) :
    SameResult (E.evaluate target terminal).result
        ((E.withInput script args).evaluate target terminal).result ∧
      ((E.withInput script args).evaluate target terminal).target =
        (E.evaluate target terminal).target ∧
      (E.withInput script args).invoked target terminal = E.invoked target terminal := by
  have hname : (detachedBy? script.segments).map Segment.name =
      (detachedBy? E.script.segments).map Segment.name := name_detachedBy?_alike h
  by_cases hattached : terminal.isSome → detachedBy? E.script.segments = none
  · have hattached' : terminal.isSome → detachedBy? script.segments = none := by
      intro hsome
      rw [hattached hsome] at hname
      exact Option.map_eq_none_iff.1 hname
    obtain ⟨hresult, htarget⟩ := step_alike h script target terminal
    rw [evaluate_of_attached hattached,
      evaluate_of_attached (E := E.withInput script args) hattached',
      invoked_of_attached hattached,
      invoked_of_attached (E := E.withInput script args) hattached']
    exact ⟨hresult, htarget, invocations_alike h script target⟩
  · obtain ⟨hsome, hdetached⟩ := Classical.not_imp.1 hattached
    obtain ⟨new, rfl⟩ := Option.isSome_iff_exists.1 hsome
    obtain ⟨call, hcall⟩ := Option.ne_none_iff_exists'.1 hdetached
    rw [hcall] at hname
    obtain ⟨call', hcall', hcalled⟩ := Option.map_eq_some_iff.1 hname
    rw [evaluate_of_detached hcall, evaluate_of_detached (E := E.withInput script args) hcall',
      hcalled]
    refine ⟨rfl, rfl, ?_⟩
    simp [invoked, withInput, hcall, hcall']

theorem evaluateStatic_alike {script : Script} (h : E.script.Alike E.args args script) (ty : Ty) :
    SameResult (E.evaluateStatic ty).1 ((E.withInput script args).evaluateStatic ty).1 := by
  unfold Script.Alike PlacedSegment.AllAlike at h
  cases hleft : E.script.segments with
  | nil =>
    rw [hleft, List.forall₂_nil_left_iff] at h
    simp only [evaluateStatic, hleft, withInput, h]
    rfl
  | cons first rest =>
    rw [hleft, List.forall₂_cons_left_iff] at h
    obtain ⟨first', rest', hfirst, hrest, hright⟩ := h
    cases hseg : first.segment with
    | field name =>
      rw [hseg] at hfirst
      simp only [evaluateStatic, hleft, hseg, withInput, hright, hfirst.of_field]
      cases E.schema.resolveField ty name <;> rfl
    | call name params =>
      rw [hseg] at hfirst
      obtain ⟨params', hseg', hparams⟩ := hfirst.of_call
      obtain ⟨hcalled, -⟩ := call_alike hparams script ty none name
      rw [evaluateStatic_of_call hleft hseg,
        evaluateStatic_of_call (E := E.withInput script args) hright hseg']
      refine hcalled.bind fun value => ?_
      have hnext := (step_alike hrest script value none).1
      exact hnext.last_or_next (PlacedSegment.AllAlike.eq_nil_iff hrest) value

end Evaluation

/-! ## Other arguments, other placeholders -/

/-- The segment with its placeholders replaced. -/
def Segment.renumbered (ρ : Placeholder → Placeholder) : Segment → Segment
  | field name => field name
  | call name params => call name (params.map ρ)

/-- The script with its placeholders replaced, and with another text. -/
def Script.renumbered (ρ : Placeholder → Placeholder) (text : String) (script : Script) : Script :=
  ⟨text, script.segments.map fun s => { s with segment := s.segment.renumbered ρ }⟩

/-- The arguments in another order: the `i`-th one comes to stand at the position `σ i`. -/
def Arguments.permuted (args : Arguments) (σ : Equiv.Perm (Fin args.size)) : Arguments :=
  ⟨List.ofFn fun i => args.entries.get (σ.symm i)⟩

theorem Segment.renumbered_id (s : Segment) : s.renumbered id = s := by
  cases s with
  | field name => rfl
  | call name params => rw [renumbered, List.map_id]

section Alike

variable {args args' : Arguments} {ρ : Placeholder → Placeholder}

theorem Segment.alike_renumbered {s : Segment}
    (h : ∀ p ∈ s.params, args.SameAt args' p (ρ p)) : Alike args args' s (s.renumbered ρ) := by
  cases s with
  | field name => exact .field name
  | call name params =>
    refine .call name ?_
    rw [List.forall₂_map_right_iff, List.forall₂_same]
    exact h

theorem Script.alike_renumbered {script : Script}
    (h : ∀ p ∈ script.placeholders, args.SameAt args' p (ρ p)) (text : String) :
    script.Alike args args' (script.renumbered ρ text) := by
  unfold Alike PlacedSegment.AllAlike renumbered
  rw [List.forall₂_map_right_iff, List.forall₂_same]
  intro s hs
  exact Segment.alike_renumbered fun p hp => h p (List.mem_flatMap.2 ⟨s, hs, hp⟩)

theorem Script.alike_self {script : Script}
    (h : ∀ p ∈ script.placeholders, args.SameAt args' p p) : script.Alike args args' script := by
  unfold Alike PlacedSegment.AllAlike
  rw [List.forall₂_same]
  intro s hs
  have hsame : Segment.Alike args args' s.segment (s.segment.renumbered id) :=
    Segment.alike_renumbered fun p hp => h p (List.mem_flatMap.2 ⟨s, hs, hp⟩)
  rwa [Segment.renumbered_id] at hsame

end Alike

namespace Arguments

variable {args : Arguments} {p p' : Placeholder}

theorem sameAt_permuted (σ : Equiv.Perm (Fin args.size)) (h : p.index < args.size)
    (hp : p'.index = σ ⟨p.index, h⟩) : args.SameAt (args.permuted σ) p p' := by
  refine ⟨args.entries.get ⟨p.index, h⟩, List.getElem?_eq_getElem h, ?_⟩
  have hlt : p'.index < args.size := hp ▸ (σ ⟨p.index, h⟩).isLt
  have hback : σ.symm ⟨p'.index, hlt⟩ = ⟨p.index, h⟩ := by
    rw [Equiv.symm_apply_eq]
    exact Fin.ext hp
  rw [permuted, List.getElem?_ofFn, dif_pos hlt, hback]
  rfl

theorem sameAt_append (h : p.index < args.size) (unused : List Argument) :
    args.SameAt ⟨args.entries ++ unused⟩ p p := by
  refine ⟨args.entries.get ⟨p.index, h⟩, List.getElem?_eq_getElem h, ?_⟩
  rw [List.getElem?_append_left h]
  exact List.getElem?_eq_getElem h

end Arguments

namespace Evaluation

/-- The evaluations invoke the same methods with the same arguments, end in the same result, up to
    the labels of a failure, and leave the target in the same state. -/
def SameRuns (E E' : Evaluation) : Prop :=
  (∀ (target : Value) (terminal : Option Value),
    SameResult (E.evaluate target terminal).result (E'.evaluate target terminal).result ∧
      (E'.evaluate target terminal).target = (E.evaluate target terminal).target ∧
      E'.invoked target terminal = E.invoked target terminal) ∧
  ∀ ty : Ty, SameResult (E.evaluateStatic ty).1 (E'.evaluateStatic ty).1

/-- The method of a call gets clones of the arguments, in the order of the placeholders. -/
theorem args_of_invocation? {E : Evaluation} {v : Value} {name : String}
    {params : List Placeholder} {call : Invocation}
    (h : E.invocation? v name params = some call) :
    List.Forall₂ (fun p w => ∃ given, E.args.entries[p.index]? = some given ∧
      E.schema.clone given.value = .ok w) params call.args := by
  simp only [invocation?, Option.bind_eq_bind, Option.bind_eq_some_iff, Option.some.injEq] at h
  obtain ⟨bound, hbound, found, -, up, -, rfl⟩ := h
  have hbind : E.args.bind E.schema params = .ok bound := by
    cases hb : E.args.bind E.schema params with
    | error reason =>
      rw [hb] at hbound
      cases hbound
    | ok other =>
      rw [hb] at hbound
      exact congrArg Except.ok (Option.some.inj hbound)
  rw [BoundCall.values, List.forall₂_map_right_iff]
  refine (Arguments.bind_eq_ok_iff.1 hbind).imp ?_
  rintro p a ⟨given, hgiven, hcopy, -⟩
  exact ⟨given, hgiven, hcopy⟩

/-- Scripts whose placeholders refer to equal arguments, one by one, run alike. So a script whose
    placeholders all have arguments runs alike if the arguments are reordered and its placeholders
    renumbered to match, and if arguments are added behind; and every script runs alike if its
    placeholders refer to others of its arguments that are equal. What a method is given are clones
    of the arguments in the order of the placeholders, and of two placeholders swapped in a call
    the bound arguments are swapped. -/
theorem arguments_matter_through_placeholders (S : Schema) (lookup : Lookup) (script : Script)
    (args : Arguments) :
    (∀ (script' : Script) (args' : Arguments), script.Alike args args' script' →
      SameRuns ⟨S, lookup, script, args⟩ ⟨S, lookup, script', args'⟩) ∧
    ((∀ p ∈ script.placeholders, p.index < args.size) →
      (∀ (σ : Equiv.Perm (Fin args.size)) (ρ : Placeholder → Placeholder) (text : String),
        (∀ (p : Placeholder) (h : p.index < args.size), (ρ p).index = σ ⟨p.index, h⟩) →
        SameRuns ⟨S, lookup, script, args⟩
          ⟨S, lookup, script.renumbered ρ text, args.permuted σ⟩) ∧
      ∀ unused : List Argument,
        SameRuns ⟨S, lookup, script, args⟩ ⟨S, lookup, script, ⟨args.entries ++ unused⟩⟩) ∧
    (∀ (ρ : Placeholder → Placeholder) (text : String),
      (∀ p ∈ script.placeholders, args.SameAt args p (ρ p)) →
      SameRuns ⟨S, lookup, script, args⟩ ⟨S, lookup, script.renumbered ρ text, args⟩) ∧
    (∀ (v : Value) (name : String) (params : List Placeholder) (call : Invocation),
      (⟨S, lookup, script, args⟩ : Evaluation).invocation? v name params = some call →
      List.Forall₂ (fun p w => ∃ given, args.entries[p.index]? = some given ∧
        S.clone given.value = .ok w) params call.args) ∧
    ∀ (p q : Placeholder) (a b : Argument),
      args.bind S [p, q] = .ok ⟨[a, b]⟩ ↔ args.bind S [q, p] = .ok ⟨[b, a]⟩ := by
  have halike : ∀ (script' : Script) (args' : Arguments), script.Alike args args' script' →
      SameRuns ⟨S, lookup, script, args⟩ ⟨S, lookup, script', args'⟩ := by
    intro script' args' h
    exact ⟨fun target terminal =>
        evaluate_alike (E := ⟨S, lookup, script, args⟩) h target terminal,
      fun ty => evaluateStatic_alike (E := ⟨S, lookup, script, args⟩) h ty⟩
  refine ⟨halike, fun hrange => ⟨?permuted, ?unused⟩, ?repeated, ?order, ?swapped⟩
  case permuted =>
    intro σ ρ text hρ
    exact halike _ _ (Script.alike_renumbered
      (fun p hp => Arguments.sameAt_permuted σ (hrange p hp) (hρ p (hrange p hp))) text)
  case unused =>
    intro unused
    exact halike _ _ (Script.alike_self fun p hp => Arguments.sameAt_append (hrange p hp) unused)
  case repeated =>
    intro ρ text hρ
    exact halike _ _ (Script.alike_renumbered hρ text)
  case order =>
    intro v name params call h
    exact args_of_invocation? h
  case swapped =>
    intro p q a b
    exact Arguments.bind_swap_iff

end Evaluation

namespace Sample

theorem first_lt_wordSize : 1 < wordSize := by decide

theorem second_lt_wordSize : 2 < wordSize := by decide

/-- The placeholder of the first one of two arguments. -/
def first : Placeholder := ⟨1, Nat.one_pos, first_lt_wordSize⟩

/-- The placeholder of the second one. -/
def second : Placeholder := ⟨2, Nat.two_pos, second_lt_wordSize⟩

/-- The script that joins its two arguments. -/
def joining : Script := ⟨"join(%1,%2)", [⟨0, .call "join" [first, second]⟩]⟩

/-- Two words. -/
def words : Arguments := .ofValues [.string "heel", .string "sit"]

/-- The order of the two words reversed. -/
def reversed : Equiv.Perm (Fin words.size) := Equiv.swap ⟨0, by decide⟩ ⟨1, by decide⟩

/-- The other one of the two placeholders. -/
def other (p : Placeholder) : Placeholder := if p.index = 0 then second else first

end Sample

/-- Two words are joined in the same order if they are given in the other order and the script is
    renumbered, and if a third word is given. -/
theorem Evaluation.words_are_joined_in_any_order :
    SameRuns ⟨gallery, .typeAware, Sample.joining, Sample.words⟩
        ⟨gallery, .typeAware, Sample.joining.renumbered Sample.other "join(%2,%1)",
          Sample.words.permuted Sample.reversed⟩ ∧
      SameRuns ⟨gallery, .typeAware, Sample.joining, Sample.words⟩
        ⟨gallery, .typeAware, Sample.joining,
          .ofValues [.string "heel", .string "sit", .string "stay"]⟩ := by
  obtain ⟨-, hrange, -⟩ :=
    arguments_matter_through_placeholders gallery .typeAware Sample.joining Sample.words
  obtain ⟨hpermuted, hunused⟩ := hrange (by decide)
  refine ⟨hpermuted Sample.reversed Sample.other "join(%2,%1)" ?_,
    hunused [⟨.string "stay", .string⟩]⟩
  intro p h
  obtain hfirst | hsecond : p.index = 0 ∨ p.index = 1 := by
    have : p.index < 2 := h
    omega
  · have hat : (⟨p.index, h⟩ : Fin Sample.words.size) = ⟨0, by decide⟩ := Fin.ext hfirst
    rw [hat, Sample.other, if_pos hfirst]
    rfl
  · have hat : (⟨p.index, h⟩ : Fin Sample.words.size) = ⟨1, by decide⟩ := Fin.ext hsecond
    rw [hat, Sample.other, if_neg (by omega)]
    rfl

end ObjectPath
