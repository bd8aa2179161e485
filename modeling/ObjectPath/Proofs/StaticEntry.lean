import ObjectPath.Proofs.Delegation
import ObjectPath.Proofs.Soundness

/-!
# Scripts without an instance

A script that begins with a call can be evaluated on a class instead of a value. The arguments of
the call are bound and the method is looked up as they are for a value of the class. A static
method does not care for a receiver, so it does not matter that there is none to move up to the
class that declares the method. An instance method is refused for lack of a receiver.

Results:
* `Method.activation?_eq`: a body is run when the checks pass.
* `Method.invoke_of_static`, `Method.invoke_none_of_instance`: invocations without a receiver.
* `Schema.FitsThroughout.ascend_ancestors`: the way up to the class of a method is there.
* `static_entry_agrees`: evaluating a script on a class and on a value of the class.
-/

namespace ObjectPath

/-! ## Bodies that are run -/

/-- The run of a method's body: the receiver that it reads, if it reads one, and the converted
    arguments. -/
structure Activation where
  body : Body
  receiver : Option Value
  args : List Value

namespace Method

/-- The run of the body that an invocation leads to, unless a check in front of it fails. -/
def activation? (m : Method) (receiver : Option Value) (args : List Value) : Option Activation :=
  if receiver.isNone && !m.receiver.isStatic then none
  else
    match m.convertArgs args, m.checkReceiver receiver with
    | .ok converted, .ok () =>
      some ⟨m.body, if m.receiver.isStatic then none else receiver, converted⟩
    | _, _ => none

/-- A static body does not look at the receiver. -/
theorem run_of_static {body : Body} (hstatic : body.receiver = .static) (member : String)
    (receiver : Option Value) (args : List Value) :
    (body.run member receiver args).outcome = (body.run member none args).outcome ∧
      (body.run member receiver args).receiver = receiver := by
  cases body with
  | static f => exact ⟨rfl, rfl⟩
  | shared f => cases hstatic
  | mutable f => cases hstatic

/-- The body is run when the checks pass, on the converted arguments. -/
theorem activation?_eq (m : Method) (receiver : Option Value) (args : List Value) :
    m.activation? receiver args = (m.checked receiver args).toOption.map fun converted =>
      ⟨m.body, if m.receiver.isStatic then none else receiver, converted⟩ := by
  unfold activation? checked
  split
  · rfl
  · cases m.convertArgs args with
    | error cause => rfl
    | ok converted => cases m.checkReceiver receiver <;> rfl

/-- The invoker of a static method does not check the receiver. -/
theorem checked_of_static {m : Method} {self : Ty} (hm : m.Consistent self)
    (hstatic : m.receiver = .static) (receiver : Option Value) (args : List Value) :
    m.checked receiver args = m.convertArgs args := by
  obtain ⟨-, -, hself⟩ := hm
  have hcheck : m.checkReceiver receiver = .ok () := by
    rw [checkReceiver, hself, hstatic]
    rfl
  rw [checked, hstatic, hcheck]
  cases m.convertArgs args <;> simp [Receiver.isStatic, bind, Except.bind, pure, Except.pure]

/-- A static method whose invoker follows its signature gives the same result on any receiver as on
    none, runs its body alike, and leaves the receiver as it is. -/
theorem invoke_of_static {m : Method} {self : Ty} (hm : m.Consistent self)
    (hstatic : m.receiver = .static) (receiver : Option Value) (args : List Value) :
    (m.invoke receiver args).outcome = (m.invoke none args).outcome ∧
      (m.invoke receiver args).receiver = receiver ∧
      m.activation? receiver args = m.activation? none args := by
  have hchecked := checked_of_static hm hstatic
  have hactivation : m.activation? receiver args = m.activation? none args := by
    simp only [activation?_eq, hchecked, hstatic, Receiver.isStatic, if_true]
  simp only [invoke_eq, hchecked]
  cases m.convertArgs args with
  | error cause => exact ⟨rfl, rfl, hactivation⟩
  | ok converted =>
    obtain ⟨houtcome, hkept⟩ := run_of_static hstatic m.name receiver converted
    exact ⟨houtcome, hkept, hactivation⟩

/-- An instance method without a receiver fails before anything else, and its body is not run. -/
theorem invoke_none_of_instance {m : Method} (hinstance : m.receiver ≠ .static)
    (args : List Value) :
    m.invoke none args = ⟨.error (.missingReceiver m.name), none⟩ ∧
      m.activation? none args = none := by
  have hchecked : m.checked none args = .error (.missingReceiver m.name) := by
    unfold checked
    cases hreceiver : m.receiver with
    | static => exact absurd hreceiver hinstance
    | shared | mutable => rfl
  rw [invoke_eq, activation?_eq, hchecked]
  exact ⟨rfl, rfl⟩

end Method

namespace Evaluation

/-- The bodies run while the segments are evaluated on a target, in order. -/
def activations (E : Evaluation) (segments : List PlacedSegment) (target : Value) :
    List Activation :=
  (E.invocations segments target).filterMap fun call =>
    call.method.activation? (some call.receiver.value) call.args

/-- The method that a call on the type leads to, with its bound arguments. -/
def staticInvocation? (E : Evaluation) (ty : Ty) (name : String) (params : List Placeholder) :
    Option (Method × List Value) := do
  let bound ← (E.args.bind E.schema params).toOption
  let found ← E.schema.resolveMethod E.lookup ty name bound.types
  some (found.member, bound.values)

/-- The bodies run while the script is evaluated on a class, in order. -/
def activationsStatic (E : Evaluation) (ty : Ty) : List Activation :=
  match E.script.segments with
  | [] => []
  | first :: rest =>
    match first.segment with
    | .field _ => []
    | .call name params =>
      match E.staticInvocation? ty name params with
      | none => []
      | some (m, args) =>
        (m.activation? none args).toList ++
          match (m.invoke none args).outcome with
          | .error _ => []
          | .ok value => E.activations rest value

end Evaluation

/-! ## The way up to the class of a method -/

namespace Schema

variable {S : Schema} {classes : ClassId → Prop}

theorem consistent_of_mem_methods {owner : Ty}
    (hderived : ∀ id, owner = .object id → S.IsDerived id) {m : Method}
    (hm : m ∈ (S.classOf owner).methods) : m.Consistent owner := by
  rcases S.methods_classOf owner with ⟨id, hid, hmethods⟩ | hmethods
  · obtain ⟨-, -, -, hconsistent⟩ := hderived id hid
    rw [decl_id] at hconsistent
    rw [hmethods] at hm
    rw [hid]
    exact hconsistent m hm
  · rw [hmethods] at hm
    exact consistent_builtinMethods S owner m hm

theorem PartsFit.of_ty {v : Value} (h : S.PartsFit classes v) {others : ClassId → Prop}
    (hother : ∀ id, v.ty = .object id → others id) : S.PartsFit others v := by
  cases v with
  | object id slots => exact ⟨hother id rfl, h.2⟩
  | vector element items => exact h
  | _ => trivial

/-- If the class of a value and its base classes are derived, the value has a base object of each
    of them, as many levels up as the class is. -/
theorem FitsThroughout.ascend_ancestors {v : Value} (hv : S.FitsThroughout classes v)
    (hderived : ∀ id, .object id ∈ S.ancestors v.ty → S.IsDerived id) {depth : Nat} {owner : Ty}
    (howner : (S.ancestors v.ty)[depth]? = some owner) :
    ∃ up, S.ascend? v depth = some up ∧ up.value.ty = owner := by
  induction depth generalizing v with
  | zero =>
    obtain ⟨bases, hbases⟩ := S.exists_ancestors_eq_cons v.ty
    rw [hbases, List.getElem?_cons_zero, Option.some.injEq] at howner
    exact ⟨.whole v, rfl, howner⟩
  | succ depth ih =>
    cases hbase : (S.classOf v.ty).base with
    | none =>
      rw [ancestors, lineage_of_no_base hbase] at howner
      cases howner
    | some b =>
      have hancestors := ancestors_of_base hbase
      have hself : S.PartsFit S.IsDerived v := by
        refine hv.here.of_ty fun id hid => hderived id ?_
        rw [← hid]
        exact S.self_mem_ancestors v.ty
      obtain ⟨up, hup, hty⟩ := hself.base hbase
      rw [hancestors, List.getElem?_cons_succ, ← hty] at howner
      have hrest : ∀ id, .object id ∈ S.ancestors up.value.ty → S.IsDerived id := by
        intro id hid
        rw [hty] at hid
        refine hderived id ?_
        rw [hancestors]
        exact List.mem_cons_of_mem _ hid
      obtain ⟨top, htop, hown⟩ := ih (hv.of_in (in_of_base? hup)) hrest howner
      refine ⟨up.within top, ?_, hown⟩
      rw [ascend?_succ hup, htop]
      rfl

/-- The class of a well-typed value and its base classes are derived. -/
theorem WellTyped.isDerived_of_mem_ancestors {v : Value} (hv : S.WellTyped v) {id : ClassId}
    (hid : .object id ∈ S.ancestors v.ty) : S.IsDerived id := by
  obtain ⟨depth, hdepth⟩ := List.getElem?_of_mem hid
  obtain ⟨up, -, hty, hwell⟩ := hv.ascend_lineage hdepth
  exact (wellTyped_iff.1 hwell).classes_of_ty hty

end Schema

/-! ## Two ways to start -/

namespace Evaluation

variable {E : Evaluation} {first : PlacedSegment} {rest : List PlacedSegment} {name : String}
  {params : List Placeholder}

theorem evaluateStatic_of_call (hscript : E.script.segments = first :: rest)
    (hfirst : first.segment = .call name params) (ty : Ty) :
    (E.evaluateStatic ty).1 = (E.call ty none name params).result.bind fun value =>
      if rest = [] then .ok value else (E.step rest value none).result := by
  unfold evaluateStatic
  rw [hscript]
  simp only [hfirst]
  cases (E.call ty none name params).result with
  | error e => rfl
  | ok value => by_cases hrest : rest = [] <;> simp [hrest, Except.bind]

theorem evaluate_of_call {v : Value} (hsee : v.seeThrough = .ok (.whole v))
    (hscript : E.script.segments = first :: rest) (hfirst : first.segment = .call name params) :
    (E.evaluate v none).result = ((E.call v.ty (some v) name params).result.bind fun value =>
        if rest = [] then .ok value else (E.step rest value none).result) ∧
      (E.evaluate v none).target = (E.call v.ty (some v) name params).receiver.getD v := by
  rw [result_evaluate_none, target_evaluate_none, hscript]
  exact step_call hsee hfirst rest none

/-- A static method is called on a class as on a value of the class. -/
theorem call_of_static {bound : BoundCall} {v : Value} {found : Found Method} {up : Spot}
    {owner : Ty} (hbind : E.args.bind E.schema params = .ok bound)
    (hfound : E.schema.resolveMethod E.lookup v.ty name bound.types = some found)
    (hup : E.schema.ascend? v found.depth = some up) (hm : found.member.Consistent owner)
    (hstatic : found.member.receiver = .static) :
    (E.call v.ty none name params).result = (E.call v.ty (some v) name params).result ∧
      (E.call v.ty (some v) name params).receiver = some v := by
  obtain ⟨houtcome, hkept, -⟩ := Method.invoke_of_static hm hstatic (some up.value) bound.values
  rw [call_none hbind hfound, call_some hbind hfound hup, houtcome, hkept, Option.getD_some,
    Value.put_at? (Schema.in_of_ascend? hup)]
  exact ⟨rfl, rfl⟩

theorem activationsStatic_of_resolved {bound : BoundCall} {ty : Ty} {found : Found Method}
    (hscript : E.script.segments = first :: rest) (hfirst : first.segment = .call name params)
    (hbind : E.args.bind E.schema params = .ok bound)
    (hfound : E.schema.resolveMethod E.lookup ty name bound.types = some found) :
    E.activationsStatic ty =
      (found.member.activation? none bound.values).toList ++
        match (found.member.invoke none bound.values).outcome with
        | .error _ => []
        | .ok value => E.activations rest value := by
  have hcall : E.staticInvocation? ty name params = some (found.member, bound.values) := by
    simp [staticInvocation?, hbind, hfound, Except.toOption]
  unfold activationsStatic
  rw [hscript]
  simp only [hfirst, hcall]

/-- The bodies run behind a static method, and the method's own body, are the same from a class and
    from a value of the class. -/
theorem activationsStatic_of_static {bound : BoundCall} {v : Value} {found : Found Method}
    {up : Spot} {owner : Ty} (hsee : v.seeThrough = .ok (.whole v))
    (hscript : E.script.segments = first :: rest) (hfirst : first.segment = .call name params)
    (hbind : E.args.bind E.schema params = .ok bound)
    (hfound : E.schema.resolveMethod E.lookup v.ty name bound.types = some found)
    (hup : E.schema.ascend? v found.depth = some up) (hm : found.member.Consistent owner)
    (hstatic : found.member.receiver = .static) :
    E.activationsStatic v.ty = E.activations E.script.segments v := by
  obtain ⟨houtcome, -, hactivation⟩ :=
    Method.invoke_of_static hm hstatic (some up.value) bound.values
  have hcall : E.invocation? v name params = some ⟨found.member, up, bound.values⟩ := by
    simp [invocation?, hbind, hfound, hup, Except.toOption]
  rw [activationsStatic_of_resolved hscript hfirst hbind hfound]
  unfold activations
  rw [hscript]
  simp only [hfirst, invocations, hsee, Spot.whole, hcall, Invocation.run, houtcome,
    List.filterMap_cons, hactivation]
  cases (found.member.invoke none bound.values).outcome <;>
    cases found.member.activation? none bound.values <;> rfl

end Evaluation

/-- A script that begins with a call, evaluated on a class and on a value of the class, which is
    derived, as its base classes are, or built in, and not optional. If the call is bound and found
    to be of a static method, however far up the method is declared, both give the same result,
    run the same bodies, and the value is left alone. If the method needs an instance, evaluation on
    the class fails for lack of one, and no body is run. If the arguments are not bound or the
    method is not found, both fail in the same way. -/
theorem static_entry_agrees (E : Evaluation) {classes : ClassId → Prop} {v : Value}
    (hv : E.schema.FitsThroughout classes v)
    (hderived : ∀ id, .object id ∈ E.schema.ancestors v.ty → E.schema.IsDerived id)
    (hnullable : ∀ inner, v.ty ≠ .optional inner) {first : PlacedSegment}
    {rest : List PlacedSegment} {name : String} {params : List Placeholder}
    (hscript : E.script.segments = first :: rest) (hfirst : first.segment = .call name params) :
    (∀ bound found, E.args.bind E.schema params = .ok bound →
      E.schema.resolveMethod E.lookup v.ty name bound.types = some found →
      (found.member.receiver = .static →
        (E.evaluateStatic v.ty).1 = (E.evaluate v none).result ∧
          (E.evaluate v none).target = v ∧
          E.activationsStatic v.ty = E.activations E.script.segments v) ∧
      (found.member.receiver ≠ .static →
        (E.evaluateStatic v.ty).1 =
            .error (.invocationFault v.ty.path name E.source (.missingReceiver name)) ∧
          E.activationsStatic v.ty = [])) ∧
    (∀ reason, E.args.bind E.schema params = .error reason →
      (E.evaluateStatic v.ty).1 = .error (.invalidScript v.ty.path E.source reason) ∧
        (E.evaluate v none).result = .error (.invalidScript v.ty.path E.source reason)) ∧
    ∀ bound, E.args.bind E.schema params = .ok bound →
      E.schema.resolveMethod E.lookup v.ty name bound.types = none →
      (E.evaluateStatic v.ty).1 = .error (.memberNotFound v.ty.path name E.source) ∧
        (E.evaluate v none).result = .error (.memberNotFound v.ty.path name E.source) := by
  have hsee : v.seeThrough = .ok (.whole v) := Value.seeThrough_of_ty hnullable
  have hstatic := Evaluation.evaluateStatic_of_call hscript hfirst v.ty
  obtain ⟨hresult, htarget⟩ := Evaluation.evaluate_of_call hsee hscript hfirst
  refine ⟨fun bound found hbind hfound => ⟨?static, ?needsInstance⟩, ?unbound, ?unresolved⟩
  case static =>
    intro hreceiver
    obtain ⟨howner, hmethod⟩ := Schema.of_resolveMethod hfound
    obtain ⟨up, hup, -⟩ := hv.ascend_ancestors hderived howner
    have hconsistent : found.member.Consistent found.owner := by
      refine Schema.consistent_of_mem_methods (fun id hid => hderived id ?_)
        (Schema.mem_methodsNamed.1 hmethod).1
      rw [← hid]
      exact List.mem_of_getElem? howner
    obtain ⟨hsame, hkept⟩ := Evaluation.call_of_static hbind hfound hup hconsistent hreceiver
    refine ⟨?_, ?_, ?_⟩
    · rw [hstatic, hresult, hsame]
    · rw [htarget, hkept, Option.getD_some]
    · exact Evaluation.activationsStatic_of_static hsee hscript hfirst hbind hfound hup hconsistent
        hreceiver
  case needsInstance =>
    intro hreceiver
    obtain ⟨-, hmethod⟩ := Schema.of_resolveMethod hfound
    obtain ⟨hinvoke, hnone⟩ := Method.invoke_none_of_instance hreceiver bound.values
    constructor
    · rw [hstatic, Evaluation.call_none hbind hfound, hinvoke,
        (Schema.mem_methodsNamed.1 hmethod).2]
      rfl
    · rw [Evaluation.activationsStatic_of_resolved hscript hfirst hbind hfound, hnone, hinvoke]
      rfl
  case unbound =>
    intro reason hbind
    rw [hstatic, hresult, Evaluation.call_of_unbound hbind, Evaluation.call_of_unbound hbind]
    exact ⟨rfl, rfl⟩
  case unresolved =>
    intro bound hbind hnone
    rw [hstatic, hresult, Evaluation.call_of_unresolved hbind hnone,
      Evaluation.call_of_unresolved hbind hnone]
    exact ⟨rfl, rfl⟩

namespace Sample

/-- The script for the length of the name of the animal kingdom. -/
def kingdomLength : Evaluation :=
  ⟨gallery, .typeAware, ⟨"kingdom().len()", [⟨0, .call "kingdom" []⟩, ⟨10, .call "len" []⟩]⟩,
    .empty⟩

/-- The script for a birthday in the gallery. -/
def birthday : Evaluation :=
  ⟨gallery, .nameOnly, ⟨"birthday()", [⟨0, .call "birthday" []⟩]⟩, .empty⟩

/-- A script for something that no animal in the gallery does. -/
def flight : Evaluation := ⟨gallery, .typeAware, ⟨"fly()", [⟨0, .call "fly" []⟩]⟩, .empty⟩

end Sample

/-- The class of runts inherits a static method and a birthday from three levels up, and does not
    inherit flying. -/
theorem runts_inherit_static_methods :
    (Sample.kingdomLength.evaluateStatic Gallery.runt.objects).1 =
        (Sample.kingdomLength.evaluate Gallery.runt.initial none).result ∧
      (Sample.kingdomLength.evaluate Gallery.runt.initial none).target = Gallery.runt.initial ∧
      (Sample.birthday.evaluateStatic Gallery.runt.objects).1 =
        .error (.invocationFault "zoo::Runt" "birthday" "birthday()"
          (.missingReceiver "birthday")) ∧
      (Sample.flight.evaluateStatic Gallery.runt.objects).1 =
        .error (.memberNotFound "zoo::Runt" "fly" "fly()") := by
  have hwell : gallery.WellTyped Gallery.runt.initial := by decide +kernel
  have hfits := Schema.wellTyped_iff.1 hwell
  have hderived : ∀ id, .object id ∈ gallery.ancestors Gallery.runt.initial.ty →
      gallery.IsDerived id := fun _ => hwell.isDerived_of_mem_ancestors
  have hnullable : ∀ inner, Gallery.runt.initial.ty ≠ .optional inner := by
    intro inner h
    cases h
  obtain ⟨hkingdom, -, -⟩ :=
    static_entry_agrees Sample.kingdomLength hfits hderived hnullable rfl rfl
  obtain ⟨haged, -, -⟩ := static_entry_agrees Sample.birthday hfits hderived hnullable rfl rfl
  obtain ⟨-, -, hflown⟩ := static_entry_agrees Sample.flight hfits hderived hnullable rfl rfl
  obtain ⟨hsame, hkept, -⟩ := (hkingdom ⟨[]⟩ _ rfl rfl).1 rfl
  obtain ⟨hrefused, -⟩ := (haged ⟨[]⟩ _ rfl rfl).2 (by decide)
  exact ⟨hsame, hkept, hrefused, (hflown ⟨[]⟩ rfl rfl).1⟩

end ObjectPath
