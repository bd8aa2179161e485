import ObjectPath.Declaration.MethodBlock
import ObjectPath.Gallery
import ObjectPath.Proofs.StaticEntry

/-!
# Objections to an invocation

Four things can stand against an invocation in front of the body: there is no receiver, there are
too many or too few arguments, an argument does not convert to the type of its parameter, or the
receiver is not of the declaring class. `Method.objections` lists all of them, in this order and
the arguments from left to right, without looking at how the invoker goes about its checks.

The invoker stops at the first objection and leaves the receiver as it is; if there is none, it runs
the body on the receiver and the converted arguments.

Results:
* `Intake.takeAll_cases`: arguments are taken up to the first objection to one of them.
* `Method.objection_ends_call`, `Method.runs_of_no_objections`: how a call of a consistent method
  ends.
* `Schema.invocation_heeds_first_objection`: the same for built-in methods and for method tables.
-/

namespace ObjectPath

namespace Method

/-! ## What stands against a call -/

/-- The objection to an argument, together with its parameter's type and its position. -/
def misfit? (member : String) : (Ty × Value) × Nat → Option InvokeError
  | ((ty, v), index) =>
    if (ty.convert? v).isNone then some (.argumentType member index ty.path v.ty.path) else none

/-- The objections to arguments, the first of which is at position `start`. -/
def misfits (member : String) (start : Nat) (types : List Ty) (args : List Value) :
    List InvokeError :=
  ((types.zip args).zipIdx start).filterMap (misfit? member)

/-- The objection to an instance method without a receiver. -/
def absences (m : Method) (receiver : Option Value) : List InvokeError :=
  if receiver.isNone && !m.receiver.isStatic then [.missingReceiver m.name] else []

/-- The objection to the number of arguments. -/
def miscounts (m : Method) (args : List Value) : List InvokeError :=
  if args.length = m.params.length then []
  else [.argumentCount m.name m.params.length args.length]

/-- The objection to the receiver of an instance method of the type `self`. -/
def mismatches (m : Method) (self : Ty) : Option Value → List InvokeError
  | none => []
  | some v =>
    if m.receiver.isStatic || v.ty == self then []
    else [.receiverMismatch m.name self.path v.ty.path]

/-- All that stands against calling a method of the type `self`, in the order of the checks. -/
def objections (m : Method) (self : Ty) (receiver : Option Value) (args : List Value) :
    List InvokeError :=
  m.absences receiver ++ m.miscounts args ++ misfits m.name 0 m.params args ++
    m.mismatches self receiver

end Method

/-! ## Taking arguments -/

/-- As many arguments as there are types are taken up to the first one that is objected to, or all
    of them if there is no objection. -/
theorem Intake.takeAll_cases (member : String) {types : List Ty} {values : List Value}
    (hlen : values.length = types.length) (taken : Nat) :
    (∃ e rest, Method.misfits member taken types values = e :: rest ∧
      (Intake.mk member taken values).takeAll types = .error e) ∨
    (Method.misfits member taken types values = [] ∧
      ∃ converted, ConvertsAll types values converted ∧
        (Intake.mk member taken values).takeAll types = .ok converted) := by
  induction types generalizing values taken with
  | nil =>
    obtain rfl := List.length_eq_zero_iff.1 hlen
    exact .inr ⟨rfl, [], .nil, rfl⟩
  | cons ty types ih =>
    obtain ⟨v, values, rfl⟩ := List.exists_cons_of_length_eq_add_one hlen
    have hrest : values.length = types.length := by simpa using hlen
    have hmisfits : Method.misfits member taken (ty :: types) (v :: values) =
        (Method.misfit? member ((ty, v), taken)).toList ++
          Method.misfits member (taken + 1) types values := by
      rw [Method.misfits, List.zip_cons_cons, List.zipIdx_cons, List.filterMap_cons]
      cases Method.misfit? member ((ty, v), taken) <;> rfl
    cases hconvert : ty.convert? v with
    | none =>
      left
      refine ⟨.argumentType member taken ty.path v.ty.path,
        Method.misfits member (taken + 1) types values, ?_, ?_⟩
      · rw [hmisfits, Method.misfit?, hconvert]
        rfl
      · simp [takeAll, take, hconvert]
    | some w =>
      have hfirst : Method.misfit? member ((ty, v), taken) = none := by
        simp [Method.misfit?, hconvert]
      rw [hmisfits, hfirst, Option.toList_none, List.nil_append]
      have htake : (Intake.mk member taken (v :: values)).takeAll (ty :: types) =
          ((Intake.mk member (taken + 1) values).takeAll types).map (w :: ·) := by
        simp [takeAll, take, hconvert]
      rw [htake]
      rcases ih hrest (taken + 1) with ⟨e, rest, hfound, herror⟩ | ⟨hnone, converted, hall, hok⟩
      · exact .inl ⟨e, rest, hfound, by rw [herror, Except.map]⟩
      · refine .inr ⟨hnone, w :: converted, ?_, by rw [hok, Except.map]⟩
        exact .cons (convert?_eq_some_iff.1 hconvert) hall

namespace Method

variable {m : Method} {self : Ty}

theorem convertArgs_of_miscount (hm : m.Consistent self) {args : List Value}
    (hlen : args.length ≠ m.params.length) :
    m.convertArgs args = .error (.argumentCount m.name m.params.length args.length) := by
  obtain ⟨harity, -, -⟩ := hm
  rw [convertArgs, Intake.start, harity, if_neg hlen]
  rfl

theorem convertArgs_of_count (hm : m.Consistent self) {args : List Value}
    (hlen : args.length = m.params.length) :
    m.convertArgs args = (Intake.mk m.name 0 args).takeAll m.params := by
  obtain ⟨harity, htakes, -⟩ := hm
  rw [convertArgs, Intake.start, harity, if_pos hlen, htakes]
  rfl

/-- The receiver is checked last, and only if it is there. -/
theorem checkReceiver_cases (hm : m.Consistent self) {receiver : Option Value}
    (hthere : m.absences receiver = []) :
    (∃ e, m.mismatches self receiver = [e] ∧ m.checkReceiver receiver = .error e) ∨
      (m.mismatches self receiver = [] ∧ m.checkReceiver receiver = .ok ()) := by
  obtain ⟨-, -, hself⟩ := hm
  unfold checkReceiver
  rw [hself]
  cases hstatic : m.receiver.isStatic with
  | true =>
    right
    cases receiver with
    | none => exact ⟨rfl, rfl⟩
    | some v => exact ⟨by simp [mismatches, hstatic], rfl⟩
  | false =>
    cases receiver with
    | none => simp [absences, hstatic] at hthere
    | some v =>
      by_cases hty : v.ty = self
      · exact .inr ⟨by simp [mismatches, hty], by simp [receiverAs, hty, Except.map]⟩
      · left
        refine ⟨.receiverMismatch m.name self.path v.ty.path, ?_, ?_⟩
        · simp [mismatches, hstatic, hty]
        · simp [receiverAs, hty, Except.map]

/-! ## Calls -/

/-- The checks of a method whose invoker follows its signature fail with the first objection, or
    pass if there is none. -/
theorem checked_by_objections (hm : m.Consistent self) (receiver : Option Value)
    (args : List Value) :
    (∃ e rest, m.objections self receiver args = e :: rest ∧
      m.checked receiver args = .error e) ∨
    (m.objections self receiver args = [] ∧ ∃ converted, ConvertsAll m.params args converted ∧
      m.checked receiver args = .ok converted) := by
  unfold objections checked
  by_cases hmissing : (receiver.isNone && !m.receiver.isStatic) = true
  · left
    rw [absences, if_pos hmissing, if_pos hmissing]
    exact ⟨_, _, rfl, rfl⟩
  have hthere : m.absences receiver = [] := if_neg hmissing
  rw [if_neg hmissing, hthere, List.nil_append]
  by_cases hlen : args.length = m.params.length
  · rw [convertArgs_of_count hm hlen, miscounts, if_pos hlen, List.nil_append]
    rcases Intake.takeAll_cases m.name hlen 0 with ⟨e, rest, hmisfits, htake⟩ |
      ⟨hmisfits, converted, hall, htake⟩
    · rw [htake, hmisfits]
      exact .inl ⟨e, _, rfl, rfl⟩
    · rw [htake, hmisfits, List.nil_append]
      rcases checkReceiver_cases hm hthere with ⟨e, hmismatch, hcheck⟩ | ⟨hmismatch, hcheck⟩
      · rw [hmismatch, hcheck]
        exact .inl ⟨e, [], rfl, rfl⟩
      · rw [hmismatch, hcheck]
        exact .inr ⟨rfl, converted, hall, rfl⟩
  · rw [convertArgs_of_miscount hm hlen, miscounts, if_neg hlen]
    exact .inl ⟨_, _, rfl, rfl⟩

theorem objection_ends_call (hm : m.Consistent self) {receiver : Option Value} {args : List Value}
    {e : InvokeError} (h : (m.objections self receiver args).head? = some e) :
    m.invoke receiver args = ⟨.error e, receiver⟩ := by
  rcases checked_by_objections hm receiver args with ⟨first, rest, hlist, hchecked⟩ | ⟨hlist, -⟩
  · rw [hlist, List.head?_cons, Option.some.injEq] at h
    rw [invoke_eq, hchecked, h]
  · rw [hlist] at h
    cases h

theorem runs_of_no_objections (hm : m.Consistent self) {receiver : Option Value}
    {args : List Value} (h : m.objections self receiver args = []) :
    ∃ converted, ConvertsAll m.params args converted ∧
      m.invoke receiver args = m.body.run m.name receiver converted := by
  rcases checked_by_objections hm receiver args with ⟨first, rest, hlist, -⟩ |
    ⟨-, converted, hall, hchecked⟩
  · rw [h] at hlist
    cases hlist
  · exact ⟨converted, hall, by rw [invoke_eq, hchecked]⟩

end Method

/-! ## Declared methods -/

/-- The method is listed in the table of a block of functions for the type `self`, whatever types
    the parameters' types stand for and whatever the functions do. -/
def Method.IsTabled (self : Ty) (m : Method) : Prop :=
  ∃ (block : MethodBlock) (table : MethodTable) (plan : MethodPlan) (tyOf : SourceType → Ty)
    (run : Value → List Value → Except String Value × Value),
    block.table = .ok table ∧ plan ∈ table.methods ∧ m = plan.declare self tyOf run

theorem Method.IsTabled.consistent {self : Ty} {m : Method} (h : m.IsTabled self) :
    m.Consistent self := by
  obtain ⟨-, -, plan, tyOf, run, -, -, rfl⟩ := h
  exact consistent_of plan.name self (plan.params.map tyOf) (MethodPlan.bodyOf run plan.receiver)

/-- Calling a method of a built-in type or of a method table ends with the first objection to the
    call, and then leaves the receiver as it is. Without objections the body is run on the receiver
    and the converted arguments. A static method neither cares for the receiver nor changes it. -/
theorem Schema.invocation_heeds_first_objection (S : Schema) {self : Ty} {m : Method}
    (hm : m ∈ builtinMethods S self ∨ m.IsTabled self) (receiver : Option Value)
    (args : List Value) :
    (∀ e, (m.objections self receiver args).head? = some e →
      m.invoke receiver args = ⟨.error e, receiver⟩) ∧
    (m.objections self receiver args = [] →
      ∃ converted, ConvertsAll m.params args converted ∧
        m.invoke receiver args = m.body.run m.name receiver converted) ∧
    (m.receiver = .static →
      (m.invoke receiver args).receiver = receiver ∧
        ∀ other, (m.invoke other args).outcome = (m.invoke receiver args).outcome) := by
  have hconsistent : m.Consistent self := by
    rcases hm with hbuiltin | htabled
    · exact consistent_builtinMethods S self m hbuiltin
    · exact htabled.consistent
  refine ⟨fun e => Method.objection_ends_call hconsistent,
    Method.runs_of_no_objections hconsistent, fun hstatic => ?_⟩
  obtain ⟨houtcome, hkept, -⟩ := Method.invoke_of_static hconsistent hstatic receiver args
  refine ⟨hkept, fun other => ?_⟩
  obtain ⟨hother, -, -⟩ := Method.invoke_of_static hconsistent hstatic other args
  rw [hother, houtcome]

/-- A block with one function, which barks a text a number of times. -/
def Gallery.repeater : MethodBlock :=
  { self := ⟨"Dog"⟩, forTrait := none, generics := [], entries := [],
    items := [.function
      { name := "bark", receiver := some "&self", params := [⟨"String"⟩, ⟨"u8"⟩],
        result := some ⟨"String"⟩, generics := [], isAsync := false, isUnsafe := false,
        attributes := [] }] }

/-- The method that the table of the block lists. -/
def Gallery.bark : Method :=
  MethodPlan.declare ⟨"bark", .shared, [⟨"String"⟩, ⟨"u8"⟩], false, "bark"⟩ Gallery.dog.objects
    (fun written => if written.text = "String" then .string else .int .u8)
    (fun v args =>
      let times := (argument args 1).number.toNat
      (.ok (.string (String.join (List.replicate times (argument args 0).text))), v))

theorem Gallery.isTabled_bark : Gallery.bark.IsTabled Gallery.dog.objects := by
  refine ⟨Gallery.repeater, ⟨none, [⟨"bark", .shared, [⟨"String"⟩, ⟨"u8"⟩], false, "bark"⟩]⟩,
    _, _, _, ?_, List.mem_singleton_self _, rfl⟩
  decide +kernel

/-- Against the first call speak a missing receiver and a missing argument, against the next one a
    missing argument and a receiver that is no vector, and so on; the fifth call pushes. Of two
    arguments that do not convert, the first one is reported. -/
theorem Schema.push_heeds_first_objection :
    ∃ push ∈ builtinMethods gallery (.vector (.int .i32)),
      push.invoke none [] = ⟨.error (.missingReceiver "push"), none⟩ ∧
      push.invoke (some .unit) [] = ⟨.error (.argumentCount "push" 1 0), some .unit⟩ ∧
      push.invoke (some .unit) [.unit] =
        ⟨.error (.argumentType "push" 0 "i32" "()"), some .unit⟩ ∧
      push.invoke (some .unit) [.int .i32 5] =
        ⟨.error (.receiverMismatch "push" "alloc::vec::Vec<i32>" "()"), some .unit⟩ ∧
      push.invoke (some (.vector (.int .i32) [])) [.int .i32 5] =
        ⟨.ok .unit, some (.vector (.int .i32) [.int .i32 5])⟩ ∧
      Gallery.bark.invoke (some .unit) [.unit, .unit] =
        ⟨.error (.argumentType "bark" 0 "alloc::string::String" "()"), some .unit⟩ := by
  have hmem : (vectorMethods gallery (.int .i32))[3] ∈ builtinMethods gallery (.vector (.int .i32)) :=
    List.getElem_mem _
  have hpush := gallery.invocation_heeds_first_objection (.inl hmem)
  have hbark := gallery.invocation_heeds_first_objection (.inr Gallery.isTabled_bark)
  refine ⟨_, hmem, (hpush none []).1 _ rfl, (hpush (some .unit) []).1 _ rfl,
    (hpush (some .unit) [.unit]).1 _ rfl, (hpush (some .unit) [.int .i32 5]).1 _ rfl, ?_,
    (hbark (some .unit) [.unit, .unit]).1 _ rfl⟩
  obtain ⟨converted, hall, hruns⟩ := (hpush (some (.vector (.int .i32) [])) [.int .i32 5]).2.1 rfl
  cases hall with
  | cons hfirst hrest =>
    cases hrest
    cases hfirst.convert?
    exact hruns

end ObjectPath
