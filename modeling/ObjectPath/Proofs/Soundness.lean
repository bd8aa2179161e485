import ObjectPath.Proofs.Keeping

/-!
# Sound classes

A schema is sound if what its derived classes bring along respects types: the values that fresh
hidden slots start with, their own ways of copying objects, and the bodies of their methods. The
methods of the built-in types respect types in every sound schema.

Results:
* `WellTyped.clone`: the clone of a well-typed value is well-typed.
* `Method.Keeps.sound`: a method that keeps types, and whose invoker follows its signature, is
  sound.
* `Sound.method`: every method of the class of a well-typed value is consistent and sound.
* `Method.invoke_of_accepts`: a consistent method converts arguments of types it accepts, and
  its body is run.
-/

namespace ObjectPath

variable {S : Schema}

/-! ## Soundness -/

/-- Run on a receiver of the type `self` and on arguments of the types of the parameters, the
    body returns well-typed values and leaves a receiver of the same type. -/
def Body.Sound (S : Schema) (self : Ty) (params : List Ty) : Body → Prop
  | .static f => ∀ args, List.Forall₂ S.Fits params args → ∀ w, f args = .ok w → S.WellTyped w
  | .shared f => ∀ v args, S.Fits self v → List.Forall₂ S.Fits params args →
      ∀ w, f v args = .ok w → S.WellTyped w
  | .mutable f => ∀ v args, S.Fits self v → List.Forall₂ S.Fits params args →
      (∀ w, (f v args).1 = .ok w → S.WellTyped w) ∧ S.Fits self (f v args).2

/-- The body of the method is sound for the types of its parameters. -/
def Method.Sound (S : Schema) (self : Ty) (m : Method) : Prop := m.body.Sound S self m.params

/-- What derived classes bring along respects types. -/
structure Schema.Sound (S : Schema) : Prop where
  initials : ∀ id, (S.decl id).Derived → ∀ slot ∈ (S.decl id).slots, slot.role = .ignored →
    S.Fits slot.ty slot.initial
  copies : ∀ id copy slots, (S.decl id).cloning = .native copy →
    S.WellTyped (.object id slots) → S.WellTyped (.object id (copy slots))
  bodies : ∀ id, (S.decl id).Derived → ∀ m ∈ (S.decl id).methods, m.Sound S (.object id)

/-- A class that is not declared has nothing that could be unsound. -/
theorem Schema.sound_of_classes (h : ∀ c ∈ S.classes,
    (∀ slot ∈ c.slots, slot.role = .ignored → S.Fits slot.ty slot.initial) ∧
      (∀ copy slots, c.cloning = .native copy → S.WellTyped (.object c.id slots) →
        S.WellTyped (.object c.id (copy slots))) ∧
      ∀ m ∈ c.methods, m.Sound S (.object c.id)) : S.Sound := by
  have hdecl (id : ClassId) := S.decl_id id ▸ (S.decl_mem_or id).imp_left (h (S.decl id))
  refine ⟨fun id _ => ?_, fun id copy slots => ?_, fun id _ => ?_⟩
  · rcases hdecl id with ⟨hinitials, -, -⟩ | hnone
    · exact hinitials
    · simp [hnone, ClassDecl.of]
  · rcases hdecl id with ⟨-, hcopies, -⟩ | hnone
    · exact hcopies copy slots
    · simp [hnone, ClassDecl.of]
  · rcases hdecl id with ⟨-, -, hbodies⟩ | hnone
    · exact hbodies
    · simp [hnone, ClassDecl.of]

/-! ## Clones -/

theorem Schema.typed_isDerived_iff {ty : Ty} {v : Value} :
    S.Typed S.IsDerived ty v ↔ S.Fits ty v :=
  and_congr_right fun _ => wellTyped_iff.symm

theorem Schema.Sound.copiesFit (hS : S.Sound) : S.CopiesFit S.IsDerived where
  initials id hderived slot hslot hrole :=
    typed_isDerived_iff.2 (hS.initials id hderived slot hslot hrole)
  copies id copy slots hcopy h :=
    wellTyped_iff.1 (hS.copies id copy slots hcopy (wellTyped_iff.2 h))

theorem Schema.WellTyped.clone (hS : S.Sound) {v w : Value} (h : S.WellTyped v)
    (hc : S.clone v = .ok w) : S.WellTyped w :=
  wellTyped_iff.2 ((wellTyped_iff.1 h).clone hS.copiesFit hc)

/-! ## Methods of a class -/

theorem consistent_builtinMethods (S : Schema) (ty : Ty) :
    ∀ m ∈ builtinMethods S ty, m.Consistent ty := by
  cases ty <;> simp [builtinMethods, stringMethods, vectorMethods, Method.toText,
    Method.consistent_of]

/-- A body that keeps types, on receivers of the type `self`, is sound. -/
theorem Body.Keeps.sound {body : Body} {self : Ty} {params : List Ty}
    (h : body.Keeps S S.IsDerived (if body.receiver.isStatic then none else some self) params) :
    body.Sound S self params := by
  have hargs {args : List Value} (hargs : List.Forall₂ S.Fits params args) :
      List.Forall₂ (S.Typed S.IsDerived) params args :=
    hargs.imp fun _ _ => Schema.typed_isDerived_iff.2
  cases body with
  | static f =>
    intro args hfit w hw
    exact Schema.wellTyped_iff.2 (h args (hargs hfit) w hw)
  | shared f =>
    intro v args hv hfit w hw
    have hself (ty : Ty) (hty : some self = some ty) : v.ty = ty := hv.1.trans (Option.some.inj hty)
    exact Schema.wellTyped_iff.2 (h v args (Schema.wellTyped_iff.1 hv.2) hself (hargs hfit) w hw)
  | mutable f =>
    intro v args hv hfit
    have hself (ty : Ty) (hty : some self = some ty) : v.ty = ty := hv.1.trans (Option.some.inj hty)
    obtain ⟨hreturn, hafter⟩ :=
      h v args (Schema.wellTyped_iff.1 hv.2) hself (hargs hfit)
    rw [hv.1] at hafter
    exact ⟨fun w hw => Schema.wellTyped_iff.2 (hreturn w hw),
      Schema.typed_isDerived_iff.1 hafter⟩

/-- A consistent method of `self` that keeps types is sound. -/
theorem Method.Keeps.sound {m : Method} {self : Ty} (h : m.Keeps S S.IsDerived)
    (hm : m.Consistent self) : m.Sound S self := by
  obtain ⟨-, htakes, hself⟩ := hm
  rw [Method.Keeps, htakes, hself] at h
  exact h.sound

theorem Schema.Sound.sound_builtinMethods (hS : S.Sound) (ty : Ty) :
    ∀ m ∈ builtinMethods S ty, m.Sound S ty := fun m hm =>
  (hS.copiesFit.keeps_builtinMethods ty m hm).sound (consistent_builtinMethods S ty m hm)

/-- Every method of the class of a well-typed value follows its signature and respects types. -/
theorem Schema.Sound.method (hS : S.Sound) {v : Value} (hv : S.WellTyped v) {m : Method}
    (hm : m ∈ (S.classOf v.ty).methods) : m.Consistent v.ty ∧ m.Sound S v.ty := by
  cases v with
  | object id slots =>
    obtain ⟨-, -, -, hconsistent⟩ := hv.1
    rw [decl_id] at hconsistent
    exact ⟨hconsistent m hm, hS.bodies id hv.1 m hm⟩
  | absent _ | present _ => simp [Value.ty, Schema.classOf] at hm
  | _ => exact ⟨consistent_builtinMethods S _ m hm, hS.sound_builtinMethods _ m hm⟩

/-! ## Calls -/

theorem Method.accepts_iff {m : Method} {values : List Value} :
    m.accepts (values.map Value.ty) = true ↔
      List.Forall₂ (fun ty v => Ty.accepts ty v.ty = true) m.params values := by
  rw [← List.forall₂_map_right_iff (f := Value.ty) (R := fun ty arg => Ty.accepts ty arg = true),
    List.forall₂_iff_zip, accepts, Bool.and_eq_true, beq_iff_eq, List.all_eq_true]
  simp

/-- The checks of a consistent method pass on a receiver of its type and on arguments of types
    that it accepts. -/
theorem Method.invoke_of_accepts {m : Method} {v : Value} {args : List Value}
    (hm : m.Consistent v.ty) (hargs : m.accepts (args.map Value.ty) = true) :
    ∃ converted, ConvertsAll m.params args converted ∧
      m.invoke (some v) args = m.body.run m.name (some v) converted := by
  obtain ⟨harity, htakes, hself⟩ := hm
  have hall := accepts_iff.1 hargs
  obtain ⟨converted, hconv, htake⟩ := Intake.takeAll_of_accepts hall m.name 0
  have hconvert : m.convertArgs args = .ok converted := by
    simp only [convertArgs, Intake.start, harity, hall.length_eq, htakes]
    exact htake
  have hreceiver : m.checkReceiver (some v) = .ok () := by
    rw [checkReceiver, hself]
    split <;> simp_all [receiverAs, Except.map]
  exact ⟨converted, hconv, by rw [invoke_eq, checked_eq_ok_iff.2 ⟨hconvert, hreceiver⟩]⟩

/-- Once the body of a method is run, the only error is one that it raises. -/
theorem Body.raised_of_run {body : Body} {member : String} {v : Value} {args : List Value}
    {e : InvokeError} (h : (body.run member (some v) args).outcome = .error e) :
    ∃ text, e = .raised text := by
  have hraise : ∃ r : Except String Value,
      (body.run member (some v) args).outcome = r.mapError .raised := by
    cases body <;> exact ⟨_, rfl⟩
  obtain ⟨r, hr⟩ := hraise
  rw [hr] at h
  obtain ⟨text, -, rfl⟩ := Except.mapError_eq_error_iff.1 h
  exact ⟨text, rfl⟩

/-- A sound body returns well-typed values and keeps the type of its receiver. -/
theorem Body.Sound.run {body : Body} {self : Ty} {params : List Ty} {v : Value}
    {args : List Value} (h : body.Sound S self params) (hv : S.Fits self v)
    (hargs : List.Forall₂ S.Fits params args) (member : String) :
    (∀ w, (body.run member (some v) args).outcome = .ok w → S.WellTyped w) ∧
      ∃ after, (body.run member (some v) args).receiver = some after ∧ S.Fits self after := by
  cases body with
  | static f => exact ⟨fun w hw => h args hargs w (Except.mapError_eq_ok_iff.1 hw), v, rfl, hv⟩
  | shared f =>
    exact ⟨fun w hw => h v args hv hargs w (Except.mapError_eq_ok_iff.1 hw), v, rfl, hv⟩
  | mutable f =>
    obtain ⟨hreturn, hafter⟩ := h v args hv hargs
    exact ⟨fun w hw => hreturn w (Except.mapError_eq_ok_iff.1 hw), _, rfl, hafter⟩

end ObjectPath
