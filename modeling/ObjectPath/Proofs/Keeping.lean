import ObjectPath.Builtin
import ObjectPath.Proofs.Conformity
import ObjectPath.Proofs.Lookup

/-!
# Methods that keep types

A method keeps types if its body, run on values that fit throughout, returns such a value and
leaves a receiver of the type it had. What is run is the body, on a receiver that its invoker
has let through and on converted arguments; so nothing has to be known about how the method was
found. The methods of the built-in types keep types whatever the classes are, as long as clones
do.

Results:
* `CopiesFit.keeps_builtinMethods`: the methods of the built-in types keep types.
* `Method.Keeps.invoke`: an invocation returns a value that fits throughout, or fails, and its
  receiver keeps its type.
-/

namespace ObjectPath

variable {S : Schema} {classes : ClassId → Prop}

/-- Run on a receiver that the invoker lets through, and on arguments of the types that it takes,
    the body returns values that fit throughout and leaves a receiver of the receiver's type. -/
def Body.Keeps (S : Schema) (classes : ClassId → Prop) (self : Option Ty) (takes : List Ty) :
    Body → Prop
  | .static f => ∀ args, List.Forall₂ (S.Typed classes) takes args →
      ∀ w, f args = .ok w → S.FitsThroughout classes w
  | .shared f => ∀ v args, S.FitsThroughout classes v → (∀ ty, self = some ty → v.ty = ty) →
      List.Forall₂ (S.Typed classes) takes args →
      ∀ w, f v args = .ok w → S.FitsThroughout classes w
  | .mutable f => ∀ v args, S.FitsThroughout classes v → (∀ ty, self = some ty → v.ty = ty) →
      List.Forall₂ (S.Typed classes) takes args →
      (∀ w, (f v args).1 = .ok w → S.FitsThroughout classes w) ∧
        S.Typed classes v.ty (f v args).2

/-- The method's body keeps types on all that its invoker lets through. -/
def Method.Keeps (S : Schema) (classes : ClassId → Prop) (m : Method) : Prop :=
  m.body.Keeps S classes m.self m.takes

/-- Clones keep types, and so do the methods of the given classes and of their base classes. -/
structure Schema.Keeps (S : Schema) (classes : ClassId → Prop) : Prop
    extends S.CopiesFit classes where
  bodies : ∀ id, classes id → ∀ owner ∈ S.ancestors (.object id),
    ∀ m ∈ (S.classOf owner).methods, m.Keeps S classes

/-! ## Methods of the built-in types -/

theorem Body.keeps_ofText {self : Option Ty} {takes : List Ty} {run : String → List Value → Value}
    (h : ∀ s args, S.FitsThroughout classes (run s args)) :
    (Body.ofText run).Keeps S classes self takes := by
  intro v args hv _ _ w hw
  cases v with
  | string s =>
    cases hw
    exact h s args
  | _ =>
    cases hw
    exact hv

theorem Body.keeps_ofTexts {self : Option Ty} {takes : List Ty}
    (run : List Char → List Char → Bool) : (Body.ofTexts run).Keeps S classes self takes := by
  refine Body.keeps_ofText fun s args => ?_
  split <;> exact .of_no_parts rfl trivial

theorem Method.keeps_of {name : String} {self : Ty} {params : List Ty} {body : Body}
    (h : body.Keeps S classes (if body.receiver.isStatic then none else some self) params) :
    (Method.of name self params body).Keeps S classes := h

theorem Method.keeps_toText (self : Ty) : (Method.toText self).Keeps S classes := by
  intro v args _ _ _ w hw
  cases hw
  exact .of_no_parts rfl trivial

theorem keeps_stringMethods : ∀ m ∈ stringMethods, m.Keeps S classes := by
  have htext {name : String} {params : List Ty} {run : String → List Value → Value}
      (h : ∀ s args, (run s args).parts = [] ∧ S.PartsFit classes (run s args)) :
      (Method.of name .string params (.ofText run)).Keeps S classes :=
    Method.keeps_of (Body.keeps_ofText fun s args => .of_no_parts (h s args).1 (h s args).2)
  simp only [stringMethods, List.forall_mem_cons]
  refine ⟨?_, ?_, Method.keeps_toText _, ?_, ?_, ?_, ?_, ?_, by simp⟩
  · exact htext fun _ _ => ⟨rfl, trivial⟩
  · exact htext fun _ _ => ⟨rfl, trivial⟩
  · exact htext fun _ _ => ⟨rfl, trivial⟩
  · exact htext fun _ _ => ⟨rfl, trivial⟩
  · exact htext fun _ _ => ⟨rfl, trivial⟩
  · exact Method.keeps_of (Body.keeps_ofTexts _)
  · exact Method.keeps_of (Body.keeps_ofTexts _)

theorem Schema.typed_items {element : Ty} {v : Value} (hty : v.ty = .vector element)
    (h : S.FitsThroughout classes v) : ∀ item ∈ v.items, S.Typed classes element item := by
  cases v with
  | vector element' items =>
    cases hty
    exact fitsThroughout_vector_iff.1 h
  | _ => simp [Value.items]

theorem Schema.CopiesFit.keeps_vectorMethods (hS : S.CopiesFit classes) (element : Ty) :
    ∀ m ∈ vectorMethods S element, m.Keeps S classes := by
  simp only [vectorMethods, List.forall_mem_cons]
  refine ⟨?len, ?isEmpty, ?get, ?push, by simp⟩
  case len | isEmpty =>
    intro v args _ _ _ w hw
    cases hw
    exact .of_no_parts rfl trivial
  case get =>
    intro v args hv hself hargs w hw
    simp only at hw
    split at hw
    · split at hw
      · cases hw
        exact .of_no_parts rfl trivial
      · next item hitem =>
        have hitems := Schema.typed_items (hself _ rfl) hv
        split at hw
        · next copy hcopy =>
          cases hw
          have hfits := (hitems item (List.mem_of_getElem? hitem)).2.clone hS hcopy
          exact Schema.fitsThroughout_present_iff.2 hfits
        · simp at hw
    · cases hw
      exact .of_no_parts rfl trivial
  case push =>
    intro v args hv hself hargs
    have hty : v.ty = .vector element := hself _ rfl
    refine ⟨fun w hw => ?_, hty.symm, ?_⟩
    · cases hw
      exact .of_no_parts rfl trivial
    · obtain ⟨arg, rfl⟩ := List.length_eq_one_iff.1 hargs.length_eq.symm
      have hitems := Schema.fitsThroughout_vector_iff.2 (Schema.typed_items hty hv)
      exact hitems.append (List.forall₂_cons.1 hargs).1

theorem Schema.CopiesFit.keeps_builtinMethods (hS : S.CopiesFit classes) (ty : Ty) :
    ∀ m ∈ builtinMethods S ty, m.Keeps S classes := by
  cases ty with
  | string => exact keeps_stringMethods
  | vector element => exact hS.keeps_vectorMethods element
  | unit | null | optional _ | object _ => simp [builtinMethods]
  | _ =>
    intro m hm
    obtain rfl := List.mem_singleton.1 hm
    exact Method.keeps_toText _

theorem Schema.methods_classOf (S : Schema) (ty : Ty) :
    (∃ id, ty = .object id ∧ (S.classOf ty).methods = (S.decl id).methods) ∨
      (S.classOf ty).methods = builtinMethods S ty := by
  cases ty with
  | object id => exact .inl ⟨id, rfl, rfl⟩
  | _ => exact .inr rfl

/-! ## Methods of classes -/

theorem Schema.FitsThroughout.classes_of_ty {v : Value} (h : S.FitsThroughout classes v)
    {id : ClassId} (hty : v.ty = .object id) : classes id := by
  cases v with
  | object id slots =>
    cases hty
    exact h.here.1
  | _ => cases hty

/-- The methods found on a value that fits throughout, or on one of its base classes, keep
    types. -/
theorem Schema.Keeps.method (hS : S.Keeps classes) {v : Value} (hv : S.FitsThroughout classes v)
    {owner : Ty} (howner : owner ∈ S.ancestors v.ty) {m : Method}
    (hm : m ∈ (S.classOf owner).methods) : m.Keeps S classes := by
  by_cases hobject : ∃ id, v.ty = .object id
  · obtain ⟨id, hty⟩ := hobject
    exact hS.bodies id (hv.classes_of_ty hty) owner (hty ▸ howner) m hm
  · have hbuiltin (id : ClassId) : v.ty ≠ .object id := fun hty => hobject ⟨id, hty⟩
    rw [Schema.ancestors_of_builtin hbuiltin] at howner
    obtain rfl := List.mem_singleton.1 howner
    rcases S.methods_classOf v.ty with ⟨id, hty, -⟩ | hmethods
    · exact absurd hty (hbuiltin id)
    · exact hS.keeps_builtinMethods v.ty m (hmethods ▸ hm)

/-- A class that is not declared has nothing that could fail to keep types. -/
theorem Schema.keeps_of_classes (h : ∀ c ∈ S.classes,
    (∀ slot ∈ c.slots, slot.role = .ignored → S.Typed classes slot.ty slot.initial) ∧
      (∀ copy slots, c.cloning = .native copy → S.FitsThroughout classes (.object c.id slots) →
        S.FitsThroughout classes (.object c.id (copy slots))) ∧
      ∀ m ∈ c.methods, m.Keeps S classes) : S.Keeps classes := by
  have hdecl (id : ClassId) := S.decl_id id ▸ (S.decl_mem_or id).imp_left (h (S.decl id))
  have hcopies : S.CopiesFit classes := by
    refine ⟨fun id _ => ?_, fun id copy slots => ?_⟩
    · rcases hdecl id with ⟨hinitials, -, -⟩ | hnone
      · exact hinitials
      · simp [hnone, ClassDecl.of]
    · rcases hdecl id with ⟨-, hcopies, -⟩ | hnone
      · exact hcopies copy slots
      · simp [hnone, ClassDecl.of]
  refine ⟨hcopies, fun _ _ owner _ m hm => ?_⟩
  rcases S.methods_classOf owner with ⟨id, -, hmethods⟩ | hmethods
  · rw [hmethods] at hm
    rcases hdecl id with ⟨-, -, hbodies⟩ | hnone
    · exact hbodies m hm
    · simp [hnone, ClassDecl.of] at hm
  · exact hcopies.keeps_builtinMethods owner m (hmethods ▸ hm)

/-! ## Invocations -/

/-- Arguments that were taken have the types they were taken at. -/
theorem Intake.typed_of_takeAll {types : List Ty} {intake : Intake} {converted : List Value}
    (h : intake.takeAll types = .ok converted)
    (hrest : ∀ v ∈ intake.rest, S.FitsThroughout classes v) :
    List.Forall₂ (S.Typed classes) types converted := by
  induction types generalizing intake converted with
  | nil =>
    cases h
    exact .nil
  | cons ty types ih =>
    obtain ⟨member, taken, rest⟩ := intake
    cases rest with
    | nil => simp [takeAll, take] at h
    | cons v rest =>
      obtain ⟨hv, hrest⟩ := List.forall_mem_cons.1 hrest
      cases hw : ty.convert? v with
      | none => simp [takeAll, take, hw] at h
      | some w =>
        simp only [takeAll, take, hw, Except.map_eq_ok_iff] at h
        obtain ⟨others, hothers, rfl⟩ := h
        exact .cons (.of_converts (.of_convert? hw) hv) (ih hothers hrest)

theorem Method.typed_of_convertArgs {m : Method} {args converted : List Value}
    (h : m.convertArgs args = .ok converted) (hargs : ∀ v ∈ args, S.FitsThroughout classes v) :
    List.Forall₂ (S.Typed classes) m.takes converted := by
  unfold convertArgs Intake.start at h
  split at h
  · exact Intake.typed_of_takeAll h hargs
  · simp [bind, Except.bind] at h

theorem Method.ty_of_checkReceiver {m : Method} {v : Value}
    (h : m.checkReceiver (some v) = .ok ()) : ∀ ty, m.self = some ty → v.ty = ty := by
  intro ty hself
  simp only [checkReceiver, hself, receiverAs] at h
  split at h
  · assumption
  · simp [Except.map] at h

theorem Body.Keeps.run {body : Body} {self : Option Ty} {takes : List Ty}
    (h : body.Keeps S classes self takes) {v : Value} {args : List Value}
    (hv : S.FitsThroughout classes v) (hself : ∀ ty, self = some ty → v.ty = ty)
    (hargs : List.Forall₂ (S.Typed classes) takes args) (member : String) :
    (∀ w, (body.run member (some v) args).outcome = .ok w → S.FitsThroughout classes w) ∧
      ∀ after, (body.run member (some v) args).receiver = some after →
        S.Typed classes v.ty after := by
  cases body with
  | static f =>
    refine ⟨fun w hw => h args hargs w (Except.mapError_eq_ok_iff.1 hw), fun after hafter => ?_⟩
    cases hafter
    exact ⟨rfl, hv⟩
  | shared f =>
    refine ⟨fun w hw => h v args hv hself hargs w (Except.mapError_eq_ok_iff.1 hw),
      fun after hafter => ?_⟩
    cases hafter
    exact ⟨rfl, hv⟩
  | mutable f =>
    obtain ⟨hreturn, hreceiver⟩ := h v args hv hself hargs
    refine ⟨fun w hw => hreturn w (Except.mapError_eq_ok_iff.1 hw), fun after hafter => ?_⟩
    cases hafter
    exact hreceiver

/-- However an invocation ends, its receiver keeps its type; and what it returns fits
    throughout. A check that fails leaves the receiver as it is. -/
theorem Method.Keeps.invoke {m : Method} (hm : m.Keeps S classes) {v : Value} {args : List Value}
    (hv : S.FitsThroughout classes v) (hargs : ∀ a ∈ args, S.FitsThroughout classes a) :
    (∀ w, (m.invoke (some v) args).outcome = .ok w → S.FitsThroughout classes w) ∧
      S.Typed classes v.ty ((m.invoke (some v) args).receiver.getD v) := by
  have hsame : S.Typed classes v.ty v := ⟨rfl, hv⟩
  rw [Method.invoke_eq]
  cases hchecked : m.checked (some v) args with
  | error e => exact ⟨nofun, hsame⟩
  | ok converted =>
    obtain ⟨hconvert, hreceiver⟩ := checked_eq_ok_iff.1 hchecked
    obtain ⟨hreturn, hafter⟩ := Body.Keeps.run hm hv (ty_of_checkReceiver hreceiver)
      (typed_of_convertArgs hconvert hargs) m.name
    refine ⟨hreturn, ?_⟩
    cases hdone : (m.body.run m.name (some v) converted).receiver with
    | none => exact hsame
    | some after => exact hafter after hdone

end ObjectPath
