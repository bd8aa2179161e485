import ObjectPath.Clone
import ObjectPath.Proofs.Conversion

/-!
# Values that fit throughout

The type of a value says what its direct parts are: the items of a vector have the type of its
elements, and an object has, in each slot, a value of the type that its class declares for the
slot. A value fits throughout if this holds of the value, of its parts, and so on down to the
last part. The classes that objects may be of are a parameter: with the derived classes, the
values that fit throughout are the well-typed ones.

Results:
* `FitsThroughout.at?`: what lies at a place of such a value is such a value.
* `FitsThroughout.put`: overwriting a part with another value of its type keeps all types.
* `wellTyped_iff`: well-typed values fit throughout, with objects of derived classes.
* `FitsThroughout.clone`: the clone of such a value is such a value, and has its type.
-/

namespace ObjectPath

/-- The direct parts of a value: its payload, its items, or its slots. -/
def Value.parts : Value → List Value
  | .present payload => [payload]
  | .vector _ items => items
  | .object _ slots => slots
  | _ => []

theorem Value.mem_parts_of_child? {v part : Value} {hop : Hop} (h : v.child? hop = some part) :
    part ∈ v.parts := by
  unfold child? at h
  split at h
  · cases h
    exact List.mem_singleton_self _
  · exact List.mem_of_getElem? h
  · simp at h

namespace Schema

/-! ## The judgment -/

/-- The direct parts of the value have the types that they should have, and if the value is an
    object, its class is one of the given classes. -/
def PartsFit (S : Schema) (classes : ClassId → Prop) : Value → Prop
  | .vector element items => ∀ item ∈ items, item.ty = element
  | .object id slots => classes id ∧ slots.map Value.ty = (S.decl id).slots.map Slot.ty
  | _ => True

/-- The parts fit in the value, in each of its parts, and so on. -/
inductive FitsThroughout (S : Schema) (classes : ClassId → Prop) : Value → Prop
  | intro {v : Value} (here : S.PartsFit classes v)
      (parts : ∀ part ∈ v.parts, FitsThroughout S classes part) : FitsThroughout S classes v

/-- The value fits throughout and is of the given type. -/
def Typed (S : Schema) (classes : ClassId → Prop) (ty : Ty) (v : Value) : Prop :=
  v.ty = ty ∧ S.FitsThroughout classes v

/-- The class is derived. -/
def IsDerived (S : Schema) (id : ClassId) : Prop := (S.decl id).Derived

variable {S : Schema} {classes : ClassId → Prop}

theorem FitsThroughout.here {v : Value} (h : S.FitsThroughout classes v) :
    S.PartsFit classes v := by
  cases h with
  | intro here _ => exact here

theorem FitsThroughout.parts {v : Value} (h : S.FitsThroughout classes v) :
    ∀ part ∈ v.parts, S.FitsThroughout classes part := by
  cases h with
  | intro _ parts => exact parts

/-- A value without parts fits throughout. -/
theorem FitsThroughout.of_no_parts {v : Value} (hparts : v.parts = [])
    (here : S.PartsFit classes v) : S.FitsThroughout classes v :=
  .intro here (by simp [hparts])

theorem FitsThroughout.mono {others : ClassId → Prop} {v : Value}
    (h : S.FitsThroughout classes v) (hclasses : ∀ id, classes id → others id) :
    S.FitsThroughout others v := by
  induction h with
  | @intro v here _ ih =>
    refine .intro ?_ ih
    cases v with
    | object id slots => exact ⟨hclasses id here.1, here.2⟩
    | vector element items => exact here
    | _ => trivial

theorem fitsThroughout_present_iff {payload : Value} :
    S.FitsThroughout classes (.present payload) ↔ S.FitsThroughout classes payload :=
  ⟨fun h => h.parts payload (List.mem_singleton_self _),
    fun h => .intro trivial fun _ hpart => List.mem_singleton.1 hpart ▸ h⟩

theorem fitsThroughout_vector_iff {element : Ty} {items : List Value} :
    S.FitsThroughout classes (.vector element items) ↔
      ∀ item ∈ items, S.Typed classes element item :=
  ⟨fun h item hitem => ⟨h.here item hitem, h.parts item hitem⟩,
    fun h => .intro (fun item hitem => (h item hitem).1) fun item hitem => (h item hitem).2⟩

theorem FitsThroughout.append {element : Ty} {items : List Value} {item : Value}
    (h : S.FitsThroughout classes (.vector element items)) (hitem : S.Typed classes element item) :
    S.FitsThroughout classes (.vector element (items ++ [item])) :=
  fitsThroughout_vector_iff.2
    (List.forall_mem_append.2 ⟨fitsThroughout_vector_iff.1 h, List.forall_mem_singleton.2 hitem⟩)

theorem fitsThroughout_object_iff {id : ClassId} {slots : List Value} :
    S.FitsThroughout classes (.object id slots) ↔ classes id ∧
      (S.decl id).slots.length = slots.length ∧
      ∀ (i : Nat) (slot : Slot) (v : Value), (S.decl id).slots[i]? = some slot →
        slots[i]? = some v → S.Typed classes slot.ty v := by
  constructor
  · intro h
    obtain ⟨hclass, htypes⟩ := h.here
    refine ⟨hclass, by simpa using (congrArg List.length htypes).symm, fun i slot v hs hv => ?_⟩
    have hty := congrArg (·[i]?) htypes
    simp only [List.getElem?_map, hs, hv, Option.map_some, Option.some.injEq] at hty
    exact ⟨hty, h.parts v (List.mem_of_getElem? hv)⟩
  · rintro ⟨hclass, hlen, hall⟩
    have hslot {i : Nat} (hi : i < slots.length) : S.Typed classes (S.decl id).slots[i].ty slots[i] :=
      hall i _ _ (List.getElem?_eq_getElem (hlen ▸ hi)) (List.getElem?_eq_getElem hi)
    refine .intro ⟨hclass, ?_⟩ fun part hpart => ?_
    · exact List.ext_getElem (by simp [hlen]) fun i hi _ => by
        simpa using (hslot (by simpa using hi)).1
    · obtain ⟨i, hi, rfl⟩ := List.getElem_of_mem hpart
      exact (hslot hi).2

/-- An object that fits throughout has a value of the slot's type in each slot. -/
theorem FitsThroughout.exists_slot {id : ClassId} {slots : List Value} {i : Nat} {slot : Slot}
    (h : S.FitsThroughout classes (.object id slots)) (hslot : (S.decl id).slots[i]? = some slot) :
    ∃ v, slots[i]? = some v ∧ S.Typed classes slot.ty v := by
  obtain ⟨-, hlen, hslots⟩ := fitsThroughout_object_iff.1 h
  obtain ⟨hi, -⟩ := List.getElem?_eq_some_iff.1 hslot
  have hv := List.getElem?_eq_getElem (hlen ▸ hi : i < slots.length)
  exact ⟨_, hv, hslots i slot _ hslot hv⟩

/-! ## Places -/

theorem FitsThroughout.at? {v part : Value} {p : Place} (h : S.FitsThroughout classes v)
    (hat : v.at? p = some part) : S.FitsThroughout classes part := by
  induction p generalizing v with
  | nil =>
    cases hat
    exact h
  | cons hop rest ih =>
    obtain ⟨child, hchild, hrest⟩ := Option.bind_eq_some_iff.1 hat
    exact ih (h.parts child (Value.mem_parts_of_child? hchild)) hrest

theorem FitsThroughout.of_in {v : Value} {spot : Spot} (h : S.FitsThroughout classes v)
    (hin : spot.In v) : S.FitsThroughout classes spot.value :=
  h.at? hin

theorem FitsThroughout.setChild {v part new : Value} {hop : Hop}
    (h : S.FitsThroughout classes v) (hchild : v.child? hop = some part)
    (hnew : S.Typed classes part.ty new) : S.Typed classes v.ty (v.setChild hop new) := by
  obtain ⟨hty, hnew⟩ := hnew
  unfold Value.child? at hchild
  split at hchild
  · cases hchild
    exact ⟨by simp [Value.setChild, Value.ty, hty], fitsThroughout_present_iff.2 hnew⟩
  · next id slots i =>
    obtain ⟨hi, rfl⟩ := List.getElem?_eq_some_iff.1 hchild
    obtain ⟨hclass, htypes⟩ := h.here
    have hkept : (slots.set i new).map Value.ty = slots.map Value.ty := by
      have hlen : i < (slots.map Value.ty).length := by simpa using hi
      have hself := List.set_getElem_self hlen
      rw [List.getElem_map] at hself
      rw [List.map_set, hty, hself]
    refine ⟨rfl, .intro ⟨hclass, hkept.trans htypes⟩ fun part hpart => ?_⟩
    rcases List.mem_or_eq_of_mem_set hpart with hold | rfl
    · exact h.parts part hold
    · exact hnew
  · simp at hchild

/-- Overwriting what lies at a place with another value of its type changes neither the type of
    the whole nor any type in it. -/
theorem FitsThroughout.put {v part new : Value} {p : Place} (h : S.FitsThroughout classes v)
    (hat : v.at? p = some part) (hnew : S.Typed classes part.ty new) :
    S.Typed classes v.ty (v.put p new) := by
  induction p generalizing v with
  | nil =>
    cases hat
    exact hnew
  | cons hop rest ih =>
    obtain ⟨child, hchild, hrest⟩ := Option.bind_eq_some_iff.1 hat
    have hinner := ih (h.parts child (Value.mem_parts_of_child? hchild)) hrest
    simp only [Value.put, hchild]
    exact h.setChild hchild hinner

/-- Overwriting a spot with another value of its type keeps all types. -/
theorem FitsThroughout.put_spot {v new : Value} {spot : Spot} (h : S.FitsThroughout classes v)
    (hin : spot.In v) (hnew : S.Typed classes spot.value.ty new) :
    S.Typed classes v.ty (v.put spot.place new) :=
  h.put hin hnew

/-! ## Well-typed values -/

/-- The well-typed values are those that fit throughout and whose objects are all of derived
    classes. -/
theorem wellTyped_iff {v : Value} : S.WellTyped v ↔ S.FitsThroughout S.IsDerived v := by
  induction v using Value.inductionOnParts with
  | present payload ih => exact ih.trans fitsThroughout_present_iff.symm
  | vector element items ih =>
    rw [fitsThroughout_vector_iff]
    show S.ItemsFit element items ↔ _
    rw [itemsFit_iff]
    exact forall₂_congr fun item hitem => and_congr_right fun _ => ih item hitem
  | object id slots ih =>
    rw [fitsThroughout_object_iff]
    show (S.decl id).Derived ∧ S.SlotsFit (S.decl id).slots slots ↔ _
    rw [slotsFit_iff]
    refine and_congr_right fun _ => and_congr_right fun _ => forall₃_congr fun i slot v => ?_
    exact forall₂_congr fun _ hv => and_congr_right fun _ => ih v (List.mem_of_getElem? hv)
  | _ => exact ⟨fun _ => .of_no_parts rfl trivial, fun _ => trivial⟩

/-! ## Conversion -/

theorem Typed.of_converts {ty : Ty} {v w : Value} (h : Converts ty v w)
    (hv : S.FitsThroughout classes v) : S.Typed classes ty w := by
  refine ⟨h.ty_eq, ?_⟩
  induction h with
  | same v => exact hv
  | null inner => exact .of_no_parts rfl trivial
  | wrap _ _ ih => exact fitsThroughout_present_iff.2 (ih hv)

/-- What takes the place of an old value has the old value's type. -/
theorem Typed.of_overwrite? {old new stored : Value} (hnew : S.FitsThroughout classes new)
    (h : old.overwrite? new = some stored) : S.Typed classes old.ty stored :=
  .of_converts (.of_convert? h) hnew

/-! ## Clones -/

/-- What classes bring along for cloning keeps types: the values that fresh hidden slots start
    with, and their own ways of copying objects. -/
structure CopiesFit (S : Schema) (classes : ClassId → Prop) : Prop where
  initials : ∀ id, classes id → ∀ slot ∈ (S.decl id).slots, slot.role = .ignored →
    S.Typed classes slot.ty slot.initial
  copies : ∀ id copy slots, (S.decl id).cloning = .native copy →
    S.FitsThroughout classes (.object id slots) → S.FitsThroughout classes (.object id (copy slots))

end Schema

theorem mem_of_mem_collect {ε α : Type} {results : List (Except ε α)} {values : List α}
    (h : collect results = .ok values) {v : α} (hv : v ∈ values) : .ok v ∈ results := by
  induction results generalizing values with
  | nil =>
    cases h
    simp at hv
  | cons r rest ih =>
    cases r with
    | error e => simp [collect] at h
    | ok a =>
      rw [collect, Except.map_eq_ok_iff] at h
      obtain ⟨others, hothers, rfl⟩ := h
      rcases List.mem_cons.1 hv with rfl | hv
      · exact List.mem_cons_self
      · exact List.mem_cons_of_mem _ (ih hothers hv)

/-- The values are what a clone has in its slots, given the results of cloning each slot: hidden
    slots are initial, and in the other ones is what cloning them gave. -/
def ClassDecl.ClonedFrom (c : ClassDecl) (results : List (Except CloneError Value))
    (copies : List Value) : Prop :=
  ∀ (i : Nat) (slot : Slot) (copy : Value), c.slots[i]? = some slot → copies[i]? = some copy →
    slot.role = .ignored ∧ copy = slot.initial ∨
      slot.role ≠ .ignored ∧ results[i]? = some (.ok copy)

/-- The slots of a clone come from the clones of the slots, hidden slots aside. -/
theorem ClassDecl.of_cloneSlots {c : ClassDecl} {results : List (Except CloneError Value)}
    {copies : List Value} (h : c.cloneSlots results = .ok copies) :
    copies.length = min c.slots.length results.length ∧ c.ClonedFrom results copies := by
  unfold cloneSlots at h
  split at h
  · simp at h
  · next hfind =>
    cases h
    refine ⟨by simp, fun i slot w hslot hw => ?_⟩
    simp only [List.getElem?_map, Option.map_eq_some_iff, List.getElem?_zip_eq_some] at hw
    obtain ⟨⟨slot', r⟩, ⟨hslot', hr⟩, hw⟩ := hw
    obtain rfl : slot = slot' := Option.some.inj (hslot.symm.trans hslot')
    -- a cell that takes part in cloning was cloned
    have hcell : slot.role ≠ .ignored → r.toOption.isNone = false := by
      intro hrole
      have hmem : (slot, r) ∈ c.slots.zip results :=
        List.mem_of_getElem? (List.getElem?_zip_eq_some.2 ⟨hslot, hr⟩)
      have hnone := List.find?_eq_none.1 hfind (slot, r) (by
        cases hs : slot.role <;> simp_all [cloneOrder])
      exact Bool.eq_false_iff.2 hnone
    cases hs : slot.role with
    | ignored => simp_all
    | declared | base =>
      cases r with
      | error e => simp [hs, Except.toOption] at hcell
      | ok v => simp_all

namespace Schema

variable {S : Schema} {classes : ClassId → Prop}

theorem cloneEach_eq_map (values : List Value) : S.cloneEach values = values.map S.clone := by
  induction values with
  | nil => rfl
  | cons v rest ih => rw [cloneEach, ih, List.map_cons]

theorem ty_of_clone {v w : Value} (h : S.clone v = .ok w) : w.ty = v.ty := by
  induction v using Value.inductionOnParts generalizing w with
  | present payload ih =>
    rw [clone, Except.map_eq_ok_iff] at h
    obtain ⟨copy, hcopy, rfl⟩ := h
    rw [Value.ty, Value.ty, ih hcopy]
  | vector element items =>
    rw [clone, Except.map_eq_ok_iff] at h
    obtain ⟨copies, -, rfl⟩ := h
    rfl
  | object id slots =>
    rw [clone] at h
    split at h
    · simp at h
    · cases h
      rfl
    · obtain ⟨copies, -, rfl⟩ := Except.map_eq_ok_iff.1 h
      rfl
  | _ =>
    simp only [clone, Except.ok.injEq] at h
    rw [← h]

theorem FitsThroughout.clone (hS : S.CopiesFit classes) {v w : Value}
    (h : S.FitsThroughout classes v) (hc : S.clone v = .ok w) : S.FitsThroughout classes w := by
  induction v using Value.inductionOnParts generalizing w with
  | present payload ih =>
    rw [Schema.clone, Except.map_eq_ok_iff] at hc
    obtain ⟨copy, hcopy, rfl⟩ := hc
    exact fitsThroughout_present_iff.2 (ih (fitsThroughout_present_iff.1 h) hcopy)
  | vector element items ih =>
    rw [Schema.clone, cloneEach_eq_map, Except.map_eq_ok_iff] at hc
    obtain ⟨copies, hcopies, rfl⟩ := hc
    have hitems := fitsThroughout_vector_iff.1 h
    refine fitsThroughout_vector_iff.2 fun copy hcopy => ?_
    obtain ⟨item, hitem, hclone⟩ := List.mem_map.1 (mem_of_mem_collect hcopies hcopy)
    obtain ⟨hty, hfits⟩ := hitems item hitem
    exact ⟨(ty_of_clone hclone).trans hty, ih item hitem hfits hclone⟩
  | object id slots ih =>
    rw [Schema.clone, cloneEach_eq_map] at hc
    split at hc
    · simp at hc
    · next copy hcopy =>
      cases hc
      exact hS.copies id copy slots hcopy h
    · obtain ⟨copies, hcopies, rfl⟩ := Except.map_eq_ok_iff.1 hc
      obtain ⟨hclass, hlen, hall⟩ := fitsThroughout_object_iff.1 h
      obtain ⟨hcount, hfrom⟩ := ClassDecl.of_cloneSlots hcopies
      refine fitsThroughout_object_iff.2
        ⟨hclass, by simp [hcount, hlen], fun i slot copy hs hcopy => ?_⟩
      rcases hfrom i slot copy hs hcopy with ⟨hrole, rfl⟩ | ⟨-, hr⟩
      · exact hS.initials id hclass slot (List.mem_of_getElem? hs) hrole
      · rw [List.getElem?_map] at hr
        obtain ⟨v, hv, hclone⟩ := Option.map_eq_some_iff.1 hr
        obtain ⟨hty, hfits⟩ := hall i slot v hs hv
        exact ⟨(ty_of_clone hclone).trans hty, ih v (List.mem_of_getElem? hv) hfits hclone⟩
  | _ =>
    simp only [Schema.clone, Except.ok.injEq] at hc
    exact hc ▸ h

end Schema

end ObjectPath
