import ObjectPath.Proofs.NameOnly
import ObjectPath.Proofs.StaticEntry
import Mathlib.Data.List.Nodup
import Mathlib.Data.Nat.Find

/-!
# What classes say is what values have

Lookup reads the description of a class: the names and types of its fields, their positions, and
its base class. Access reads the slots of an object: by name, by position, and up to the embedded
base object. The description of a derived class is made from its slots, so the two agree, level by
level: a field is found by lookup exactly where the object has one, and no member that was found
is missing on the object.

Results:
* `Class.field?_eq_some_iff`, `Class.fieldIndex?_eq_some_iff`: the two ways to look into a
  description, if its fields have different names.
* `Schema.Faithful.ownField_of_member`, `Schema.Faithful.ownField_of_field?`: a described field has
  one slot, whichever way it is reached, and there are no other fields.
* `Schema.Faithful.resolveField_eq_some_iff`: lookup finds the nearest field that the object has.
* `Evaluation.Run.of_memberNotFound`: which segment and which value a missing member is about.
* `Schema.lookup_agrees_with_access`: all of this for values of derived classes.
-/

namespace ObjectPath

/-! ## Descriptions -/

/-- A search for the only element of its kind finds it, from whichever end it starts. -/
theorem find?_eq_some_iff_of_unique {α : Type} {items : List α} {p : α → Bool} {a : α}
    (hunique : ∀ b ∈ items, ∀ b' ∈ items, p b = true → p b' = true → b = b') :
    items.find? p = some a ↔ a ∈ items ∧ p a = true := by
  constructor
  · intro h
    exact ⟨List.mem_of_find?_eq_some h, List.find?_some h⟩
  · rintro ⟨ha, hp⟩
    cases hfound : items.find? p with
    | none => exact absurd hp (by simpa using List.find?_eq_none.1 hfound a ha)
    | some b =>
      have hb := hunique b (List.mem_of_find?_eq_some hfound) a ha (List.find?_some hfound) hp
      rw [hb]

namespace Class

variable {c : Class} {name : String} {i j : Nat} {m m' : Member}

/-- No two fields have the same name. -/
def NamesDiffer (c : Class) : Prop := (c.fields.map Member.name).Nodup

instance (c : Class) : Decidable c.NamesDiffer := inferInstanceAs (Decidable (List.Nodup _))

theorem NamesDiffer.index_eq (h : c.NamesDiffer) (hi : c.fields[i]? = some m)
    (hj : c.fields[j]? = some m') (hname : m.name = m'.name) : i = j := by
  have hlt : i < (c.fields.map Member.name).length := by
    rw [List.length_map]
    exact (List.getElem?_eq_some_iff.1 hi).1
  refine (List.getElem?_inj hlt h).1 ?_
  rw [List.getElem?_map, List.getElem?_map, hi, hj, Option.map_some, Option.map_some, hname]

theorem field?_eq_some_iff (h : c.NamesDiffer) :
    c.field? name = some m ↔ m ∈ c.fields ∧ m.name = name := by
  rw [field?, find?_eq_some_iff_of_unique, List.mem_reverse, beq_iff_eq]
  intro m hm m' hm' hname hname'
  rw [List.mem_reverse] at hm hm'
  rw [beq_iff_eq] at hname hname'
  exact List.inj_on_of_nodup_map h hm hm' (hname.trans hname'.symm)

theorem fieldIndex?_eq_some_iff (h : c.NamesDiffer) :
    c.fieldIndex? name = some i ↔ ∃ m, c.fields[i]? = some m ∧ m.name = name := by
  have hentry (entry : Member × Nat) :
      (c.fields.zipIdx.reverse.find? fun entry => entry.1.name == name) = some entry ↔
        c.fields[entry.2]? = some entry.1 ∧ entry.1.name = name := by
    rw [find?_eq_some_iff_of_unique, List.mem_reverse, List.mem_zipIdx_iff_getElem?, beq_iff_eq]
    rintro ⟨m, i⟩ hm ⟨m', j⟩ hm' hname hname'
    rw [List.mem_reverse, List.mem_zipIdx_iff_getElem?] at hm hm'
    rw [beq_iff_eq] at hname hname'
    obtain rfl : i = j := h.index_eq hm hm' (hname.trans hname'.symm)
    rw [hm, Option.some.injEq] at hm'
    exact Prod.ext hm' rfl
  rw [fieldIndex?, Option.map_eq_some_iff]
  constructor
  · rintro ⟨entry, hfound, rfl⟩
    exact ⟨entry.1, (hentry entry).1 hfound⟩
  · rintro ⟨m, hm⟩
    exact ⟨⟨m, i⟩, (hentry ⟨m, i⟩).2 hm, rfl⟩

end Class

/-! ## Slots -/

namespace Schema

variable {S : Schema} {classes : ClassId → Prop} {v : Value} {name : String}

/-- The field of the object is the slot of the given position in the description, for those who
    ask by name and for those who ask by position. -/
structure OwnField (S : Schema) (v : Value) (name : String) (index : Nat) (field : Spot) :
    Prop where
  listed : (S.classOf v.ty).fields[index]? = some ⟨name, field.value.ty⟩
  indexed : (S.classOf v.ty).fieldIndex? name = some index
  byName : S.field? v name = some field
  byIndex : S.fieldAt? v index = some field
  named : ∀ i, (S.fieldNames v)[i]? = some name ↔ i = index

/-- The value is of a derived class all of whose base classes are derived, or of no class; the
    fields of each have different names, and the values in it have the types of their slots. -/
structure Faithful (S : Schema) (classes : ClassId → Prop) (v : Value) : Prop where
  fits : S.FitsThroughout classes v
  derived : ∀ id, .object id ∈ S.ancestors v.ty → S.IsDerived id
  names : ∀ ty ∈ S.ancestors v.ty, (S.classOf ty).NamesDiffer

namespace Faithful

section Objects

variable {id : ClassId} {slots : List Value} (h : S.Faithful classes (.object id slots))

include h

theorem isDerived : (S.decl id).Derived := h.derived id (S.self_mem_ancestors _)

theorem structOf?_eq : S.structOf? (.object id slots) = some (S.decl id) := by
  obtain ⟨hopen, -⟩ := h.isDerived
  simp [structOf?, hopen]

theorem fields_eq : (S.classOf (.object id)).fields =
    (S.decl id).declaredSlots.map ClassDecl.memberOf := by
  obtain ⟨-, hfields, -⟩ := h.isDerived
  exact hfields

/-- The names of the declared slots are the names of the fields, so they are different. -/
theorem names_eq : (S.decl id).declaredSlots.map (fun entry => entry.1.name) =
    (S.classOf (.object id)).fields.map Member.name := by
  rw [h.fields_eq, List.map_map]
  rfl

theorem slotNames_nodup : ((S.decl id).declaredSlots.map fun entry => entry.1.name).Nodup := by
  rw [h.names_eq]
  exact h.names _ (S.self_mem_ancestors _)

theorem field?_object {entry : Slot × Nat} (hentry : entry ∈ (S.decl id).declaredSlots) :
    S.field? (.object id slots) entry.1.name = slotSpot? (.object id slots) entry := by
  have hfind : (S.decl id).declaredSlots.find? (fun other => other.1.name == entry.1.name) =
      some entry := by
    rw [find?_eq_some_iff_of_unique]
    · exact ⟨hentry, beq_self_eq_true _⟩
    · intro b hb b' hb' hname hname'
      rw [beq_iff_eq] at hname hname'
      exact List.inj_on_of_nodup_map h.slotNames_nodup hb hb' (hname.trans hname'.symm)
  simp [field?, h.structOf?_eq, hfind]

theorem fieldAt?_object (index : Nat) :
    S.fieldAt? (.object id slots) index =
      ((S.decl id).declaredSlots[index]?).bind (slotSpot? (.object id slots)) := by
  rw [fieldAt?, h.structOf?_eq]
  rfl

theorem fieldNames_object : S.fieldNames (.object id slots) =
    (S.classOf (.object id)).fields.map Member.name := by
  rw [fieldNames, h.structOf?_eq, ← h.names_eq]
  rfl

/-- The slot at a position of the description is the field of its name. -/
theorem ownField_of_slot {index : Nat} {entry : Slot × Nat}
    (hentry : (S.decl id).declaredSlots[index]? = some entry) :
    ∃ field, S.OwnField (.object id slots) entry.1.name index field := by
  have hmem : entry ∈ (S.decl id).declaredSlots := List.mem_of_getElem? hentry
  have hdiffer : (S.classOf (.object id)).NamesDiffer := h.names _ (S.self_mem_ancestors _)
  obtain ⟨field, hspot, hty⟩ := h.fits.here.slotSpot hmem
  have hlisted : (S.classOf (.object id)).fields[index]? = some ⟨entry.1.name, field.value.ty⟩ := by
    rw [h.fields_eq, List.getElem?_map, hentry, hty]
    rfl
  refine ⟨field, hlisted, ?_, ?_, ?_, ?_⟩
  · exact (Class.fieldIndex?_eq_some_iff hdiffer).2 ⟨_, hlisted, rfl⟩
  · rw [h.field?_object hmem, hspot]
  · rw [h.fieldAt?_object, hentry, Option.bind_some, hspot]
  · intro i
    rw [h.fieldNames_object, List.getElem?_map, Option.map_eq_some_iff]
    constructor
    · rintro ⟨m, hm, hname⟩
      exact hdiffer.index_eq hm hlisted hname
    · rintro rfl
      exact ⟨_, hlisted, rfl⟩

end Objects

/-- What is described is there. -/
theorem ownField_of_member (h : S.Faithful classes v) {index : Nat} {m : Member}
    (hm : (S.classOf v.ty).fields[index]? = some m) :
    ∃ field, S.OwnField v m.name index field ∧ field.value.ty = m.ty := by
  cases v with
  | object id slots =>
    rw [Value.ty, h.fields_eq, List.getElem?_map, Option.map_eq_some_iff] at hm
    obtain ⟨entry, hentry, rfl⟩ := hm
    obtain ⟨field, hfield⟩ := h.ownField_of_slot hentry
    have hlisted := hfield.listed
    rw [Value.ty, h.fields_eq, List.getElem?_map, hentry, Option.map_some,
      Option.some.injEq] at hlisted
    exact ⟨field, hfield, (congrArg Member.ty hlisted).symm⟩
  | _ => cases hm

/-- What is there is described. -/
theorem ownField_of_field? (h : S.Faithful classes v) {field : Spot}
    (hfield : S.field? v name = some field) : ∃ index, S.OwnField v name index field := by
  obtain ⟨c, entry, hc, hentry, rfl, -⟩ := field?_cases hfield
  obtain ⟨id, slots, rfl, rfl⟩ := structOf?_eq_some hc
  obtain ⟨index, hindex⟩ := List.getElem?_of_mem hentry
  obtain ⟨other, hother⟩ := h.ownField_of_slot hindex
  obtain rfl : other = field := Option.some.inj (hother.byName.symm.trans hfield)
  exact ⟨index, hother⟩

/-- The class declares the field exactly if the value has it. -/
theorem field?_iff (h : S.Faithful classes v) {m : Member} :
    (S.classOf v.ty).field? name = some m ↔
      ∃ field, S.field? v name = some field ∧ m = ⟨name, field.value.ty⟩ := by
  rw [Class.field?_eq_some_iff (h.names _ (S.self_mem_ancestors _))]
  constructor
  · rintro ⟨hm, rfl⟩
    obtain ⟨index, hindex⟩ := List.getElem?_of_mem hm
    obtain ⟨field, hfield, hty⟩ := h.ownField_of_member hindex
    exact ⟨field, hfield.byName, by rw [hty]⟩
  · rintro ⟨field, hfield, rfl⟩
    obtain ⟨index, hown⟩ := h.ownField_of_field? hfield
    exact ⟨List.mem_of_getElem? hown.listed, rfl⟩

theorem field?_eq_none_iff (h : S.Faithful classes v) :
    (S.classOf v.ty).field? name = none ↔ S.field? v name = none := by
  simp only [Option.eq_none_iff_forall_ne_some]
  constructor
  · intro hnone field hfield
    exact hnone ⟨name, field.value.ty⟩ (h.field?_iff.2 ⟨field, hfield, rfl⟩)
  · intro hnone m hm
    obtain ⟨field, hfield, -⟩ := h.field?_iff.1 hm
    exact hnone field hfield

/-! ## Base objects -/

theorem base?_eq_none (h : S.Faithful classes v) (hbase : (S.classOf v.ty).base = none) :
    S.base? v = none := by
  cases v with
  | object id slots =>
    obtain ⟨-, -, hslot, -⟩ := h.isDerived
    have hnone : (S.decl id).baseSlot? = none := by
      rw [← Option.map_eq_none_iff, ← hslot]
      exact hbase
    simp [base?, h.structOf?_eq, hnone]
  | _ => rfl

theorem base (h : S.Faithful classes v) {b : Member} (hbase : (S.classOf v.ty).base = some b) :
    ∃ up, S.base? v = some up ∧ up.value.ty = b.ty ∧ S.Faithful classes up.value := by
  have hself : S.PartsFit S.IsDerived v := by
    refine h.fits.here.of_ty fun id hid => h.derived id ?_
    rw [← hid]
    exact S.self_mem_ancestors v.ty
  obtain ⟨up, hup, hty⟩ := hself.base hbase
  have hancestors : ∀ ty ∈ S.ancestors up.value.ty, ty ∈ S.ancestors v.ty := by
    intro ty hmem
    rw [ancestors_of_base hbase, ← hty]
    exact List.mem_cons_of_mem _ hmem
  exact ⟨up, hup, hty, h.fits.of_in (in_of_base? hup),
    fun id hid => h.derived id (hancestors _ hid), fun ty hmem => h.names ty (hancestors ty hmem)⟩

theorem of_base? (h : S.Faithful classes v) {up : Spot} (hup : S.base? v = some up) :
    S.Faithful classes up.value := by
  cases hbase : (S.classOf v.ty).base with
  | none =>
    rw [h.base?_eq_none hbase] at hup
    cases hup
  | some b =>
    obtain ⟨other, hother, -, hfaithful⟩ := h.base hbase
    obtain rfl : other = up := Option.some.inj (hother.symm.trans hup)
    exact hfaithful

theorem of_ascend? (h : S.Faithful classes v) {depth : Nat} {up : Spot}
    (hup : S.ascend? v depth = some up) : S.Faithful classes up.value := by
  induction depth generalizing v up with
  | zero =>
    rw [ascend?, Option.some.injEq] at hup
    exact hup ▸ h
  | succ depth ih =>
    simp only [ascend?, Option.bind_eq_bind, Option.bind_eq_some_iff, Option.some.injEq] at hup
    obtain ⟨first, hfirst, rest, hrest, rfl⟩ := hup
    show S.Faithful classes rest.value
    exact ih (h.of_base? hfirst) hrest

end Faithful

/-! ## The nearest field -/

/-- The field of the given name that is nearest to the value: of the base object `depth` levels up,
    which is the first one that has a field of that name. -/
structure NearestField (S : Schema) (v : Value) (name : String) (depth : Nat) (up field : Spot) :
    Prop where
  ascends : S.ascend? v depth = some up
  has : S.field? up.value name = some field
  nearest : ∀ level < depth, ∀ nearer, S.ascend? v level = some nearer →
    S.field? nearer.value name = none

namespace NearestField

variable {depth : Nat} {up field : Spot}

theorem zero_iff : S.NearestField v name 0 up field ↔
    up = .whole v ∧ S.field? v name = some field := by
  constructor
  · rintro ⟨hup, hfield, -⟩
    rw [ascend?, Option.some.injEq] at hup
    subst hup
    exact ⟨rfl, hfield⟩
  · rintro ⟨rfl, hfield⟩
    exact ⟨rfl, hfield, fun level hlevel => absurd hlevel (Nat.not_lt_zero level)⟩

/-- A field further up is a field of the base object, and the value has none of that name. -/
theorem succ_iff {base : Spot} (hbase : S.base? v = some base) :
    S.NearestField v name (depth + 1) up field ↔
      S.field? v name = none ∧ ∃ rest, S.NearestField base.value name depth rest field ∧
        up = base.within rest := by
  constructor
  · rintro ⟨hup, hfield, hnearest⟩
    rw [ascend?_succ hbase, Option.map_eq_some_iff] at hup
    obtain ⟨rest, hrest, rfl⟩ := hup
    refine ⟨hnearest 0 (Nat.succ_pos depth) (.whole v) rfl, rest, ⟨hrest, hfield, ?_⟩, rfl⟩
    intro level hlevel nearer hnearer
    refine hnearest (level + 1) (Nat.succ_lt_succ hlevel) (base.within nearer) ?_
    rw [ascend?_succ hbase, hnearer, Option.map_some]
  · rintro ⟨hown, rest, ⟨hrest, hfield, hnearest⟩, rfl⟩
    refine ⟨by rw [ascend?_succ hbase, hrest, Option.map_some], hfield, ?_⟩
    intro level hlevel nearer hnearer
    cases level with
    | zero =>
      rw [ascend?, Option.some.injEq] at hnearer
      exact hnearer ▸ hown
    | succ level =>
      rw [ascend?_succ hbase, Option.map_eq_some_iff] at hnearer
      obtain ⟨other, hother, rfl⟩ := hnearer
      exact hnearest level (Nat.lt_of_succ_lt_succ hlevel) other hother

/-- If the value has no field of the name, the nearest one is that of the base object. -/
theorem of_base (hown : S.field? v name = none) (h : S.NearestField v name depth up field) :
    ∃ above base rest, depth = above + 1 ∧ S.base? v = some base ∧
      S.NearestField base.value name above rest field ∧ up = base.within rest := by
  cases depth with
  | zero =>
    obtain ⟨-, hfield⟩ := zero_iff.1 h
    rw [hown] at hfield
    cases hfield
  | succ above =>
    have hup := h.ascends
    simp only [ascend?, Option.bind_eq_bind, Option.bind_eq_some_iff] at hup
    obtain ⟨base, hbase, -⟩ := hup
    obtain ⟨-, rest, hrest, hwithin⟩ := (succ_iff hbase).1 h
    exact ⟨above, base, rest, rfl, hbase, hrest, hwithin⟩

/-- A value that has the field itself has it nowhere else. -/
theorem depth_eq_zero {own : Spot} (hown : S.field? v name = some own)
    (h : S.NearestField v name depth up field) : depth = 0 := by
  rcases Nat.eq_zero_or_pos depth with hzero | hpos
  · exact hzero
  · have hnone := h.nearest 0 hpos (.whole v) rfl
    rw [Spot.whole, hown] at hnone
    cases hnone

theorem exists_of_field {up field : Spot} (hup : S.ascend? v depth = some up)
    (hfield : S.field? up.value name = some field) :
    ∃ depth up field, S.NearestField v name depth up field := by
  classical
  have hlevel : ∃ level up field, S.ascend? v level = some up ∧
      S.field? up.value name = some field := ⟨depth, up, field, hup, hfield⟩
  obtain ⟨first, at_, hfirst, hat⟩ := Nat.find_spec hlevel
  refine ⟨_, first, at_, hfirst, hat, fun level hlt nearer hnearer => ?_⟩
  cases hfield : S.field? nearer.value name with
  | none => rfl
  | some other => exact absurd ⟨nearer, other, hnearer, hfield⟩ (Nat.find_min hlevel hlt)

end NearestField

section

variable {owner : Ty} {depth : Nat} {member : Member}

/-- A field of the value itself is the nearest one, and lookup ends on the class of the value. -/
theorem Faithful.resolveField_iff_of_own (h : S.Faithful classes v) {own : Spot}
    (hown : S.field? v name = some own) :
    S.resolveField v.ty name = some ⟨owner, depth, member⟩ ↔
      ∃ up field, S.NearestField v name depth up field ∧ up.value.ty = owner ∧
        member = ⟨name, field.value.ty⟩ := by
  have hdeclared : (S.classOf v.ty).field? name = some ⟨name, own.value.ty⟩ :=
    h.field?_iff.2 ⟨own, hown, rfl⟩
  rw [resolveField, findUp_of_own hdeclared, Option.some.injEq]
  constructor
  · intro hfound
    cases hfound
    exact ⟨.whole v, own, NearestField.zero_iff.2 ⟨rfl, hown⟩, rfl, rfl⟩
  · rintro ⟨up, field, hnear, rfl, rfl⟩
    obtain rfl : depth = 0 := hnear.depth_eq_zero hown
    obtain ⟨rfl, hfield⟩ := NearestField.zero_iff.1 hnear
    obtain rfl : own = field := Option.some.inj (hown.symm.trans hfield)
    rfl

/-- Lookup finds the nearest field that the value has, with its type. The induction goes up the
    base classes and the base objects together. -/
theorem Faithful.resolveField_eq_some_iff (h : S.Faithful classes v) :
    S.resolveField v.ty name = some ⟨owner, depth, member⟩ ↔
      ∃ up field, S.NearestField v name depth up field ∧ up.value.ty = owner ∧
        member = ⟨name, field.value.ty⟩ := by
  induction hty : v.ty using S.inductionOnBases generalizing v depth with
  | root ty hbase =>
    subst hty
    cases hown : S.field? v name with
    | some own => exact h.resolveField_iff_of_own hown
    | none =>
      have hundeclared : (S.classOf v.ty).field? name = none := h.field?_eq_none_iff.2 hown
      rw [resolveField, findUp_of_no_base hbase, hundeclared]
      constructor
      · intro hfound
        cases hfound
      · rintro ⟨up, field, hnear, -⟩
        obtain ⟨_, _, _, -, hup, -⟩ := hnear.of_base hown
        rw [h.base?_eq_none hbase] at hup
        cases hup
  | extend ty b hbase ih =>
    subst hty
    cases hown : S.field? v name with
    | some own => exact h.resolveField_iff_of_own hown
    | none =>
      have hundeclared : (S.classOf v.ty).field? name = none := h.field?_eq_none_iff.2 hown
      obtain ⟨base, hup, hty, hfaithful⟩ := h.base hbase
      rw [resolveField, findUp_of_base hbase hundeclared, Option.map_eq_some_iff]
      constructor
      · rintro ⟨above, habove, hfound⟩
        cases hfound
        obtain ⟨rest, field, hnear, howner⟩ := (ih hfaithful hty).1 habove
        exact ⟨base.within rest, field,
          (NearestField.succ_iff hup).2 ⟨hown, rest, hnear, rfl⟩, howner⟩
      · rintro ⟨up, field, hnear, howner⟩
        obtain ⟨above, other, rest, rfl, hother, hrest, rfl⟩ := hnear.of_base hown
        obtain rfl : base = other := Option.some.inj (hup.symm.trans hother)
        exact ⟨⟨owner, above, member⟩, (ih hfaithful hty).2 ⟨rest, field, hrest, howner⟩, rfl⟩

end

theorem Faithful.resolveField_eq_none_iff (h : S.Faithful classes v) :
    S.resolveField v.ty name = none ↔
      ∀ depth up, S.ascend? v depth = some up → S.field? up.value name = none := by
  constructor
  · intro hnone depth up hup
    cases hfield : S.field? up.value name with
    | none => rfl
    | some field =>
      obtain ⟨level, first, nearest, hnear⟩ := NearestField.exists_of_field hup hfield
      have hfound : S.resolveField v.ty name =
          some ⟨first.value.ty, level, ⟨name, nearest.value.ty⟩⟩ :=
        h.resolveField_eq_some_iff.2 ⟨first, nearest, hnear, rfl, rfl⟩
      rw [hnone] at hfound
      cases hfound
  · intro hnone
    cases hfound : S.resolveField v.ty name with
    | none => rfl
    | some found =>
      obtain ⟨up, field, hnear, -⟩ := h.resolveField_eq_some_iff.1 hfound
      have hfield := hnear.has
      rw [hnone found.depth up hnear.ascends] at hfield
      cases hfield

/-- What is written to the slot of a field is read back, by position as by name. -/
theorem fieldAt?_put {index : Nat} {spot : Spot} (h : S.fieldAt? v index = some spot)
    (new : Value) : S.fieldAt? (v.put spot.place new) index = some ⟨spot.place, new⟩ := by
  simp only [fieldAt?, Option.bind_eq_bind, Option.bind_eq_some_iff] at h ⊢
  obtain ⟨c, hc, entry, hentry, hspot⟩ := h
  refine ⟨c, ?_, entry, hentry, slotSpot?_put hspot new⟩
  rw [place_of_slotSpot? hspot, structOf?_put_slot, hc]

end Schema

/-! ## What a segment misses -/

namespace Evaluation

variable {E : Evaluation} {classes : ClassId → Prop} {v : Value} {name : String}

/-- The field that lookup finds is the one that the evaluator goes to. -/
theorem fieldSpot?_of_nearest (h : E.schema.Faithful classes v) {depth : Nat} {up field : Spot}
    (hnear : E.schema.NearestField v name depth up field) :
    E.fieldSpot? v name = some (up.within field) := by
  have hfound : E.schema.resolveField v.ty name =
      some ⟨up.value.ty, depth, ⟨name, field.value.ty⟩⟩ :=
    h.resolveField_eq_some_iff.2 ⟨up, field, hnear, rfl, rfl⟩
  simp [fieldSpot?, hfound, hnear.ascends, hnear.has]

/-- A method that was found is invoked on the base object of the class that declares it. -/
theorem invocation?_of_found (h : E.schema.Faithful classes v) {params : List Placeholder}
    {bound : BoundCall} {found : Found Method} (hbind : E.args.bind E.schema params = .ok bound)
    (hfound : E.schema.resolveMethod E.lookup v.ty name bound.types = some found) :
    ∃ up, E.schema.ascend? v found.depth = some up ∧ up.value.ty = found.owner ∧
      E.invocation? v name params = some ⟨found.member, up, bound.values⟩ := by
  obtain ⟨howner, -⟩ := Schema.of_resolveMethod hfound
  obtain ⟨up, hup, hty⟩ := h.fits.ascend_ancestors h.derived howner
  exact ⟨up, hup, hty, by simp [invocation?, hbind, hfound, hup, Except.toOption]⟩

/-- The evaluator does not get from the value to the member of the segment: it has no place for the
    field, or no invocation for the call although its arguments are bound. -/
def Misses (E : Evaluation) (v : Value) : Segment → Prop
  | .field name => E.fieldSpot? v name = none
  | .call name params =>
    (∃ bound, E.args.bind E.schema params = .ok bound) ∧ E.invocation? v name params = none

/-- Lookup finds no member for the segment on the class of the value. -/
def FindsNothing (E : Evaluation) (v : Value) : Segment → Prop
  | .field name => E.schema.resolveField v.ty name = none
  | .call name params => ∃ bound, E.args.bind E.schema params = .ok bound ∧
      E.schema.resolveMethod E.lookup v.ty name bound.types = none

theorem Misses.findsNothing (h : E.schema.Faithful classes v) {s : Segment} (hmiss : E.Misses v s) :
    E.FindsNothing v s := by
  cases s with
  | field name =>
    show E.schema.resolveField v.ty name = none
    have hnone : E.fieldSpot? v name = none := hmiss
    cases hfound : E.schema.resolveField v.ty name with
    | none => rfl
    | some found =>
      obtain ⟨up, field, hnear, -⟩ := h.resolveField_eq_some_iff.1 hfound
      rw [fieldSpot?_of_nearest h hnear] at hnone
      cases hnone
  | call name params =>
    obtain ⟨⟨bound, hbind⟩, hnone⟩ := hmiss
    refine ⟨bound, hbind, ?_⟩
    cases hfound : E.schema.resolveMethod E.lookup v.ty name bound.types with
    | none => rfl
    | some found =>
      obtain ⟨up, -, -, hcall⟩ := invocation?_of_found h hbind hfound
      rw [hcall] at hnone
      cases hnone

/-- Evaluating the segments on the target comes to look up the segment on the value: the first
    segment on what the target is behind its optional layers, and the others on the fields and on
    the values returned that the evaluation goes on with. -/
inductive Meets (E : Evaluation) : List PlacedSegment → Value → PlacedSegment → Value → Prop
  | first {first : PlacedSegment} {rest : List PlacedSegment} {target : Value} {here : Spot}
      (hsee : target.seeThrough = .ok here) : Meets E (first :: rest) target first here.value
  | behindField {first s : PlacedSegment} {rest : List PlacedSegment} {target v : Value}
      {here inside : Spot} {name : String} (hsee : target.seeThrough = .ok here)
      (hseg : first.segment = .field name) (hspot : E.fieldSpot? here.value name = some inside)
      (h : Meets E rest inside.value s v) : Meets E (first :: rest) target s v
  | behindCall {first s : PlacedSegment} {rest : List PlacedSegment} {target value v : Value}
      {here : Spot} {name : String} {params : List Placeholder} {call : Invocation}
      (hsee : target.seeThrough = .ok here) (hseg : first.segment = .call name params)
      (hcall : E.invocation? here.value name params = some call)
      (hrun : call.run.outcome = .ok value) (h : Meets E rest value s v) :
      Meets E (first :: rest) target s v

/-- A missing member is reported for a segment and a value that the evaluation met. -/
theorem Run.of_memberNotFound {segments : List PlacedSegment} {target after : Value}
    {terminal : Option Value} {calls : List Invocation} {result : Except ScriptError Value}
    (h : E.Run segments target terminal calls result after) {cls member text : String}
    (hresult : result = .error (.memberNotFound cls member text)) :
    ∃ s v, E.Meets segments target s v ∧ cls = v.ty.path ∧ member = s.segment.name ∧
      E.Misses v s.segment := by
  induction h with
  | null | unbound | faulted | returned => cases hresult
  | @ended target terminal here hsee =>
    obtain ⟨_, -, hcause⟩ := Except.mapError_eq_error_iff.1 hresult
    cases hcause
  | @unknownField first rest target terminal here name hsee hseg hspot =>
    cases hresult
    refine ⟨first, here.value, .first hsee, rfl, ?_, ?_⟩
    · rw [hseg]
      rfl
    · rw [hseg]
      exact hspot
  | @lastField first target terminal here inside name hsee hseg hspot =>
    rcases E.finish_cases here.value.ty name inside.value terminal with ⟨_, -, -, hdone⟩ |
      ⟨_, -, -, hdone⟩ | ⟨_, _, -, -, hdone⟩ | ⟨_, -, -, hdone⟩ <;>
    · rw [hdone] at hresult
      cases hresult
  | hop _ hsee hseg hspot _ ih =>
    obtain ⟨s, v, hmeets, hreport⟩ := ih hresult
    exact ⟨s, v, .behindField hsee hseg hspot hmeets, hreport⟩
  | @unknownMethod first rest target terminal here name params bound hsee hseg hbind hcall =>
    cases hresult
    refine ⟨first, here.value, .first hsee, rfl, ?_, ?_⟩
    · rw [hseg]
      rfl
    · rw [hseg]
      exact ⟨⟨bound, hbind⟩, hcall⟩
  | continued _ hsee hseg _ hcall hrun _ ih =>
    obtain ⟨s, v, hmeets, hreport⟩ := ih hresult
    exact ⟨s, v, .behindCall hsee hseg hcall hrun hmeets, hreport⟩

end Evaluation

/-! ## Lookup and access -/

namespace Schema

variable {S : Schema} {classes : ClassId → Prop}

/-- Lookup on the class of the value and access to the value agree about the members of the
    name. -/
structure Agreement (S : Schema) (v : Value) (name : String) : Prop where
  /-- Lookup finds the field that is nearest to the value, with the type of what it holds. -/
  found : ∀ owner depth member, S.resolveField v.ty name = some ⟨owner, depth, member⟩ ↔
    ∃ up field, S.NearestField v name depth up field ∧ up.value.ty = owner ∧
      member = ⟨name, field.value.ty⟩
  /-- It finds none exactly if none of the base objects has one. -/
  missing : S.resolveField v.ty name = none ↔
    ∀ depth up, S.ascend? v depth = some up → S.field? up.value name = none
  /-- The nearest field is one slot, read and written by name and by position, and the evaluator
      goes there. -/
  slot : ∀ depth up field, S.NearestField v name depth up field →
    (∃ index, S.OwnField up.value name index field ∧
      ∀ new, S.field? (up.value.put field.place new) name = some ⟨field.place, new⟩ ∧
        S.fieldAt? (up.value.put field.place new) index = some ⟨field.place, new⟩) ∧
    ∀ E : Evaluation, E.schema = S → E.fieldSpot? v name = some (up.within field)
  /-- A method that lookup finds is invoked on the base object of the class that declares it. -/
  receiver : ∀ (E : Evaluation) params bound found, E.schema = S →
    E.args.bind S params = .ok bound →
    S.resolveMethod E.lookup v.ty name bound.types = some found →
    ∃ up, S.ascend? v found.depth = some up ∧ up.value.ty = found.owner ∧
      found.member ∈ (S.classOf up.value.ty).methods ∧
      E.invocation? v name params = some ⟨found.member, up, bound.values⟩

theorem Faithful.agreement {v : Value} (h : S.Faithful classes v) (name : String) :
    S.Agreement v name := by
  refine ⟨fun owner depth member => h.resolveField_eq_some_iff, h.resolveField_eq_none_iff,
    ?slot, ?receiver⟩
  case slot =>
    intro depth up field hnear
    refine ⟨?_, ?_⟩
    · obtain ⟨index, hown⟩ := (h.of_ascend? hnear.ascends).ownField_of_field? hnear.has
      exact ⟨index, hown, fun new => ⟨field?_put hown.byName new, fieldAt?_put hown.byIndex new⟩⟩
    · rintro E rfl
      exact Evaluation.fieldSpot?_of_nearest h hnear
  case receiver =>
    rintro E params bound found rfl hbind hfound
    obtain ⟨-, hnamed⟩ := of_resolveMethod hfound
    obtain ⟨up, hup, hty, hcall⟩ := Evaluation.invocation?_of_found h hbind hfound
    refine ⟨up, hup, hty, ?_, hcall⟩
    rw [hty]
    exact (mem_methodsNamed.1 hnamed).1

/-- Lookup and access agree on every value whose class and base classes are derived, and on every
    value of a builtin type. And when the evaluator reports a missing member, it was looking up a
    segment on a value that it met; if the value is one of these, lookup has found nothing. -/
theorem lookup_agrees_with_access (S : Schema) (classes : ClassId → Prop) :
    (∀ v, S.Faithful classes v → ∀ name, S.Agreement v name) ∧
    ∀ E : Evaluation, E.schema = S → ∀ target terminal cls member text,
      (E.evaluate target terminal).result = .error (.memberNotFound cls member text) →
      ∃ s met, E.Meets E.script.segments target s met ∧ cls = met.ty.path ∧
        member = s.segment.name ∧ (S.Faithful classes met → E.FindsNothing met s.segment) := by
  refine ⟨fun v h name => h.agreement name, ?_⟩
  rintro E rfl target terminal cls member text hresult
  rcases E.evaluate_cases target terminal with ⟨call, -, -, hdetached, -⟩ | hrun
  · rw [hdetached] at hresult
    cases hresult
  · obtain ⟨s, met, hmeets, hcls, hmember, hmiss⟩ := hrun.of_memberNotFound hresult
    exact ⟨s, met, hmeets, hcls, hmember, fun h => hmiss.findsNothing h⟩

end Schema

namespace Sample

theorem faithful_runt : gallery.Faithful gallery.IsDerived Gallery.runt.initial := by
  have hwell : gallery.WellTyped Gallery.runt.initial := by decide +kernel
  exact ⟨Schema.wellTyped_iff.1 hwell, fun id hid => hwell.isDerived_of_mem_ancestors hid,
    by decide +kernel⟩

/-- A script for a field that no class of the gallery's animals has. -/
def tail : Evaluation := ⟨gallery, .typeAware, ⟨"tail", [⟨0, .field "tail"⟩]⟩, .empty⟩

end Sample

/-- The name of a runt is the one that the puppy inside it has, which hides the name of the animal
    further inside. A runt has no tail, on any level. -/
theorem Schema.name_of_runt_is_name_of_puppy :
    (∃ up field, gallery.NearestField Gallery.runt.initial "name" 1 up field ∧
      up.value.ty = Gallery.puppy.objects ∧ field.value.ty = .optional .string) ∧
    (Sample.tail.evaluate Gallery.runt.initial none).result =
      .error (.memberNotFound "zoo::Runt" "tail" "tail") ∧
    gallery.resolveField Gallery.runt.objects "tail" = none := by
  obtain ⟨hagree, hreport⟩ := lookup_agrees_with_access gallery gallery.IsDerived
  have hmissing : (Sample.tail.evaluate Gallery.runt.initial none).result =
      .error (.memberNotFound "zoo::Runt" "tail" "tail") := by rfl
  refine ⟨?_, hmissing, ?_⟩
  · have hfound : gallery.resolveField Gallery.runt.objects "name" =
        some ⟨Gallery.puppy.objects, 1, ⟨"name", .optional .string⟩⟩ := by rfl
    obtain ⟨up, field, hnear, hty, hmember⟩ :=
      ((hagree _ Sample.faithful_runt "name").found _ _ _).1 hfound
    exact ⟨up, field, hnear, hty, (congrArg Member.ty hmember).symm⟩
  · obtain ⟨s, met, hmeets, -, -, hnothing⟩ := hreport Sample.tail rfl _ _ _ _ _ hmissing
    cases hmeets with
    | first hsee =>
      cases hsee
      exact hnothing Sample.faithful_runt
    | behindField _ _ _ h => cases h
    | behindCall _ _ _ _ h => cases h

end ObjectPath
