import ObjectPath.Gallery
import ObjectPath.Proofs.CloneFailure
import ObjectPath.Proofs.Comparison

/-!
# Faithful clones

A clone has the face of the value that it is a clone of. In the place of each part that scripts see
it has a clone of the part, and in hidden slots it has their initial values. An object of a class
that copies its objects itself is taken over as it is, hidden slots included, if the class does
not change what it copies.

So scripts see the same data in a value and in its clone, and a clone of the clone is the clone
once more: its hidden slots are initial already.

Results:
* `ClassDecl.cloneSlots_eq_ok_iff`: what the slots of a clone are.
* `Schema.clone_eq_ok_iff`: what the clone of a value is, in terms of its parts.
* `Schema.alike_of_clone`: a clone looks like the value.
* `Schema.clone_of_clone`: a clone is its own clone.
* `Schema.reached_of_clone`: what cloning comes to has its clone at the same place.
* `Schema.clone_is_faithful`: all of this, and when a value is equal to its clone.
-/

namespace ObjectPath

namespace ClassDecl

variable {c : ClassDecl} {results : List (Except CloneError Value)} {copies others : List Value}

/-- There is only one way to fill the slots of a clone. -/
theorem ClonedFrom.unique (h : c.ClonedFrom results copies) (h' : c.ClonedFrom results others)
    (hcount : copies.length = c.slots.length) (hcount' : others.length = c.slots.length) :
    copies = others := by
  refine List.ext_getElem (hcount.trans hcount'.symm) fun i hi hi' => ?_
  have hslot := List.getElem?_eq_getElem (hcount ▸ hi : i < c.slots.length)
  rcases h i _ _ hslot (List.getElem?_eq_getElem hi) with ⟨hrole, hcopy⟩ | ⟨hrole, hcopy⟩
  · rcases h' i _ _ hslot (List.getElem?_eq_getElem hi') with ⟨-, hother⟩ | ⟨hshown, -⟩
    · rw [hcopy, hother]
    · exact absurd hrole hshown
  · rcases h' i _ _ hslot (List.getElem?_eq_getElem hi') with ⟨hignored, -⟩ | ⟨-, hother⟩
    · exact absurd hignored hrole
    · rw [hcopy] at hother
      exact Except.ok.inj (Option.some.inj hother)

/-- If the slots of a clone can be filled, none of the slots fails to be cloned. -/
theorem ClonedFrom.exists_cloneSlots (h : c.ClonedFrom results copies)
    (hcount : copies.length = c.slots.length) : ∃ others, c.cloneSlots results = .ok others := by
  by_contra hfails
  obtain ⟨i, slot, hslot, hrole, hi⟩ :=
    exists_cloneSlots_error_iff.1 (Except.exists_error_iff.2 hfails)
  obtain ⟨cause, hcause⟩ := failsAt_iff.1 hi
  obtain ⟨copy, hcopy⟩ := exists_getElem?_of_length_eq hcount.symm hslot
  rcases h i slot copy hslot hcopy with ⟨hignored, -⟩ | ⟨-, hok⟩
  · exact hrole hignored
  · rw [hcause] at hok
    cases hok

theorem cloneSlots_eq_ok_iff (hlen : results.length = c.slots.length) :
    c.cloneSlots results = .ok copies ↔
      copies.length = c.slots.length ∧ c.ClonedFrom results copies := by
  have hcloned {filled : List Value} (h : c.cloneSlots results = .ok filled) :
      filled.length = c.slots.length ∧ c.ClonedFrom results filled := by
    obtain ⟨hcount, hfrom⟩ := of_cloneSlots h
    exact ⟨by omega, hfrom⟩
  refine ⟨hcloned, ?_⟩
  rintro ⟨hcount, hfrom⟩
  obtain ⟨others, hothers⟩ := hfrom.exists_cloneSlots hcount
  obtain ⟨hcount', hfrom'⟩ := hcloned hothers
  rw [hothers, hfrom'.unique hfrom hcount' hcount]

end ClassDecl

namespace Schema

variable {S : Schema} {v w : Value}

/-! ## One step -/

/-- If the class copies its objects itself, it copies them as they are. -/
def CopiesAsIs (S : Schema) (id : ClassId) : Prop :=
  ∀ copy, (S.decl id).cloning = .native copy → ∀ slots, copy slots = slots

/-- An object has as many slots as its class declares. -/
def SlotsComplete (S : Schema) : Value → Prop
  | .object id slots => slots.length = (S.decl id).slots.length
  | _ => True

/-- The value that a clone starts with at a position, in the place of a part that scripts do not
    see. -/
def fresh? (S : Schema) : Value → Nat → Option Value
  | .object id _, i =>
    ((S.decl id).slots[i]?.filter fun slot => slot.role = .ignored).map Slot.initial
  | _, _ => none

/-- The clone of the value has the second part in the place of the first one. -/
def ClonesPartAs (S : Schema) (v : Value) (i : Nat) (part copy : Value) : Prop :=
  S.Shows v i ∧ S.clone part = .ok copy ∨ S.fresh? v i = some copy

theorem PartsFit.slotsComplete {classes : ClassId → Prop} (h : S.PartsFit classes v) :
    S.SlotsComplete v := by
  cases v with
  | object id slots =>
    have hlen := congrArg List.length h.2
    rwa [List.length_map, List.length_map] at hlen
  | _ => trivial

theorem clonesParts_iff_of_face_eq (h : v.face = w.face) : S.ClonesParts v ↔ S.ClonesParts w :=
  iff_of_eq (Value.congr_of_face_eq S.ClonesParts (fun u => by cases u <;> rfl) h)

theorem slotsComplete_iff_of_face_eq (h : v.face = w.face) :
    S.SlotsComplete v ↔ S.SlotsComplete w :=
  iff_of_eq (Value.congr_of_face_eq S.SlotsComplete
    (fun u => by cases u <;> simp [Value.face, SlotsComplete]) h)

theorem fresh?_eq_of_face_eq (h : v.face = w.face) (i : Nat) : S.fresh? v i = S.fresh? w i :=
  Value.congr_of_face_eq (S.fresh? · i) (fun u => by cases u <;> rfl) h

theorem fresh?_object_eq_some_iff {id : ClassId} {slots : List Value} {i : Nat} {initial : Value} :
    S.fresh? (.object id slots) i = some initial ↔ ∃ slot, (S.decl id).slots[i]? = some slot ∧
      slot.role = .ignored ∧ slot.initial = initial := by
  simp [fresh?, Option.filter_eq_some_iff, and_assoc]

/-- What scripts see is never filled in afresh. -/
theorem fresh?_eq_none_of_shows {i : Nat} (h : S.Shows v i) : S.fresh? v i = none := by
  cases v with
  | object id slots =>
    obtain ⟨slot, hslot, hrole⟩ := h
    simp [fresh?, hslot, Option.filter, hrole]
  | _ => rfl

theorem ClonesPartAs.clone_eq {i : Nat} {part copy : Value} (h : S.ClonesPartAs v i part copy)
    (hshows : S.Shows v i) : S.clone part = .ok copy := by
  rcases h with ⟨-, hcopy⟩ | hfresh
  · exact hcopy
  · rw [fresh?_eq_none_of_shows hshows] at hfresh
    cases hfresh

theorem ClonesPartAs.eq_fresh {i : Nat} {part copy initial : Value}
    (h : S.ClonesPartAs v i part copy) (hfresh : S.fresh? v i = some initial) : copy = initial := by
  rcases h with ⟨hshows, -⟩ | hcopy
  · rw [fresh?_eq_none_of_shows hshows] at hfresh
    cases hfresh
  · exact Option.some.inj (hcopy.symm.trans hfresh)

/-- The clone of a value that is cloned by its parts has its face, and has each part cloned or
    filled in afresh. -/
theorem clone_eq_ok_iff (hopen : S.ClonesParts v) (hv : S.SlotsComplete v) :
    S.clone v = .ok w ↔ v.face = w.face ∧ ∀ (i : Nat) (a b : Value), v.parts[i]? = some a →
      w.parts[i]? = some b → S.ClonesPartAs v i a b := by
  cases v with
  | present payload =>
    rw [clone, Except.map_eq_ok_iff]
    constructor
    · rintro ⟨copy, hcopy, rfl⟩
      refine ⟨rfl, fun i a b ha hb => .inl ⟨trivial, ?_⟩⟩
      rw [List.mem_singleton.1 (List.mem_of_getElem? ha),
        List.mem_singleton.1 (List.mem_of_getElem? hb)]
      exact hcopy
    · rintro ⟨hface, hparts⟩
      obtain ⟨copy, rfl⟩ := Value.eq_present_of_face_eq hface
      exact ⟨copy, (hparts 0 payload copy rfl rfl).clone_eq trivial, rfl⟩
  | vector element items =>
    rw [clone_vector, Except.map_eq_ok_iff]
    simp only [Except.mapM_eq_ok_iff_getElem?]
    constructor
    · rintro ⟨copies, ⟨hlen, hcopies⟩, rfl⟩
      exact ⟨Value.face_vector_eq_iff.2 hlen,
        fun i a b ha hb => .inl ⟨trivial, hcopies i a b ha hb⟩⟩
    · rintro ⟨hface, hparts⟩
      obtain ⟨copies, rfl, hlen⟩ := Value.eq_vector_of_face_eq hface
      exact ⟨copies, ⟨hlen, fun i a b ha hb => (hparts i a b ha hb).clone_eq trivial⟩, rfl⟩
  | object id slots =>
    have hresults : (slots.map S.clone).length = (S.decl id).slots.length := by
      rw [List.length_map]
      exact hv
    rw [clone_slotwise hopen, Except.map_eq_ok_iff]
    simp only [ClassDecl.cloneSlots_eq_ok_iff hresults, ClassDecl.ClonedFrom, List.getElem?_map]
    constructor
    · rintro ⟨copies, ⟨hcount, hfrom⟩, rfl⟩
      refine ⟨Value.face_object_eq_iff.2 (hv.trans hcount.symm), fun i a b ha hb => ?_⟩
      obtain ⟨slot, hslot⟩ := exists_getElem?_of_length_eq hcount hb
      rcases hfrom i slot b hslot hb with ⟨hrole, hinitial⟩ | ⟨hrole, hcopy⟩
      · exact .inr (fresh?_object_eq_some_iff.2 ⟨slot, hslot, hrole, hinitial.symm⟩)
      · have hpart : slots[i]? = some a := ha
        rw [hpart, Option.map_some, Option.some.injEq] at hcopy
        exact .inl ⟨⟨slot, hslot, hrole⟩, hcopy⟩
    · rintro ⟨hface, hparts⟩
      obtain ⟨copies, rfl, hlen⟩ := Value.eq_object_of_face_eq hface
      refine ⟨copies, ⟨hlen.symm.trans hv, fun i slot copy hslot hcopy => ?_⟩, rfl⟩
      obtain ⟨part, hpart⟩ : ∃ part, slots[i]? = some part :=
        exists_getElem?_of_length_eq hlen.symm hcopy
      have hstep := hparts i part copy hpart hcopy
      by_cases hrole : slot.role = .ignored
      · have hfresh : S.fresh? (.object id slots) i = some slot.initial :=
          fresh?_object_eq_some_iff.2 ⟨slot, hslot, hrole, rfl⟩
        exact .inl ⟨hrole, hstep.eq_fresh hfresh⟩
      · have hclone := hstep.clone_eq ⟨slot, hslot, hrole⟩
        exact .inr ⟨hrole, by rw [hpart, Option.map_some, hclone]⟩
  | _ =>
    simp only [clone, Except.ok.injEq]
    constructor
    · rintro rfl
      refine ⟨rfl, fun i a b ha => ?_⟩
      simp [Value.parts] at ha
    · rintro ⟨hface, -⟩
      exact Value.eq_of_face_eq rfl hface

/-- A value that is cloned is cloned by its parts or taken over as it is. -/
theorem clonesParts_or_eq (hv : S.PartsFit S.CopiesAsIs v) (hw : S.clone v = .ok w) :
    S.ClonesParts v ∨ w = v := by
  cases v with
  | object id slots =>
    cases hcloning : (S.decl id).cloning with
    | slotwise => exact .inl hcloning
    | native copy =>
      rw [clone_native hcloning, hv.1 copy hcloning slots] at hw
      exact .inr (Except.ok.inj hw).symm
    | refused =>
      rw [clone_refused hcloning] at hw
      cases hw
  | _ => exact .inl trivial

/-! ## All steps -/

/-- A clone looks like the value that it is a clone of. -/
theorem alike_of_clone (hv : S.FitsThroughout S.CopiesAsIs v) (hw : S.clone v = .ok w) :
    S.Alike v w := by
  induction v using Value.inductionOnAllParts generalizing w with
  | step v ih =>
    rcases clonesParts_or_eq hv.here hw with hopen | rfl
    · obtain ⟨hface, hparts⟩ := (clone_eq_ok_iff hopen hv.here.slotsComplete).1 hw
      refine .intro hface fun i a b hshows ha hb => ?_
      have hmem := List.mem_of_getElem? ha
      exact ih a hmem (hv.parts a hmem) ((hparts i a b ha hb).clone_eq hshows)
    · exact .refl w

/-- A clone is its own clone. -/
theorem clone_of_clone (hv : S.FitsThroughout S.CopiesAsIs v) (hw : S.clone v = .ok w) :
    S.clone w = .ok w := by
  induction v using Value.inductionOnAllParts generalizing w with
  | step v ih =>
    rcases clonesParts_or_eq hv.here hw with hopen | rfl
    · have hcomplete := hv.here.slotsComplete
      obtain ⟨hface, hparts⟩ := (clone_eq_ok_iff hopen hcomplete).1 hw
      refine (clone_eq_ok_iff ((clonesParts_iff_of_face_eq hface).1 hopen)
        ((slotsComplete_iff_of_face_eq hface).1 hcomplete)).2 ⟨rfl, fun i b b' hb hb' => ?_⟩
      obtain rfl := Option.some.inj (hb.symm.trans hb')
      obtain ⟨a, ha⟩ := exists_getElem?_of_length_eq (Value.length_parts_of_face_eq hface).symm hb
      rcases hparts i a b ha hb with ⟨hshows, hcopy⟩ | hfresh
      · have hmem := List.mem_of_getElem? ha
        exact .inl ⟨(shows_iff_of_face_eq hface).1 hshows, ih a hmem (hv.parts a hmem) hcopy⟩
      · exact .inr ((fresh?_eq_of_face_eq hface i).symm.trans hfresh)
    · exact hw

/-- What cloning comes to has its clone at the same place in the clone of the whole. -/
theorem reached_of_clone {trail : Trail} {part : Value} (hv : S.FitsThroughout S.CopiesAsIs v)
    (hw : S.clone v = .ok w) (h : S.Reached S.ClonesParts v trail part) :
    S.FitsThroughout S.CopiesAsIs part ∧
      ∃ copy, S.Reached S.ClonesParts w trail copy ∧ S.clone part = .ok copy := by
  induction h generalizing w with
  | here v => exact ⟨hv, w, .here w, hw⟩
  | part hopen hshows hpart _ ih =>
    obtain ⟨hface, hparts⟩ := (clone_eq_ok_iff hopen hv.here.slotsComplete).1 hw
    obtain ⟨b, hb⟩ := exists_getElem?_of_length_eq (Value.length_parts_of_face_eq hface) hpart
    have hcopy := (hparts _ _ b hpart hb).clone_eq hshows
    obtain ⟨hfits, copy, hreached, hclone⟩ := ih (hv.parts _ (List.mem_of_getElem? hpart)) hcopy
    exact ⟨hfits, copy, .part ((clonesParts_iff_of_face_eq hface).1 hopen)
      ((shows_iff_of_face_eq hface).1 hshows) hb hreached, hclone⟩

/-- An object that cloning comes to has initial values in its hidden slots afterwards. -/
theorem component?_of_clone_hidden {trail : Trail} {id : ClassId} {slots : List Value} {i : Nat}
    {slot : Slot} (hv : S.FitsThroughout S.CopiesAsIs v) (hw : S.clone v = .ok w)
    (h : S.Reached S.ClonesParts v trail (.object id slots))
    (hcloning : (S.decl id).cloning = .slotwise) (hslot : (S.decl id).slots[i]? = some slot)
    (hrole : slot.role = .ignored) : w.component? (trail ++ [i]) = some slot.initial := by
  obtain ⟨hfits, copy, hreached, hcopy⟩ := reached_of_clone hv hw h
  have hopen : S.ClonesParts (.object id slots) := hcloning
  obtain ⟨hface, hparts⟩ := (clone_eq_ok_iff hopen hfits.here.slotsComplete).1 hcopy
  obtain ⟨part, hpart, -⟩ := hfits.exists_slot hslot
  obtain ⟨b, hb⟩ := exists_getElem?_of_length_eq (Value.length_parts_of_face_eq hface) hpart
  have hfresh : S.fresh? (.object id slots) i = some slot.initial :=
    fresh?_object_eq_some_iff.2 ⟨slot, hslot, hrole, rfl⟩
  have hinitial := (hparts i part b hpart hb).eq_fresh hfresh
  rw [Value.component?_append, hreached.component?, Option.bind_some, Value.component?, hb,
    hinitial]
  rfl

/-- An object that copies itself is in the clone as it was. -/
theorem component?_of_clone_native {trail : Trail} {id : ClassId} {slots : List Value}
    {copy : List Value → List Value} (hv : S.FitsThroughout S.CopiesAsIs v)
    (hw : S.clone v = .ok w) (h : S.Reached S.ClonesParts v trail (.object id slots))
    (hcloning : (S.decl id).cloning = .native copy) :
    w.component? trail = some (.object id slots) := by
  obtain ⟨hfits, taken, hreached, htaken⟩ := reached_of_clone hv hw h
  rw [clone_native hcloning, hfits.here.1 copy hcloning slots] at htaken
  rw [hreached.component?, Except.ok.inj htaken]

/-- A clone is faithful. It is of the value's type, and scripts see the same data in it, at every
    depth. The hidden slots of each object that is cloned slot by slot start afresh, and an object
    that copies itself is taken over whole. A clone is its own clone, and the value is equal to it
    if all components that scripts see can be compared. -/
theorem clone_is_faithful (hv : S.FitsThroughout S.CopiesAsIs v) (hw : S.clone v = .ok w) :
    w.ty = v.ty ∧
    (∀ trail face, (∃ part, S.Sees v trail part ∧ part.face = face) ↔
      ∃ copy, S.Sees w trail copy ∧ copy.face = face) ∧
    (∀ trail id slots i slot, S.Reached S.ClonesParts v trail (.object id slots) →
      (S.decl id).cloning = .slotwise → (S.decl id).slots[i]? = some slot → slot.role = .ignored →
        w.component? (trail ++ [i]) = some slot.initial) ∧
    (∀ trail id slots copy, S.Reached S.ClonesParts v trail (.object id slots) →
      (S.decl id).cloning = .native copy → w.component? trail = some (.object id slots)) ∧
    S.clone w = .ok w ∧
    (S.ComparableThroughout v → S.equal v w = some true) := by
  have halike := alike_of_clone hv hw
  exact ⟨halike.ty_eq.symm, fun trail face => halike.sees_face_iff,
    fun trail id slots i slot => component?_of_clone_hidden hv hw,
    fun trail id slots copy => component?_of_clone_native hv hw, clone_of_clone hv hw,
    halike.equal_eq_true⟩

end Schema

namespace Gallery

/-- The clone of a vector drops what its item holds in the hidden slot, and is equal to the
    vector. -/
theorem cache_is_dropped :
    gallery.FitsThroughout gallery.CopiesAsIs (cachedList 7) ∧
      gallery.clone (cachedList 7) = .ok (cachedList 0) ∧
      (cachedList 0).component? [0, 1] = some (.int .u64 0) ∧
      gallery.clone (cachedList 0) = .ok (cachedList 0) ∧
      gallery.equal (cachedList 7) (cachedList 0) = some true := by
  have hslotwise : (gallery.decl cached.id).cloning = .slotwise := rfl
  have hcopies : gallery.CopiesAsIs cached.id := by
    intro copy hcopy
    rw [hslotwise] at hcopy
    cases hcopy
  have hfits : gallery.FitsThroughout gallery.CopiesAsIs (cachedList 7) := by
    refine Schema.fitsThroughout_vector_iff.2 (List.forall_mem_singleton.2 ⟨rfl, ?_⟩)
    refine .intro ⟨hcopies, rfl⟩ fun part hpart => ?_
    simp only [Value.parts, List.mem_cons, List.not_mem_nil, or_false] at hpart
    rcases hpart with rfl | rfl | rfl <;> exact .of_no_parts rfl trivial
  have hclone : gallery.clone (cachedList 7) = .ok (cachedList 0) := rfl
  obtain ⟨-, -, hhidden, -, hagain, hequal⟩ := Schema.clone_is_faithful hfits hclone
  have hreached : gallery.Reached gallery.ClonesParts (cachedList 7) [0]
      (.object cached.id [.string "k", .int .u64 7, .int .u32 2]) :=
    .part trivial trivial rfl (.here _)
  exact ⟨hfits, hclone, hhidden [0] _ _ 1 _ hreached hslotwise rfl rfl, hagain,
    hequal (comparableThroughout_cachedList 7)⟩

end Gallery

end ObjectPath
