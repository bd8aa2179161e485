import ObjectPath.Proofs.Cloning
import ObjectPath.Proofs.Composition
import ObjectPath.Proofs.Undo

/-!
# Reading a field and writing back what was read

Reading a field gives its clone. Writing the clone back gives the old value of the field, and the
target then holds the clone in its place. Scripts see no difference: the clone looks like the
field, so the target looks like what it was. What is lost is in the field only, in hidden slots of
the objects that cloning comes to and goes through slot by slot. Objects that copy themselves keep
their hidden slots.

Results:
* `Schema.Alike.put`: putting something in its place that looks like it.
* `Schema.exists_back_of_face_ne`: overwriting a part changes nothing elsewhere.
* `Schema.startsAfresh_of_face_ne`: where a clone differs from the value.
* `Evaluation.step_eq_finish`: a script of fields, in terms of the place they lead to.
* `Evaluation.write_back_loses_hidden_data_only`: what reading and writing back does.
-/

namespace ObjectPath

/-! ## Places as trails -/

/-- The position of the part that the hop goes to. -/
def Hop.position : Hop → Nat
  | payload => 0
  | slot i => i

/-- The positions of the parts on the way to the place. -/
def Place.trail (p : Place) : Trail := p.map Hop.position

namespace Value

variable {v part : Value} {hop : Hop}

theorem getElem?_parts_of_child? (h : v.child? hop = some part) :
    v.parts[hop.position]? = some part := by
  unfold child? at h
  split at h
  · exact h
  · exact h
  · simp at h

theorem parts_setChild (h : v.child? hop = some part) (new : Value) :
    (v.setChild hop new).parts = v.parts.set hop.position new := by
  unfold child? at h
  split at h
  · rfl
  · rfl
  · simp at h

theorem face_setChild (h : v.child? hop = some part) (new : Value) :
    (v.setChild hop new).face = v.face := by
  unfold child? at h
  split at h
  · rfl
  · exact face_object_eq_iff.2 List.length_set
  · simp at h

theorem put_cons (h : v.child? hop = some part) (rest : Place) (new : Value) :
    v.put (hop :: rest) new = v.setChild hop (part.put rest new) := by
  rw [put, h]

end Value

namespace Schema

variable {S : Schema} {v w : Value}

/-- What looks like a part may be put in its place. -/
theorem Alike.put {part new : Value} {p : Place} (hat : v.at? p = some part)
    (h : S.Alike part new) : S.Alike v (v.put p new) := by
  induction p generalizing v with
  | nil =>
    cases hat
    exact h
  | cons hop rest ih =>
    obtain ⟨child, hchild, hrest⟩ := Option.bind_eq_some_iff.1 hat
    rw [Value.put_cons hchild]
    refine .intro (Value.face_setChild hchild _).symm fun i a b _ ha hb => ?_
    rw [Value.parts_setChild hchild, List.getElem?_set] at hb
    -- the part that the hop goes to changes as the induction says, all others stay
    by_cases hi : hop.position = i
    · subst hi
      have hself := Value.getElem?_parts_of_child? hchild
      obtain rfl := Option.some.inj (ha.symm.trans hself)
      obtain ⟨hlt, -⟩ := List.getElem?_eq_some_iff.1 ha
      rw [if_pos rfl, if_pos hlt] at hb
      rw [← Option.some.inj hb]
      exact ih hrest
    · rw [if_neg hi] at hb
      obtain rfl := Option.some.inj (ha.symm.trans hb)
      exact .refl a

/-- Where a value differs from what it was before a part of it was overwritten, the trail goes to
    the part, and on to where the part differs from what took its place. -/
theorem exists_back_of_face_ne {part new : Value} {p : Place} (hat : v.at? p = some part)
    {trail : Trail} (h : ((v.put p new).component? trail).map Value.face ≠
      (v.component? trail).map Value.face) :
    ∃ back, trail = Place.trail p ++ back ∧
      (new.component? back).map Value.face ≠ (part.component? back).map Value.face := by
  induction p generalizing v trail with
  | nil =>
    cases hat
    exact ⟨trail, rfl, h⟩
  | cons hop rest ih =>
    obtain ⟨child, hchild, hrest⟩ := Option.bind_eq_some_iff.1 hat
    rw [Value.put_cons hchild] at h
    cases trail with
    | nil => exact absurd (congrArg some (Value.face_setChild hchild _)) h
    | cons i tail =>
      rw [Value.component?, Value.component?, Value.parts_setChild hchild,
        List.getElem?_set] at h
      by_cases hi : hop.position = i
      · subst hi
        have hself := Value.getElem?_parts_of_child? hchild
        obtain ⟨hlt, -⟩ := List.getElem?_eq_some_iff.1 hself
        rw [if_pos rfl, if_pos hlt, hself, Option.bind_some, Option.bind_some] at h
        obtain ⟨back, rfl, hback⟩ := ih hrest h
        exact ⟨back, rfl, hback⟩
      · rw [if_neg hi] at h
        exact absurd rfl h

/-! ## Where a clone differs -/

/-- The trail leads into a hidden slot of an object that cloning comes to, and that is cloned slot
    by slot. -/
def StartsAfresh (S : Schema) (v : Value) (trail : Trail) : Prop :=
  ∃ mid id slots i slot back, trail = mid ++ i :: back ∧
    S.Reached S.ClonesParts v mid (.object id slots) ∧ (S.decl id).cloning = .slotwise ∧
    (S.decl id).slots[i]? = some slot ∧ slot.role = .ignored

theorem StartsAfresh.cons {i : Nat} {part : Value} {trail : Trail}
    (h : S.StartsAfresh part trail) (hopen : S.ClonesParts v) (hshows : S.Shows v i)
    (hpart : v.parts[i]? = some part) : S.StartsAfresh v (i :: trail) := by
  obtain ⟨mid, id, slots, j, slot, back, rfl, hreached, hslot⟩ := h
  exact ⟨i :: mid, id, slots, j, slot, back, rfl, .part hopen hshows hpart hreached, hslot⟩

theorem startsAfresh_of_fresh? {i : Nat} {initial : Value} (h : S.fresh? v i = some initial)
    (hopen : S.ClonesParts v) (back : Trail) : S.StartsAfresh v (i :: back) := by
  cases v with
  | object id slots =>
    obtain ⟨slot, hslot, hrole, -⟩ := fresh?_object_eq_some_iff.1 h
    exact ⟨[], id, slots, i, slot, back, rfl, .here _, hopen, hslot, hrole⟩
  | _ => cases h

/-- A clone differs from the value where its objects start afresh, and nowhere else. -/
theorem startsAfresh_of_face_ne (hv : S.FitsThroughout S.CopiesAsIs v) (hw : S.clone v = .ok w)
    {trail : Trail} (h : (w.component? trail).map Value.face ≠
      (v.component? trail).map Value.face) : S.StartsAfresh v trail := by
  induction trail generalizing v w with
  | nil => exact absurd (congrArg some (alike_of_clone hv hw).face_eq.symm) h
  | cons i rest ih =>
    rcases clonesParts_or_eq hv.here hw with hopen | rfl
    case inr => exact absurd rfl h
    obtain ⟨hface, hparts⟩ := (clone_eq_ok_iff hopen hv.here.slotsComplete).1 hw
    have hlen := Value.length_parts_of_face_eq hface
    rw [Value.component?, Value.component?] at h
    cases ha : v.parts[i]? with
    | none =>
      have hb : w.parts[i]? = none := by
        rw [List.getElem?_eq_none_iff] at ha ⊢
        omega
      rw [ha, hb] at h
      exact absurd rfl h
    | some a =>
      obtain ⟨b, hb⟩ := exists_getElem?_of_length_eq hlen ha
      rw [ha, hb, Option.bind_some, Option.bind_some] at h
      rcases hparts i a b ha hb with ⟨hshows, hcopy⟩ | hfresh
      -- a part that scripts see was cloned itself, any other one was filled in afresh
      · exact (ih (hv.parts a (List.mem_of_getElem? ha)) hcopy h).cons hopen hshows ha
      · exact startsAfresh_of_fresh? hfresh hopen rest

end Schema

/-! ## Scripts of fields -/

namespace Evaluation

variable {E : Evaluation}

/-- A script of fields that lead somewhere reads or overwrites what lies there. -/
theorem step_eq_finish {segments : List PlacedSegment} (hne : segments ≠ [])
    (hfields : ∀ s ∈ segments, s.segment.isCall = false) {target : Value} {spot : Spot}
    (h : E.follow? (segments.map (·.segment.name)) target = some spot) :
    ∃ ty name, ∀ terminal,
      (E.step segments target terminal).result = (E.finish ty name spot.value terminal).1 ∧
      (E.step segments target terminal).target =
        target.put spot.place (E.finish ty name spot.value terminal).2 := by
  induction segments generalizing target spot with
  | nil => exact absurd rfl hne
  | cons first rest ih =>
    obtain ⟨hfirst, hrest⟩ := List.forall_mem_cons.1 hfields
    have hseg := Segment.eq_field_of_isCall hfirst
    cases hsee : target.seeThrough with
    | error ty => simp [follow?, hsee] at h
    | ok here =>
      rw [List.map_cons, follow?_cons_of_seeThrough hsee, Option.bind_eq_some_iff] at h
      obtain ⟨inside, hspot, h⟩ := h
      obtain ⟨last, hlast, rfl⟩ := Option.map_eq_some_iff.1 h
      by_cases hnil : rest = []
      · subst hnil
        cases hlast
        refine ⟨here.value.ty, first.segment.name, fun terminal => ?_⟩
        rw [step_field hsee hseg hspot]
        have hplace : ((here.within inside).within (.whole inside.value)).place =
            (here.within inside).place := by
          rw [← Spot.value_within here inside, Spot.within_whole]
        exact ⟨rfl, by rw [hplace]; rfl⟩
      · have hin : (here.within inside).In target :=
          .within (Value.seeThrough_in hsee) (in_of_fieldSpot? hspot)
        obtain ⟨ty, name, hall⟩ := ih hnil hrest hlast
        refine ⟨ty, name, fun terminal => ?_⟩
        obtain ⟨hresult, htarget⟩ := hall terminal
        rw [step_hop hnil hsee hseg hspot, htarget]
        exact ⟨hresult, (hin.put_within last _).symm⟩

/-- A script of fields that succeeds leads somewhere. -/
theorem exists_follow?_of_ok {segments : List PlacedSegment}
    (hfields : ∀ s ∈ segments, s.segment.isCall = false) {target value : Value}
    {terminal : Option Value} (h : (E.step segments target terminal).result = .ok value) :
    ∃ spot, E.follow? (segments.map (·.segment.name)) target = some spot := by
  cases hfollow : E.follow? (segments.map (·.segment.name)) target with
  | some spot => exact ⟨spot, rfl⟩
  | none =>
    obtain ⟨e, -, hfails⟩ := step_append_of_follow?_eq_none hfields hfollow
    obtain ⟨hresult, -⟩ := hfails [] terminal
    rw [List.append_nil, h] at hresult
    cases hresult

/-- What was read with a script of fields is a clone of the field, and writing it back gives the
    field's old value and puts the clone in its place. Scripts see the same data in the target as
    before, along every trail. Whatever differs is in the field, in a hidden slot of an object that
    cloning comes to and goes through slot by slot. -/
theorem write_back_loses_hidden_data_only (E : Evaluation) (hne : E.script.segments ≠ [])
    (hfields : ∀ s ∈ E.script.segments, s.segment.isCall = false) {target copy : Value}
    (hfits : E.schema.FitsThroughout E.schema.CopiesAsIs target)
    (hread : (E.evaluate target none).result = .ok copy) :
    ∃ spot, E.follow? E.script.names target = some spot ∧ spot.In target ∧
      E.schema.clone spot.value = .ok copy ∧
      (E.evaluate target (some copy)).result = .ok spot.value ∧
      (E.evaluate target (some copy)).target = target.put spot.place copy ∧
      (∀ trail face, (∃ part, E.schema.Sees target trail part ∧ part.face = face) ↔
        ∃ part, E.schema.Sees (E.evaluate target (some copy)).target trail part ∧
          part.face = face) ∧
      ∀ trail, ((E.evaluate target (some copy)).target.component? trail).map Value.face ≠
          (target.component? trail).map Value.face →
        ∃ back, trail = Place.trail spot.place ++ back ∧
          E.schema.StartsAfresh spot.value back := by
  rw [result_evaluate_none] at hread
  obtain ⟨spot, hspot⟩ := exists_follow?_of_ok hfields hread
  have hin := in_of_follow? hspot
  obtain ⟨ty, name, hstep⟩ := step_eq_finish hne hfields hspot
  have hclone : E.schema.clone spot.value = .ok copy := by
    rw [(hstep none).1] at hread
    exact Except.mapError_eq_ok_iff.1 hread
  have hback : E.finish ty name spot.value (some copy) = (.ok spot.value, copy) := by
    rw [finish, Value.overwrite?_of_ty_eq (Schema.ty_of_clone hclone)]
  obtain ⟨hresult, htarget⟩ : (E.evaluate target (some copy)).result = .ok spot.value ∧
      (E.evaluate target (some copy)).target = target.put spot.place copy := by
    obtain ⟨hresult, htarget⟩ := hstep (some copy)
    rw [hback] at hresult htarget
    rw [evaluate_of_attached fun _ => detachedBy?_of_fields hfields]
    exact ⟨hresult, htarget⟩
  have hfield := hfits.of_in hin
  have halike := (Schema.alike_of_clone hfield hclone).put hin
  refine ⟨spot, hspot, hin, hclone, hresult, htarget, fun trail face => ?_, fun trail hdiffers => ?_⟩
  · rw [htarget]
    exact halike.sees_face_iff
  · rw [htarget] at hdiffers
    obtain ⟨back, htrail, hface⟩ := Schema.exists_back_of_face_ne hin hdiffers
    exact ⟨back, htrail, Schema.startsAfresh_of_face_ne hfield hclone hface⟩

end Evaluation

/-! ## A page that is read and written back -/

namespace Sample

theorem copiesAsIs_archives (id : ClassId) : archives.CopiesAsIs id := by
  intro copy hcopy
  have hclasses : ∀ c ∈ archives.classes, c.cloning = .slotwise := by
    intro c hc
    simp only [archives, List.mem_cons, List.not_mem_nil, or_false] at hc
    rcases hc with rfl | rfl | rfl <;> rfl
  have hslotwise : (archives.decl id).cloning = .slotwise := by
    rcases archives.decl_mem_or id with hmem | hbare
    · exact hclasses _ hmem
    · rw [hbare]
      rfl
  rw [hslotwise] at hcopy
  cases hcopy

/-- The page as it is read, without its notes. -/
def readPage : Value := .present (.object page.id [.string "Places", .string ""])

/-- Reading a page and writing it back gives the page with its notes, and leaves a page without
    them. Nothing else is different. -/
theorem page_loses_its_notes :
    archives.FitsThroughout archives.CopiesAsIs filed ∧
      (filedPage.evaluate filed none).result = .ok readPage ∧
      (filedPage.evaluate filed (some readPage)).result = .ok (.present draft) ∧
      filed.component? [0, 0, 0, 1] = some (.string "unfinished") ∧
      (filedPage.evaluate filed (some readPage)).target.component? [0, 0, 0, 1] =
        some (.string "") ∧
      ∀ trail, ((filedPage.evaluate filed (some readPage)).target.component? trail).map Value.face ≠
          (filed.component? trail).map Value.face →
        ∃ back, trail = [0, 0] ++ back ∧ archives.StartsAfresh (.present draft) back := by
  have hwell : archives.WellTyped filed := by decide +kernel
  have hfits : archives.FitsThroughout archives.CopiesAsIs filed :=
    (Schema.wellTyped_iff.1 hwell).mono fun id _ => copiesAsIs_archives id
  have hread : (filedPage.evaluate filed none).result = .ok readPage := rfl
  obtain ⟨spot, hspot, -, -, hresult, htarget, -, hdiffers⟩ :=
    Evaluation.write_back_loses_hidden_data_only filedPage (by decide) (by decide) hfits hread
  obtain rfl : (⟨[.slot 0, .slot 0], .present draft⟩ : Spot) = spot := Option.some.inj hspot
  exact ⟨hfits, hread, hresult, rfl, by rw [htarget]; rfl, hdiffers⟩

end Sample

end ObjectPath
