import ObjectPath.Proofs.Conformity

/-!
# Components

The components of a value are the value itself, its parts, their parts, and so on. A trail leads
from a value to a component through the positions of the parts on the way; unlike places, trails
lead into the items of vectors as well. Scripts see all parts except what an object has in slots
that are hidden from them.

Two values look alike if scripts see the same data in both: the same face, which is what a value
says apart from its parts, and parts that look alike wherever scripts see them.

Results:
* `Value.component?_append`: following a trail piece by piece.
* `Schema.Reached.component?`: what is reached along a trail is what lies at its end.
* `Schema.Alike.reached`: values that look alike have alike components along every trail that
  scripts can see.
* `Schema.Alike.sees_face_iff`: scripts see the same faces in both.
* `Schema.Alike.refl`, `Schema.Alike.symm`, `Schema.Alike.ty_eq`.
-/

namespace ObjectPath

theorem exists_getElem?_of_length_eq {α β : Type} {xs : List α} {ys : List β}
    (hlen : xs.length = ys.length) {i : Nat} {a : α} (h : xs[i]? = some a) :
    ∃ b, ys[i]? = some b := by
  obtain ⟨hi, -⟩ := List.getElem?_eq_some_iff.1 h
  exact ⟨_, List.getElem?_eq_getElem (hlen ▸ hi)⟩

/-! ## The slots of a class -/

theorem zip_eq_filterMap_zipIdx {α β : Type} (xs : List α) (ys : List β) :
    xs.zip ys = xs.zipIdx.filterMap fun entry => ys[entry.2]?.map (entry.1, ·) := by
  induction xs generalizing ys with
  | nil => rfl
  | cons x xs ih =>
    have hshift : xs.zipIdx 1 = xs.zipIdx.map fun entry => (entry.1, entry.2 + 1) :=
      List.zipIdx_succ
    cases ys with
    | nil => simp
    | cons y ys =>
      rw [List.zip_cons_cons, List.zipIdx_cons, Nat.zero_add, hshift, ih, List.filterMap_cons,
        List.filterMap_map]
      rfl

namespace ClassDecl

/-- The slots of a role with what belongs to them are those that are found at their positions. -/
theorem filter_zip_role {α : Type} (c : ClassDecl) (xs : List α) (role : Role) :
    (c.slots.zip xs).filter (fun cell => cell.1.role = role) =
      (c.slotsOf role).filterMap fun entry => xs[entry.2]?.map (entry.1, ·) := by
  rw [zip_eq_filterMap_zipIdx, slotsOf, List.filter_filterMap, List.filterMap_filter]
  refine List.filterMap_congr fun entry _ => ?_
  cases xs[entry.2]? with
  | none => simp
  | some x => by_cases h : entry.1.role = role <;> simp [Option.filter, h]

/-- The slots that scripts see are the declared ones and the base slot. -/
theorem mem_declared_or_base {c : ClassDecl} {entry : Slot × Nat} :
    entry ∈ c.slotsOf .declared ∨ entry ∈ c.slotsOf .base ↔
      c.slots[entry.2]? = some entry.1 ∧ entry.1.role ≠ .ignored := by
  rw [Schema.mem_slotsOf, Schema.mem_slotsOf, ← and_or_left]
  refine and_congr_right fun _ => ?_
  cases entry.1.role <;> simp

end ClassDecl

/-! ## Trails and faces -/

/-- Positions of parts, outermost first. -/
abbrev Trail := List Nat

namespace Value

/-- What carries over from the parts of a value to the value holds of all values. -/
@[elab_as_elim]
theorem inductionOnAllParts {motive : Value → Prop}
    (step : ∀ v, (∀ part ∈ v.parts, motive part) → motive v) (v : Value) : motive v := by
  induction v using Value.inductionOnParts with
  | present payload ih => exact step _ fun part hpart => List.mem_singleton.1 hpart ▸ ih
  | vector element items ih => exact step _ ih
  | object id slots ih => exact step _ ih
  | _ => exact step _ (by simp [parts])

/-- The component at the end of the trail. -/
def component? : Value → Trail → Option Value
  | v, [] => some v
  | v, i :: rest => v.parts[i]?.bind (component? · rest)

theorem component?_append (v : Value) (front back : Trail) :
    v.component? (front ++ back) = (v.component? front).bind (·.component? back) := by
  induction front generalizing v with
  | nil => rfl
  | cons i rest ih =>
    rw [List.cons_append, component?, component?]
    cases v.parts[i]? with
    | none => rfl
    | some part => exact ih part

/-- The value with its parts blanked out: a scalar, the absent value of a type, or the form of a
    value with parts, its class or element type, and their number. -/
def face : Value → Value
  | present _ => present .unit
  | vector element items => vector element (items.map fun _ => .unit)
  | object id slots => object id (slots.map fun _ => .unit)
  | v => v

section

variable {v w : Value}

/-- What depends on the face alone is the same for values with the same face. -/
theorem congr_of_face_eq {α : Sort*} (f : Value → α) (hf : ∀ u : Value, f u.face = f u)
    (h : v.face = w.face) : f v = f w := by
  rw [← hf v, ← hf w, h]

theorem length_parts_of_face_eq (h : v.face = w.face) : v.parts.length = w.parts.length :=
  congr_of_face_eq (fun u => u.parts.length) (fun u => by cases u <;> simp [face, parts]) h

/-- A value without parts is its face. -/
theorem eq_of_face_eq (hparts : v.parts = []) (h : v.face = w.face) : v = w := by
  have hself {u : Value} (hu : u.parts = []) : u.face = u := by
    cases u <;> simp_all [parts, face]
  have hnone : w.parts = [] := by
    have hlen := length_parts_of_face_eq h
    rw [hparts] at hlen
    exact List.eq_nil_of_length_eq_zero hlen.symm
  rw [← hself hparts, h, hself hnone]

theorem eq_present_of_face_eq {payload : Value} (h : (present payload).face = w.face) :
    ∃ other, w = present other := by
  cases w <;> simp [face] at h ⊢

theorem eq_vector_of_face_eq {element : Ty} {items : List Value}
    (h : (vector element items).face = w.face) :
    ∃ others, w = vector element others ∧ items.length = others.length := by
  have hlen := length_parts_of_face_eq h
  cases w with
  | vector other others =>
    simp only [face, vector.injEq] at h
    exact ⟨others, by rw [h.1], hlen⟩
  | _ => simp [face] at h

theorem eq_object_of_face_eq {id : ClassId} {slots : List Value}
    (h : (object id slots).face = w.face) :
    ∃ others, w = object id others ∧ slots.length = others.length := by
  have hlen := length_parts_of_face_eq h
  cases w with
  | object other others =>
    simp only [face, object.injEq] at h
    exact ⟨others, by rw [h.1], hlen⟩
  | _ => simp [face] at h

theorem eq_optional_of_ty_eq {inner : Ty} (h : w.ty = .optional inner) :
    w = absent inner ∨ ∃ payload, w = present payload ∧ payload.ty = inner := by
  cases w with
  | absent other =>
    simp only [ty, Ty.optional.injEq] at h
    exact .inl (by rw [h])
  | present payload =>
    simp only [ty, Ty.optional.injEq] at h
    exact .inr ⟨payload, rfl, h⟩
  | _ => simp [ty] at h

theorem eq_vector_of_ty_eq {element : Ty} (h : w.ty = .vector element) :
    ∃ items, w = vector element items := by
  cases w with
  | vector other items =>
    simp only [ty, Ty.vector.injEq] at h
    exact ⟨items, by rw [h]⟩
  | _ => simp [ty] at h

theorem eq_object_of_ty_eq {id : ClassId} (h : w.ty = .object id) :
    ∃ slots, w = object id slots := by
  cases w with
  | object other slots =>
    simp only [ty, Ty.object.injEq] at h
    exact ⟨slots, by rw [h]⟩
  | _ => simp [ty] at h

theorem face_vector_eq_iff {element : Ty} {items others : List Value} :
    (vector element items).face = (vector element others).face ↔
      items.length = others.length := by
  simp [face, List.map_const', List.replicate_inj]

theorem face_object_eq_iff {id : ClassId} {slots others : List Value} :
    (object id slots).face = (object id others).face ↔ slots.length = others.length := by
  simp [face, List.map_const', List.replicate_inj]

end

end Value

namespace Schema

/-- Scripts see the part at that position. -/
def Shows (S : Schema) : Value → Nat → Prop
  | .object id _, i => ∃ slot, (S.decl id).slots[i]? = some slot ∧ slot.role ≠ .ignored
  | _, _ => True

/-- The trail leads from the value to the component through parts that scripts see, and the values
    on the way, the component itself not included, are open. -/
inductive Reached (S : Schema) (isOpen : Value → Prop) : Value → Trail → Value → Prop
  | here (v : Value) : Reached S isOpen v [] v
  | part {v part last : Value} {i : Nat} {rest : Trail} (hopen : isOpen v) (hshows : S.Shows v i)
      (hpart : v.parts[i]? = some part) (hrest : Reached S isOpen part rest last) :
      Reached S isOpen v (i :: rest) last

/-- The component is one that scripts see. -/
abbrev Sees (S : Schema) : Value → Trail → Value → Prop := S.Reached fun _ => True

variable {S : Schema} {isOpen : Value → Prop} {v w last : Value} {trail : Trail}

theorem Reached.component? (h : S.Reached isOpen v trail last) : v.component? trail = some last := by
  induction h with
  | here v => rfl
  | part _ _ hpart _ ih => rw [Value.component?, hpart, Option.bind_some, ih]

theorem shows_iff_of_face_eq (h : v.face = w.face) {i : Nat} : S.Shows v i ↔ S.Shows w i :=
  iff_of_eq (Value.congr_of_face_eq (S.Shows · i) (fun u => by cases u <;> rfl) h)

/-! ## Values that look alike -/

/-- Scripts see the same data in both values. -/
inductive Alike (S : Schema) : Value → Value → Prop
  | intro {v w : Value} (hface : v.face = w.face)
      (hparts : ∀ (i : Nat) (a b : Value), S.Shows v i → v.parts[i]? = some a →
        w.parts[i]? = some b → Alike S a b) : Alike S v w

namespace Alike

theorem face_eq (h : S.Alike v w) : v.face = w.face := by
  cases h with
  | intro hface _ => exact hface

theorem part {i : Nat} {a b : Value} (h : S.Alike v w) (hshows : S.Shows v i)
    (ha : v.parts[i]? = some a) (hb : w.parts[i]? = some b) : S.Alike a b := by
  cases h with
  | intro _ hparts => exact hparts i a b hshows ha hb

theorem exists_part {i : Nat} {a : Value} (h : S.Alike v w) (hshows : S.Shows v i)
    (ha : v.parts[i]? = some a) : ∃ b, w.parts[i]? = some b ∧ S.Alike a b := by
  obtain ⟨b, hb⟩ := exists_getElem?_of_length_eq (Value.length_parts_of_face_eq h.face_eq) ha
  exact ⟨b, hb, h.part hshows ha hb⟩

protected theorem refl (v : Value) : S.Alike v v := by
  induction v using Value.inductionOnAllParts with
  | step v ih =>
    refine .intro rfl fun i a b _ ha hb => ?_
    obtain rfl := Option.some.inj (ha.symm.trans hb)
    exact ih a (List.mem_of_getElem? ha)

protected theorem symm (h : S.Alike v w) : S.Alike w v := by
  induction h with
  | intro hface _ ih =>
    refine .intro hface.symm fun i b a hshows hb ha => ?_
    exact ih i a b ((shows_iff_of_face_eq hface).2 hshows) ha hb

/-- Values that look alike are of one type. -/
theorem ty_eq (h : S.Alike v w) : v.ty = w.ty := by
  induction v using Value.inductionOnParts generalizing w with
  | present payload ih =>
    obtain ⟨other, rfl⟩ := Value.eq_present_of_face_eq h.face_eq
    have hpayload : S.Alike payload other := h.part (i := 0) trivial rfl rfl
    rw [Value.ty, Value.ty, ih hpayload]
  | vector element items =>
    obtain ⟨others, rfl, -⟩ := Value.eq_vector_of_face_eq h.face_eq
    rfl
  | object id slots =>
    obtain ⟨others, rfl, -⟩ := Value.eq_object_of_face_eq h.face_eq
    rfl
  | _ => rw [Value.eq_of_face_eq rfl h.face_eq]

/-- Along every trail that scripts can see in one value, they see a component that looks alike in
    the other one. -/
theorem reached (h : S.Alike v w) (hv : S.Sees v trail last) :
    ∃ other, S.Sees w trail other ∧ S.Alike last other := by
  induction hv generalizing w with
  | here v => exact ⟨w, .here w, h⟩
  | part _ hshows hpart _ ih =>
    obtain ⟨b, hb, halike⟩ := h.exists_part hshows hpart
    obtain ⟨other, hother, hlast⟩ := ih halike
    exact ⟨other, .part trivial ((shows_iff_of_face_eq h.face_eq).1 hshows) hb hother, hlast⟩

/-- Along every trail scripts see the same faces in both values. -/
theorem sees_face_iff (h : S.Alike v w) {face : Value} :
    (∃ part, S.Sees v trail part ∧ part.face = face) ↔
      ∃ part, S.Sees w trail part ∧ part.face = face := by
  constructor
  · rintro ⟨part, hpart, rfl⟩
    obtain ⟨other, hother, hlike⟩ := h.reached hpart
    exact ⟨other, hother, hlike.face_eq.symm⟩
  · rintro ⟨other, hother, rfl⟩
    obtain ⟨part, hpart, hlike⟩ := h.symm.reached hother
    exact ⟨part, hpart, hlike.face_eq.symm⟩

end Alike

end Schema

end ObjectPath
