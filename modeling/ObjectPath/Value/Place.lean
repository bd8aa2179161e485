import ObjectPath.Value

/-!
# Places inside values

A place is an address inside a value: into the payload of a present optional value, or into a
slot of an object, any number of times. Reading and writing at a place obey the laws of a field:

* `at?_put`: what is written is read back;
* `put_at?`: writing what was read changes nothing;
* `put_put`: the last of two writes stands.
-/

namespace ObjectPath

/-- One step into a value. -/
inductive Hop where
  | payload
  | slot (index : Nat)
deriving DecidableEq

/-- The steps into a value, outermost first. -/
abbrev Place := List Hop

namespace Value

/-- The part of the value one hop away. -/
def child? : Value → Hop → Option Value
  | present payload, .payload => some payload
  | object _ slots, .slot i => slots[i]?
  | _, _ => none

/-- The value with the part one hop away replaced; unchanged if there is no such part. -/
def setChild : Value → Hop → Value → Value
  | present _, .payload, new => present new
  | object id slots, .slot i, new => object id (slots.set i new)
  | v, _, _ => v

/-- The part of the value at the place. -/
def at? : Value → Place → Option Value
  | v, [] => some v
  | v, hop :: rest => (v.child? hop).bind (at? · rest)

/-- The value with the part at the place replaced; unchanged if there is no such place. -/
def put : Value → Place → Value → Value
  | _, [], new => new
  | v, hop :: rest, new =>
    match v.child? hop with
    | some part => v.setChild hop (put part rest new)
    | none => v

/-! ## One hop -/

theorem child?_setChild {hop : Hop} {v part : Value} (h : v.child? hop = some part) (new : Value) :
    (v.setChild hop new).child? hop = some new := by
  unfold child? at h
  split at h
  · rfl
  · rename_i slots i
    have : i < slots.length := (List.getElem?_eq_some_iff.1 h).1
    simp [setChild, child?, this]
  · simp at h

theorem setChild_child? {hop : Hop} {v part : Value} (h : v.child? hop = some part) :
    v.setChild hop part = v := by
  unfold child? at h
  split at h
  · simp_all [setChild]
  · obtain ⟨hi, rfl⟩ := List.getElem?_eq_some_iff.1 h
    simp [setChild]
  · simp at h

theorem setChild_setChild (hop : Hop) (v a b : Value) :
    (v.setChild hop a).setChild hop b = v.setChild hop b := by
  cases hop <;> cases v <;> simp [setChild]

theorem child?_setChild_of_ne {hop other : Hop} (h : hop ≠ other) (v new : Value) :
    (v.setChild hop new).child? other = v.child? other := by
  cases hop <;> cases other <;> cases v <;> simp_all [setChild, child?]

/-! ## Places -/

@[simp] theorem at?_nil (v : Value) : v.at? [] = some v := rfl

@[simp] theorem put_nil (new v : Value) : v.put [] new = new := rfl

theorem at?_append (p q : Place) (v : Value) : v.at? (p ++ q) = (v.at? p).bind (at? · q) := by
  induction p generalizing v with
  | nil => rfl
  | cons hop rest ih =>
    simp only [List.cons_append, at?]
    cases v.child? hop with
    | none => rfl
    | some part => simp [ih]

theorem put_append {p q : Place} {v part : Value} (h : v.at? p = some part) (new : Value) :
    v.put (p ++ q) new = v.put p (part.put q new) := by
  induction p generalizing v with
  | nil => simp_all
  | cons hop rest ih =>
    simp only [at?, Option.bind_eq_some_iff] at h
    obtain ⟨inner, hc, hi⟩ := h
    simp [put, hc, ih hi]

theorem at?_put {p : Place} {v part : Value} (h : v.at? p = some part) (new : Value) :
    (v.put p new).at? p = some new := by
  induction p generalizing v with
  | nil => rfl
  | cons hop rest ih =>
    simp only [at?, Option.bind_eq_some_iff] at h
    obtain ⟨inner, hc, hi⟩ := h
    simp [put, at?, hc, child?_setChild hc, ih hi]

theorem put_at? {p : Place} {v part : Value} (h : v.at? p = some part) : v.put p part = v := by
  induction p generalizing v with
  | nil => simpa using h.symm
  | cons hop rest ih =>
    simp only [at?, Option.bind_eq_some_iff] at h
    obtain ⟨inner, hc, hi⟩ := h
    simp [put, hc, ih hi, setChild_child? hc]

theorem put_put (p : Place) (v a b : Value) : (v.put p a).put p b = v.put p b := by
  induction p generalizing v with
  | nil => rfl
  | cons hop rest ih =>
    cases hc : v.child? hop with
    | none => simp [put, hc]
    | some part => simp [put, hc, child?_setChild hc, setChild_setChild, ih]

end Value

/-- A part of a value together with its place in it. -/
structure Spot where
  place : Place
  value : Value

namespace Spot

/-- The whole value as a spot of itself. -/
def whole (v : Value) : Spot := ⟨[], v⟩

/-- A spot inside the spot's value, seen from where the spot itself is seen. -/
def within (outer inner : Spot) : Spot := ⟨outer.place ++ inner.place, inner.value⟩

@[simp] theorem value_within (outer inner : Spot) : (outer.within inner).value = inner.value := rfl

theorem place_within (outer inner : Spot) :
    (outer.within inner).place = outer.place ++ inner.place := rfl

theorem within_whole (spot : Spot) : spot.within (whole spot.value) = spot := by
  rw [within, whole, List.append_nil]

theorem within_within (a b c : Spot) : (a.within b).within c = a.within (b.within c) := by
  simp [within]

/-- The spot is where it says. -/
def In (spot : Spot) (v : Value) : Prop := v.at? spot.place = some spot.value

theorem In.whole (v : Value) : (Spot.whole v).In v := rfl

/-- Writing at a spot inside a spot is writing in the outer one. -/
theorem In.put_within {outer : Spot} {v : Value} (h : outer.In v) (inner : Spot) (new : Value) :
    v.put (outer.within inner).place new =
      v.put outer.place (outer.value.put inner.place new) :=
  Value.put_append h new

theorem In.within {outer inner : Spot} {v : Value} (ho : outer.In v) (hi : inner.In outer.value) :
    (outer.within inner).In v := by
  simp only [In, Spot.within] at *
  simp [Value.at?_append, ho, hi]

end Spot

namespace Value

/-- Model of `present` and `present_mut`: the value behind all layers of present optional values;
    the optional type of the innermost layer if that one is absent. -/
def seeThrough : Value → Except Ty Spot
  | absent inner => .error (.optional inner)
  | present payload => (seeThrough payload).map (Spot.within ⟨[.payload], payload⟩)
  | v => .ok (.whole v)

theorem seeThrough_in {v : Value} {spot : Spot} (h : v.seeThrough = .ok spot) : spot.In v := by
  fun_induction seeThrough v generalizing spot with
  | case1 => simp at h
  | case2 payload ih =>
    cases hs : payload.seeThrough with
    | error ty => simp [hs, Except.map] at h
    | ok inner =>
      simp only [hs, Except.map, Except.ok.injEq] at h
      subst h
      exact Spot.In.within rfl (ih hs)
  | case3 v =>
    simp only [Except.ok.injEq] at h
    subst h
    exact Spot.In.whole v

end Value

end ObjectPath
