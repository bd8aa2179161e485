import ObjectPath.Equality
import ObjectPath.Gallery
import ObjectPath.Proofs.Components

/-!
# Values that compare as equal

A comparison goes from a value to its parts, and the first answer other than "equal" stands. A
value has one answer for all values of other types. For values of one type the answer is "equal"
if they match apart from their parts, and all parts that scripts see compare as equal. Values with
the same face match, unless something stands in the way in the values themselves: a number that is
none, or an object that is sealed. Numbers match as their standard says.

Results:
* `firstDifference_eq_true_iff`: the answer is "equal" if all answers are.
* `ClassDecl.compareOrder_congr`: the answers for hidden slots do not count.
* `Schema.equal_of_ty_ne`, `Schema.ty_eq_of_equal`: the answer to values of other types.
* `Schema.equal_eq_true_of_parts`, `Schema.of_equal_eq_true`: values compare as equal if they match
  and their parts compare as equal, and only then.
* `Schema.Alike.equal_eq_true`: values that look alike compare as equal, if all components that
  scripts see can be compared.
-/

namespace ObjectPath

theorem firstDifference_eq_true_iff {answers : List (Option Bool)} :
    firstDifference answers = some true ↔ ∀ answer ∈ answers, answer = some true := by
  induction answers with
  | nil => simp [firstDifference]
  | cons answer rest ih =>
    rw [List.forall_mem_cons, ← ih]
    rcases answer with _ | _ | _ <;> simp [firstDifference]

namespace ClassDecl

variable {c : ClassDecl} {answers others : List (Option Bool)}

/-- The slots that a comparison goes through: the base slot and then the declared ones, each with
    its position. -/
def comparedSlots (c : ClassDecl) : List (Slot × Nat) := c.slotsOf .base ++ c.slotsOf .declared

theorem mem_comparedSlots {entry : Slot × Nat} :
    entry ∈ c.comparedSlots ↔ c.slots[entry.2]? = some entry.1 ∧ entry.1.role ≠ .ignored :=
  List.mem_append.trans (or_comm.trans mem_declared_or_base)

theorem compareOrder_eq (c : ClassDecl) (answers : List (Option Bool)) :
    c.compareOrder answers = c.comparedSlots.filterMap fun entry => answers[entry.2]? := by
  rw [compareOrder, filter_zip_role, filter_zip_role, ← List.filterMap_append, ← comparedSlots,
    List.map_filterMap]
  refine List.filterMap_congr fun entry _ => ?_
  rw [Option.map_map]
  exact Option.map_id'

/-- The answers that count are those for slots that scripts see. -/
theorem mem_compareOrder_iff {answer : Option Bool} :
    answer ∈ c.compareOrder answers ↔ ∃ (i : Nat) (slot : Slot),
      c.slots[i]? = some slot ∧ slot.role ≠ .ignored ∧ answers[i]? = some answer := by
  rw [compareOrder_eq, List.mem_filterMap]
  constructor
  · rintro ⟨entry, hentry, hanswer⟩
    obtain ⟨hslot, hrole⟩ := mem_comparedSlots.1 hentry
    exact ⟨entry.2, entry.1, hslot, hrole, hanswer⟩
  · rintro ⟨i, slot, hslot, hrole, hanswer⟩
    exact ⟨(slot, i), mem_comparedSlots.2 ⟨hslot, hrole⟩, hanswer⟩

/-- The other answers do not count. -/
theorem compareOrder_congr (h : ∀ (i : Nat) (slot : Slot), c.slots[i]? = some slot →
    slot.role ≠ .ignored → answers[i]? = others[i]?) :
    c.compareOrder answers = c.compareOrder others := by
  rw [compareOrder_eq, compareOrder_eq]
  refine List.filterMap_congr fun entry hentry => ?_
  obtain ⟨hslot, hrole⟩ := mem_comparedSlots.1 hentry
  exact h entry.2 entry.1 hslot hrole

end ClassDecl

namespace Schema

variable {S : Schema} {v w : Value}

theorem equalEach_eq_zipWith (xs ys : List Value) :
    S.equalEach xs ys = List.zipWith S.equal xs ys := by
  induction xs generalizing ys with
  | nil => cases ys <;> rfl
  | cons x xs ih =>
    cases ys with
    | nil => rfl
    | cons y ys => rw [equalEach, ih, List.zipWith_cons_cons]

theorem getElem?_equalEach {xs ys : List Value} {i : Nat} {answer : Option Bool} :
    (S.equalEach xs ys)[i]? = some answer ↔
      ∃ x y, xs[i]? = some x ∧ ys[i]? = some y ∧ S.equal x y = answer := by
  rw [equalEach_eq_zipWith, List.getElem?_zipWith_eq_some]

/-- Apart from its parts, nothing in the value keeps it from comparing as equal to itself. -/
def Comparable (S : Schema) : Value → Prop
  | .float kind bits => kind.format.isNaN bits = false
  | .object id _ => (S.decl id).isSealed = false
  | _ => True

/-- All components that scripts see are comparable. -/
def ComparableThroughout (S : Schema) (v : Value) : Prop :=
  ∀ trail component, S.Sees v trail component → S.Comparable component

theorem comparableThroughout_iff : S.ComparableThroughout v ↔ S.Comparable v ∧
    ∀ (i : Nat) (part : Value), S.Shows v i → v.parts[i]? = some part →
      S.ComparableThroughout part := by
  constructor
  · intro h
    refine ⟨h [] v (.here v), fun i part hshows hpart trail component hsees => ?_⟩
    exact h (i :: trail) component (.part trivial hshows hpart hsees)
  · rintro ⟨hself, hparts⟩ trail component hsees
    cases hsees with
    | here => exact hself
    | part _ hshows hpart hrest => exact hparts _ _ hshows hpart _ _ hrest

/-! ## Values of different types -/

/-- The answer of a value to all values of other types. -/
def answerToOthers (S : Schema) : Value → Option Bool
  | .absent _ | .present _ | .vector _ _ => none
  | .object id _ => if (S.decl id).isSealed then none else some false
  | _ => some false

theorem equal_of_ty_ne (h : v.ty ≠ w.ty) : S.equal v w = S.answerToOthers v := by
  cases v with
  | absent inner =>
    have hother : ¬ w.ty = .optional inner := Ne.symm h
    rw [equal, if_neg hother, answerToOthers]
  | present payload =>
    have hother : ¬ w.ty = .optional payload.ty := Ne.symm h
    cases w <;> simp only [equal, hother, if_false, answerToOthers]
  | vector element items =>
    cases w with
    | vector other others =>
      have helement : element ≠ other := fun heq => h (congrArg Ty.vector heq)
      rw [equal, if_pos helement, answerToOthers]
    | _ => rfl
  | object id slots =>
    cases w with
    | object other others =>
      have hid : id ≠ other := fun heq => h (congrArg Ty.object heq)
      rw [equal, answerToOthers, if_neg hid]
    | _ => rfl
  | float kind bits =>
    cases w with
    | float other more =>
      have hkind : kind ≠ other := fun heq => h (congrArg Ty.float heq)
      simp [equal, Value.scalarEqual, answerToOthers, hkind]
    | _ => rfl
  | int kind n =>
    cases w with
    | int other m =>
      have hkind : kind ≠ other := fun heq => h (congrArg Ty.int heq)
      simp [equal, Value.scalarEqual, Value.same, answerToOthers, hkind]
    | _ => rfl
  | _ => cases w <;> first | rfl | exact absurd rfl h

/-- Only values of one type compare as equal. -/
theorem ty_eq_of_equal (h : S.equal v w = some true) : v.ty = w.ty := by
  by_contra hty
  rw [equal_of_ty_ne hty] at h
  cases v with
  | object id slots =>
    rw [answerToOthers] at h
    split at h <;> simp at h
  | _ => simp [answerToOthers] at h

/-! ## Values of one type -/

theorem equal_present {payload other : Value} (h : payload.ty = other.ty) :
    S.equal (.present payload) (.present other) = S.equal payload other := by
  have hty : (Value.present other).ty = .optional payload.ty := by rw [h, Value.ty]
  rw [equal, if_pos hty]

theorem equal_present_absent (payload : Value) :
    S.equal (.present payload) (.absent payload.ty) = some false := by
  simp [equal, Value.ty]

theorem equal_vector {element : Ty} {xs ys : List Value} (hlen : xs.length = ys.length) :
    S.equal (.vector element xs) (.vector element ys) = firstDifference (S.equalEach xs ys) := by
  simp [equal, hlen]

theorem equal_vector_of_length_ne {element : Ty} {xs ys : List Value}
    (hlen : xs.length ≠ ys.length) :
    S.equal (.vector element xs) (.vector element ys) = some false := by
  simp [equal, hlen]

theorem equal_object (id : ClassId) (xs ys : List Value) :
    S.equal (.object id xs) (.object id ys) = if (S.decl id).isSealed then none else
      firstDifference ((S.decl id).compareOrder (S.equalEach xs ys)) := by
  simp only [equal, if_true]

theorem equal_vector_eq_true_iff {element : Ty} {xs ys : List Value}
    (hlen : xs.length = ys.length) :
    S.equal (.vector element xs) (.vector element ys) = some true ↔
      ∀ (i : Nat) (a b : Value), xs[i]? = some a → ys[i]? = some b → S.equal a b = some true := by
  rw [equal_vector hlen, firstDifference_eq_true_iff]
  constructor
  · intro h i a b ha hb
    have hi : (S.equalEach xs ys)[i]? = some (S.equal a b) :=
      getElem?_equalEach.2 ⟨a, b, ha, hb, rfl⟩
    exact h _ (List.mem_of_getElem? hi)
  · intro h answer hanswer
    obtain ⟨i, hi⟩ := List.mem_iff_getElem?.1 hanswer
    obtain ⟨a, b, ha, hb, rfl⟩ := getElem?_equalEach.1 hi
    exact h i a b ha hb

theorem equal_object_eq_true_iff {id : ClassId} {xs ys : List Value} :
    S.equal (.object id xs) (.object id ys) = some true ↔ (S.decl id).isSealed = false ∧
      ∀ (i : Nat) (a b : Value), S.Shows (.object id xs) i → xs[i]? = some a → ys[i]? = some b →
        S.equal a b = some true := by
  rw [equal_object]
  cases (S.decl id).isSealed with
  | true => simp
  | false =>
    rw [if_neg Bool.false_ne_true, firstDifference_eq_true_iff, and_iff_right rfl]
    constructor
    · rintro h i a b ⟨slot, hslot, hrole⟩ ha hb
      have hi : (S.equalEach xs ys)[i]? = some (S.equal a b) :=
        getElem?_equalEach.2 ⟨a, b, ha, hb, rfl⟩
      exact h _ (ClassDecl.mem_compareOrder_iff.2 ⟨i, slot, hslot, hrole, hi⟩)
    · intro h answer hanswer
      obtain ⟨i, slot, hslot, hrole, hi⟩ := ClassDecl.mem_compareOrder_iff.1 hanswer
      obtain ⟨a, b, ha, hb, rfl⟩ := getElem?_equalEach.1 hi
      exact h i a b ⟨slot, hslot, hrole⟩ ha hb

/-- The two values compare as equal, apart from their parts. -/
def Matches (S : Schema) : Value → Value → Prop
  | .float kind bits, .float other more => kind = other ∧ kind.format.equal bits more = true
  | v, w => v.face = w.face ∧ S.Comparable v

theorem matches_of_face_eq (hface : v.face = w.face) (hself : S.Comparable v) :
    S.Matches v w := by
  cases v with
  | float kind bits =>
    have hnumber : kind.format.isNaN bits = false := hself
    rw [← Value.eq_of_face_eq rfl hface]
    exact ⟨rfl, by simp [Decimal.Format.equal, hnumber]⟩
  | _ => exact ⟨hface, hself⟩

/-- Values that match are equal if the parts are equal that scripts see. -/
theorem equal_eq_true_of_parts (h : S.Matches v w) (hty : v.ty = w.ty)
    (hparts : ∀ (i : Nat) (a b : Value), S.Shows v i → v.parts[i]? = some a →
      w.parts[i]? = some b → S.equal a b = some true) : S.equal v w = some true := by
  cases v with
  | present payload =>
    obtain ⟨other, rfl⟩ := Value.eq_present_of_face_eq h.1
    rw [equal_present (Ty.optional.inj hty)]
    exact hparts 0 payload other trivial rfl rfl
  | vector element items =>
    obtain ⟨others, rfl, hlen⟩ := Value.eq_vector_of_face_eq h.1
    exact (equal_vector_eq_true_iff hlen).2 fun i a b => hparts i a b trivial
  | object id slots =>
    obtain ⟨others, rfl, -⟩ := Value.eq_object_of_face_eq h.1
    exact equal_object_eq_true_iff.2 ⟨h.2, hparts⟩
  | float kind bits =>
    cases w with
    | float other more =>
      obtain ⟨rfl, hequal⟩ := h
      simp [equal, Value.scalarEqual, hequal]
    | _ => simp [Value.ty] at hty
  | absent inner =>
    rw [← Value.eq_of_face_eq rfl h.1]
    simp [equal, Value.ty]
  | _ =>
    rw [← Value.eq_of_face_eq rfl h.1]
    simp [equal, Value.scalarEqual, Value.same_self]

theorem PartsFit.length_slots_eq {classes : ClassId → Prop} {id : ClassId} {xs ys : List Value}
    (hv : S.PartsFit classes (.object id xs)) (hw : S.PartsFit classes (.object id ys)) :
    xs.length = ys.length := by
  have htypes := congrArg List.length (hv.2.trans hw.2.symm)
  rwa [List.length_map, List.length_map] at htypes

/-- Values that are equal match, and the parts are equal that scripts see. -/
theorem of_equal_eq_true {classes : ClassId → Prop} (hv : S.PartsFit classes v)
    (hw : S.PartsFit classes w) (h : S.equal v w = some true) :
    S.Matches v w ∧ ∀ (i : Nat) (a b : Value), S.Shows v i → v.parts[i]? = some a →
      w.parts[i]? = some b → S.equal a b = some true := by
  have hty := ty_eq_of_equal h
  cases v with
  | present payload =>
    rcases Value.eq_optional_of_ty_eq hty.symm with rfl | ⟨other, rfl, hother⟩
    · simp [equal_present_absent] at h
    · rw [equal_present hother.symm] at h
      refine ⟨⟨rfl, trivial⟩, fun i a b _ ha hb => ?_⟩
      rw [List.mem_singleton.1 (List.mem_of_getElem? ha),
        List.mem_singleton.1 (List.mem_of_getElem? hb)]
      exact h
  | vector element items =>
    obtain ⟨others, rfl⟩ := Value.eq_vector_of_ty_eq hty.symm
    by_cases hlen : items.length = others.length
    · exact ⟨⟨Value.face_vector_eq_iff.2 hlen, trivial⟩,
        fun i a b _ => (equal_vector_eq_true_iff hlen).1 h i a b⟩
    · rw [equal_vector_of_length_ne hlen] at h
      cases h
  | object id slots =>
    obtain ⟨others, rfl⟩ := Value.eq_object_of_ty_eq hty.symm
    obtain ⟨hopen, hparts⟩ := equal_object_eq_true_iff.1 h
    exact ⟨⟨Value.face_object_eq_iff.2 (hv.length_slots_eq hw), hopen⟩, hparts⟩
  | float kind bits =>
    cases w with
    | float other more =>
      simp only [equal, Value.scalarEqual, Option.some.injEq, Bool.and_eq_true, beq_iff_eq] at h
      exact ⟨h, fun i a b _ ha => by simp [Value.parts] at ha⟩
    | _ => simp [Value.ty] at hty
  | absent inner =>
    have hsame : w.ty = .optional inner := hty.symm
    rw [equal, if_pos hsame, Option.some.injEq, decide_eq_true_eq] at h
    rw [h]
    exact ⟨⟨rfl, trivial⟩, fun i a b _ ha => by simp [Value.parts] at ha⟩
  | _ =>
    simp only [equal, Value.scalarEqual, Option.some.injEq, Value.same_iff] at h
    rw [← h]
    exact ⟨⟨rfl, trivial⟩, fun i a b _ ha => by simp [Value.parts] at ha⟩

/-- Values that look alike compare as equal, if all components that scripts see are comparable. -/
theorem Alike.equal_eq_true (h : S.Alike v w) (hv : S.ComparableThroughout v) :
    S.equal v w = some true := by
  induction v using Value.inductionOnAllParts generalizing w with
  | step v ih =>
    obtain ⟨hself, hparts⟩ := comparableThroughout_iff.1 hv
    refine equal_eq_true_of_parts (matches_of_face_eq h.face_eq hself) h.ty_eq
      fun i a b hshows ha hb => ?_
    exact ih a (List.mem_of_getElem? ha) (h.part hshows ha hb) (hparts i a hshows ha)

end Schema

namespace Gallery

/-- A vector of one object, with the given number in the slot that scripts do not see. -/
def cachedList (cache : Int) : Value :=
  .vector cached.objects [.object cached.id [.string "k", .int .u64 cache, .int .u32 2]]

theorem comparableThroughout_cachedList (cache : Int) :
    gallery.ComparableThroughout (cachedList cache) := by
  refine Schema.comparableThroughout_iff.2 ⟨trivial, fun i item _ hitem => ?_⟩
  obtain rfl := List.mem_singleton.1 (List.mem_of_getElem? hitem)
  refine Schema.comparableThroughout_iff.2 ⟨rfl, fun j part _ hpart => ?_⟩
  have hscalar : part.parts = [] ∧ gallery.Comparable part := by
    have hmem := List.mem_of_getElem? hpart
    simp only [Value.parts, List.mem_cons, List.not_mem_nil, or_false] at hmem
    rcases hmem with rfl | rfl | rfl <;> exact ⟨rfl, trivial⟩
  exact Schema.comparableThroughout_iff.2 ⟨hscalar.2, fun _ _ _ hnone => by simp [hscalar] at hnone⟩

end Gallery

end ObjectPath
