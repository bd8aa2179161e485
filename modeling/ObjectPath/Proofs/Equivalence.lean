import ObjectPath.Proofs.Comparison

/-!
# Comparison is a partial equivalence

Each kind of value compares in a way of its own. It has its own answer to values of other types,
and its answers for its parts are brought in an order of its own. Between values of one type these
differences go away: the answer is the same in both directions, whichever of the three it is.
Values that are equal are of one type, and what is equal to an equal value is equal.

A value need not be equal to itself. It is exactly if it can be compared throughout: scripts find
in it neither a number that is none nor a sealed object. What an object has in slots that are
hidden from scripts never matters.

Results:
* `Schema.Matches.trans`: matching carries over, between faces and between numbers.
* `Schema.equal_comm_of_ty_eq`: values of one type give each other the same answer.
* `Schema.equal_trans`: what is equal to an equal value is equal.
* `Schema.equal_self_iff`: which values are equal to themselves.
* `Schema.equal_congr_of_alike`: the answer depends on what scripts see.
* `Schema.equality_is_partial_equivalence`: all of this together.
-/

namespace ObjectPath

namespace Schema

variable {S : Schema} {classes : ClassId → Prop} {u v w v' w' : Value}

/-! ## Matching -/

theorem Matches.cases (h : S.Matches v w) : v.face = w.face ∧ S.Comparable v ∨
    ∃ kind bits more, v = .float kind bits ∧ w = .float kind more ∧
      kind.format.equal bits more = true := by
  cases v with
  | float kind bits =>
    cases w with
    | float other more =>
      obtain ⟨rfl, hequal⟩ := h
      exact .inr ⟨kind, bits, more, rfl, rfl, hequal⟩
    | _ => exact .inl h
  | _ => exact .inl h

theorem Matches.length_parts (h : S.Matches v w) : v.parts.length = w.parts.length := by
  rcases h.cases with ⟨hface, -⟩ | ⟨kind, bits, more, rfl, rfl, -⟩
  · exact Value.length_parts_of_face_eq hface
  · rfl

theorem Matches.shows_iff (h : S.Matches v w) {i : Nat} : S.Shows v i ↔ S.Shows w i := by
  rcases h.cases with ⟨hface, -⟩ | ⟨kind, bits, more, rfl, rfl, -⟩
  · exact shows_iff_of_face_eq hface
  · exact Iff.rfl

theorem Matches.trans (h : S.Matches u v) (h' : S.Matches v w) : S.Matches u w := by
  rcases h.cases with ⟨hface, hself⟩ | ⟨kind, bits, more, rfl, rfl, hequal⟩
  · rcases h'.cases with ⟨hface', -⟩ | ⟨kind, bits, more, rfl, rfl, -⟩
    · exact matches_of_face_eq (hface.trans hface') hself
    · rwa [← Value.eq_of_face_eq rfl hface.symm]
  · cases w with
    | float other last =>
      obtain ⟨rfl, hequal'⟩ := h'
      exact ⟨rfl, Decimal.Format.equal_trans hequal hequal'⟩
    | _ => rwa [← Value.eq_of_face_eq rfl h'.1]

/-- A number that matches itself is one. -/
theorem Matches.comparable (h : S.Matches v v) : S.Comparable v := by
  rcases h.cases with ⟨-, hself⟩ | ⟨kind, bits, more, rfl, hsame, hequal⟩
  · exact hself
  · simp only [Decimal.Format.equal, Bool.and_eq_true, Bool.not_eq_true'] at hequal
    exact hequal.1.1

/-! ## Equal values -/

theorem equal_trans (hu : S.FitsThroughout classes u) (hv : S.FitsThroughout classes v)
    (hw : S.FitsThroughout classes w) (h : S.equal u v = some true)
    (h' : S.equal v w = some true) : S.equal u w = some true := by
  induction u using Value.inductionOnAllParts generalizing v w with
  | step u ih =>
    obtain ⟨hmatch, hparts⟩ := of_equal_eq_true hu.here hv.here h
    obtain ⟨hmatch', hparts'⟩ := of_equal_eq_true hv.here hw.here h'
    have hty := (ty_eq_of_equal h).trans (ty_eq_of_equal h')
    refine equal_eq_true_of_parts (hmatch.trans hmatch') hty fun i x z hshows hx hz => ?_
    obtain ⟨y, hy⟩ := exists_getElem?_of_length_eq hmatch.length_parts hx
    have hmem := List.mem_of_getElem? hx
    exact ih x hmem (hu.parts x hmem) (hv.parts y (List.mem_of_getElem? hy))
      (hw.parts z (List.mem_of_getElem? hz)) (hparts i x y hshows hx hy)
      (hparts' i y z (hmatch.shows_iff.1 hshows) hy hz)

/-- The values that are equal to themselves are those that can be compared throughout. -/
theorem equal_self_iff (hv : S.FitsThroughout classes v) :
    S.equal v v = some true ↔ S.ComparableThroughout v := by
  refine ⟨fun h => ?_, (Alike.refl v).equal_eq_true⟩
  induction v using Value.inductionOnAllParts with
  | step v ih =>
    obtain ⟨hmatch, hparts⟩ := of_equal_eq_true hv.here hv.here h
    refine comparableThroughout_iff.2 ⟨hmatch.comparable, fun i part hshows hpart => ?_⟩
    have hmem := List.mem_of_getElem? hpart
    exact ih part hmem (hv.parts part hmem) (hparts i part part hshows hpart hpart)

/-! ## All answers -/

/-- Where the same values are compared, or values that give the same answer, the answers for the
    position are the same. -/
theorem getElem?_equalEach_congr {xs ys xs' ys' : List Value} {i : Nat}
    (hxs : xs.length = xs'.length) (hys : ys.length = ys'.length)
    (h : ∀ x y x' y', xs[i]? = some x → ys[i]? = some y → xs'[i]? = some x' → ys'[i]? = some y' →
      S.equal x y = S.equal x' y') : (S.equalEach xs ys)[i]? = (S.equalEach xs' ys')[i]? := by
  refine Option.ext fun answer => ?_
  simp only [getElem?_equalEach]
  constructor
  · rintro ⟨x, y, hx, hy, rfl⟩
    obtain ⟨x', hx'⟩ := exists_getElem?_of_length_eq hxs hx
    obtain ⟨y', hy'⟩ := exists_getElem?_of_length_eq hys hy
    exact ⟨x', y', hx', hy', (h x y x' y' hx hy hx' hy').symm⟩
  · rintro ⟨x', y', hx', hy', rfl⟩
    obtain ⟨x, hx⟩ := exists_getElem?_of_length_eq hxs.symm hx'
    obtain ⟨y, hy⟩ := exists_getElem?_of_length_eq hys.symm hy'
    exact ⟨x, y, hx, hy, h x y x' y' hx hy hx' hy'⟩

/-- Parts at the same position of values of one type are of one type. -/
theorem PartsFit.ty_part_eq {i : Nat} {x y : Value} (hv : S.PartsFit classes v)
    (hw : S.PartsFit classes w) (hty : v.ty = w.ty) (hx : v.parts[i]? = some x)
    (hy : w.parts[i]? = some y) : x.ty = y.ty := by
  cases v with
  | present payload =>
    rcases Value.eq_optional_of_ty_eq hty.symm with rfl | ⟨other, rfl, hother⟩
    · simp [Value.parts] at hy
    · rw [List.mem_singleton.1 (List.mem_of_getElem? hx),
        List.mem_singleton.1 (List.mem_of_getElem? hy), hother]
  | vector element xs =>
    obtain ⟨ys, rfl⟩ := Value.eq_vector_of_ty_eq hty.symm
    rw [hv x (List.mem_of_getElem? hx), hw y (List.mem_of_getElem? hy)]
  | object id xs =>
    obtain ⟨ys, rfl⟩ := Value.eq_object_of_ty_eq hty.symm
    have htypes := congrArg (·[i]?) (hv.2.trans hw.2.symm)
    have hxi : xs[i]? = some x := hx
    have hyi : ys[i]? = some y := hy
    simpa [List.getElem?_map, hxi, hyi] using htypes
  | _ => simp [Value.parts] at hx

theorem scalarEqual_comm (v w : Value) : v.scalarEqual w = w.scalarEqual v := by
  have hsame : v.same w = w.same v :=
    Bool.eq_iff_iff.2 ((Value.same_iff v w).trans (eq_comm.trans (Value.same_iff w v).symm))
  cases v with
  | float kind bits =>
    cases w with
    | float other more =>
      by_cases hkind : kind = other
      · rw [Value.scalarEqual, Value.scalarEqual, hkind, Decimal.Format.equal_comm]
      · rw [Value.scalarEqual, Value.scalarEqual, beq_false_of_ne hkind,
          beq_false_of_ne (Ne.symm hkind), Bool.false_and, Bool.false_and]
    | _ => exact hsame
  | _ => cases w <;> exact hsame

/-- Values of one type give each other the same answer. -/
theorem equal_comm_of_ty_eq (hv : S.FitsThroughout classes v) (hw : S.FitsThroughout classes w)
    (hty : v.ty = w.ty) : S.equal v w = S.equal w v := by
  induction v using Value.inductionOnAllParts generalizing w with
  | step v ih =>
    -- parts at the same position are of one type again, so the induction goes through all of them
    have hparts (hlen : v.parts.length = w.parts.length) :
        S.equalEach v.parts w.parts = S.equalEach w.parts v.parts := by
      refine List.ext_getElem? fun i => getElem?_equalEach_congr hlen hlen.symm ?_
      intro x y y' x' hx hy hy' hx'
      obtain rfl := Option.some.inj (hx.symm.trans hx')
      obtain rfl := Option.some.inj (hy.symm.trans hy')
      have hmem := List.mem_of_getElem? hx
      exact ih x hmem (hv.parts x hmem) (hw.parts y (List.mem_of_getElem? hy))
        (hv.here.ty_part_eq hw.here hty hx hy)
    cases v with
    | present payload =>
      rcases Value.eq_optional_of_ty_eq hty.symm with rfl | ⟨other, rfl, hother⟩
      · rw [equal_present_absent]
        simp [equal, Value.ty]
      · rw [equal_present hother.symm, equal_present hother]
        exact ih payload (List.mem_singleton_self _) (fitsThroughout_present_iff.1 hv)
          (fitsThroughout_present_iff.1 hw) hother.symm
    | absent inner =>
      rcases Value.eq_optional_of_ty_eq hty.symm with rfl | ⟨other, rfl, rfl⟩
      · rfl
      · rw [equal_present_absent]
        simp [equal, Value.ty]
    | vector element xs =>
      obtain ⟨ys, rfl⟩ := Value.eq_vector_of_ty_eq hty.symm
      by_cases hlen : xs.length = ys.length
      · rw [equal_vector hlen, equal_vector hlen.symm]
        exact congrArg firstDifference (hparts hlen)
      · rw [equal_vector_of_length_ne hlen, equal_vector_of_length_ne (Ne.symm hlen)]
    | object id xs =>
      obtain ⟨ys, rfl⟩ := Value.eq_object_of_ty_eq hty.symm
      have hanswers : S.equalEach xs ys = S.equalEach ys xs :=
        hparts (hv.here.length_slots_eq hw.here)
      rw [equal_object, equal_object, hanswers]
    | _ =>
      cases w <;> first
        | exact congrArg some (scalarEqual_comm _ _)
        | simp [Value.ty] at hty

theorem answerToOthers_eq_of_face_eq (h : v.face = w.face) :
    S.answerToOthers v = S.answerToOthers w :=
  Value.congr_of_face_eq S.answerToOthers (fun u => by cases u <;> rfl) h

/-- The answer depends on what scripts see in the two values. -/
theorem equal_congr_of_alike (hv : S.Alike v v') (hw : S.Alike w w') :
    S.equal v w = S.equal v' w' := by
  induction v using Value.inductionOnAllParts generalizing w v' w' with
  | step v ih =>
    -- the answer to another type depends on the face, the answer to the own type on the parts too
    by_cases hty : v.ty = w.ty
    case neg =>
      have hty' : v'.ty ≠ w'.ty := by rwa [← hv.ty_eq, ← hw.ty_eq]
      rw [equal_of_ty_ne hty, equal_of_ty_ne hty', answerToOthers_eq_of_face_eq hv.face_eq]
    case pos =>
      have hparts {i : Nat} (hshows : S.Shows v i) (hshows' : S.Shows w i) :
          (S.equalEach v.parts w.parts)[i]? = (S.equalEach v'.parts w'.parts)[i]? := by
        refine getElem?_equalEach_congr (Value.length_parts_of_face_eq hv.face_eq)
          (Value.length_parts_of_face_eq hw.face_eq) fun x y x' y' hx hy hx' hy' => ?_
        exact ih x (List.mem_of_getElem? hx) (hv.part hshows hx hx') (hw.part hshows' hy hy')
      cases v with
      | present payload =>
        obtain ⟨payload', rfl⟩ := Value.eq_present_of_face_eq hv.face_eq
        have hpayload : S.Alike payload payload' := hv.part (i := 0) trivial rfl rfl
        rcases Value.eq_optional_of_ty_eq hty.symm with rfl | ⟨other, rfl, hother⟩
        · rw [← Value.eq_of_face_eq rfl hw.face_eq, equal_present_absent, hpayload.ty_eq,
            equal_present_absent]
        · obtain ⟨other', rfl⟩ := Value.eq_present_of_face_eq hw.face_eq
          have hother' : S.Alike other other' := hw.part (i := 0) trivial rfl rfl
          have hpayloads : payload'.ty = other'.ty := by
            rw [← hpayload.ty_eq, ← hother'.ty_eq, hother]
          rw [equal_present hother.symm, equal_present hpayloads]
          exact ih payload (List.mem_singleton_self _) hpayload hother'
      | absent inner =>
        rw [← Value.eq_of_face_eq rfl hv.face_eq]
        rcases Value.eq_optional_of_ty_eq hty.symm with rfl | ⟨other, rfl, hother⟩
        · rw [← Value.eq_of_face_eq rfl hw.face_eq]
        · obtain ⟨other', rfl⟩ := Value.eq_present_of_face_eq hw.face_eq
          have hother' : other'.ty = inner := by
            rw [← hother]
            exact (hw.part (i := 0) trivial rfl rfl : S.Alike other other').ty_eq.symm
          simp [equal, Value.ty, hother, hother']
      | vector element xs =>
        obtain ⟨ys, rfl⟩ := Value.eq_vector_of_ty_eq hty.symm
        obtain ⟨xs', rfl, hxs⟩ := Value.eq_vector_of_face_eq hv.face_eq
        obtain ⟨ys', rfl, hys⟩ := Value.eq_vector_of_face_eq hw.face_eq
        by_cases hlen : xs.length = ys.length
        · have hlen' : xs'.length = ys'.length := by omega
          rw [equal_vector hlen, equal_vector hlen']
          exact congrArg firstDifference (List.ext_getElem? fun i => hparts trivial trivial)
        · have hlen' : xs'.length ≠ ys'.length := by omega
          rw [equal_vector_of_length_ne hlen, equal_vector_of_length_ne hlen']
      | object id xs =>
        obtain ⟨ys, rfl⟩ := Value.eq_object_of_ty_eq hty.symm
        obtain ⟨xs', rfl, -⟩ := Value.eq_object_of_face_eq hv.face_eq
        obtain ⟨ys', rfl, -⟩ := Value.eq_object_of_face_eq hw.face_eq
        have hanswers : (S.decl id).compareOrder (S.equalEach xs ys) =
            (S.decl id).compareOrder (S.equalEach xs' ys') :=
          ClassDecl.compareOrder_congr fun i slot hslot hrole =>
            hparts ⟨slot, hslot, hrole⟩ ⟨slot, hslot, hrole⟩
        rw [equal_object, equal_object, hanswers]
      | _ =>
        rw [← Value.eq_of_face_eq rfl hv.face_eq]
        cases w <;> first
          | rw [← Value.eq_of_face_eq rfl hw.face_eq]
          | simp [Value.ty] at hty

/-! ## The laws -/

/-- Comparison is a partial equivalence. Values that are equal are of one type, are equal in both
    directions, and what is equal to an equal value is equal. Values of one type give each other
    the same answer, whichever it is. A value is equal to itself if and only if all components
    that scripts see can be compared. The answer stays the same when both values change in hidden
    slots only, at any depth. -/
theorem equality_is_partial_equivalence (hu : S.FitsThroughout classes u)
    (hv : S.FitsThroughout classes v) (hw : S.FitsThroughout classes w) :
    (S.equal u v = some true → u.ty = v.ty ∧ S.equal v u = some true) ∧
    (S.equal u v = some true → S.equal v w = some true → S.equal u w = some true) ∧
    (u.ty = v.ty → S.equal u v = S.equal v u) ∧
    (S.equal u u = some true ↔ S.ComparableThroughout u) ∧
    (∀ u' v', S.Alike u u' → S.Alike v v' → S.equal u v = S.equal u' v') := by
  refine ⟨fun h => ?_, equal_trans hu hv hw, equal_comm_of_ty_eq hu hv, equal_self_iff hu,
    fun u' v' => equal_congr_of_alike⟩
  have hty := ty_eq_of_equal h
  exact ⟨hty, (equal_comm_of_ty_eq hu hv hty).symm.trans h⟩

end Schema

namespace Gallery

/-- Three vectors that differ in a hidden slot are equal in both directions and all around, and
    each is equal to itself. -/
theorem caches_are_equal :
    (∀ cache ∈ [7, 8, 9], gallery.FitsThroughout gallery.IsDerived (cachedList cache)) ∧
      gallery.equal (cachedList 7) (cachedList 8) = some true ∧
      gallery.equal (cachedList 8) (cachedList 7) = some true ∧
      gallery.equal (cachedList 7) (cachedList 9) = some true ∧
      gallery.equal (cachedList 7) (cachedList 7) = some true := by
  have hfits : ∀ cache ∈ [7, 8, 9],
      gallery.FitsThroughout gallery.IsDerived (cachedList cache) := by
    intro cache hcache
    simp only [List.mem_cons, List.not_mem_nil, or_false] at hcache
    rcases hcache with rfl | rfl | rfl <;>
      exact Schema.wellTyped_iff.1 (by decide +kernel)
  have hequal : gallery.equal (cachedList 7) (cachedList 8) = some true := by decide +kernel
  have hequal' : gallery.equal (cachedList 8) (cachedList 9) = some true := by decide +kernel
  obtain ⟨hsymm, htrans, -, hself, -⟩ := Schema.equality_is_partial_equivalence
    (hfits 7 (by simp)) (hfits 8 (by simp)) (hfits 9 (by simp))
  exact ⟨hfits, hequal, (hsymm hequal).2, htrans hequal hequal',
    hself.2 (comparableThroughout_cachedList 7)⟩

/-- The two zeros are equal in a vector, too. -/
example : gallery.equal (.vector (.float .f64) [.float .f64 0])
    (.vector (.float .f64) [.float .f64 (2 ^ 63)]) = some true := by decide +kernel

end Gallery

end ObjectPath
