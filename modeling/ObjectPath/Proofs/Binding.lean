import ObjectPath.Proofs.Components
import ObjectPath.Proofs.Renumbering

/-!
# Placeholders are bound one by one

Arguments come about in several ways, all at once or one at a time, with or without types of their
own. In each case there is one declared type for each value. Binding goes through the placeholders
of a call from left to right. Each of them gets the declared type and a clone of the argument of
its number, counted from one, no matter how often or in which order arguments are referred to. The
first placeholder that has no argument, or one that cannot be cloned, ends the binding, and it is
the one that is reported. The arguments themselves are only looked at.

Results:
* `Arguments.Built.values_types_eq`: values and declared types stay side by side.
* `Arguments.bindOne_eq_error_iff`: what is wrong with a single placeholder.
* `Arguments.binding_is_positional`: when a call is bound, to what, and what is reported if not.
-/

namespace ObjectPath

theorem Placeholder.index_lt_iff (p : Placeholder) {n : Nat} : p.index < n ↔ p.number ≤ n := by
  have hpos := p.number_pos
  unfold index
  omega

namespace Arguments

variable {S : Schema} {args : Arguments} {values : List Value} {types : List Ty}

/-! ## Ways to build arguments -/

/-- The arguments are built from the values with the declared types. -/
inductive Built : Arguments → List Value → List Ty → Prop
  | empty : Built .empty [] []
  | ofValues (values : List Value) : Built (.ofValues values) values (values.map Value.ty)
  | typed {args : Arguments} {values : List Value} {types : List Ty}
      (h : Arguments.typed values types = .ok args) : Built args values types
  | push {args : Arguments} {values : List Value} {types : List Ty} (h : Built args values types)
      (v : Value) : Built (args.push v) (values ++ [v]) (types ++ [v.ty])
  | pushAs {args : Arguments} {values : List Value} {types : List Ty}
      (h : Built args values types) (v : Value) (ty : Ty) :
      Built (args.pushAs v ty) (values ++ [v]) (types ++ [ty])

theorem typed_eq_ok_iff : Arguments.typed values types = .ok args ↔
    args.entries.map (·.value) = values ∧ args.types = types := by
  obtain ⟨entries⟩ := args
  unfold typed Arguments.types
  constructor
  · intro h
    split at h
    · next hlen =>
      cases h
      constructor
      · exact List.ext_getElem (by simp [hlen]) (by simp)
      · exact List.ext_getElem (by simp [hlen]) (by simp)
    · cases h
  · rintro ⟨rfl, rfl⟩
    rw [if_pos (by rw [List.length_map, List.length_map]), List.zipWith_map, List.zipWith_self]
    exact congrArg (fun entries => Except.ok (Arguments.mk entries)) (List.map_id' entries)

/-- Each argument is a value with its declared type, in order. -/
theorem Built.values_types_eq (h : Built args values types) :
    args.entries.map (·.value) = values ∧ args.types = types := by
  induction h with
  | empty => exact ⟨rfl, rfl⟩
  | ofValues values =>
    exact ⟨List.map_map.trans (List.map_id'' (fun _ => rfl) values), List.map_map⟩
  | typed h => exact typed_eq_ok_iff.1 h
  | push _ v ih | pushAs _ v ty ih =>
    obtain ⟨rfl, rfl⟩ := ih
    exact ⟨List.map_append, List.map_append⟩

/-! ## Binding -/

/-- A placeholder is not bound if there is no argument of its number, or if the argument's value
    cannot be cloned. -/
theorem bindOne_eq_error_iff {p : Placeholder} {reason : Reason} :
    args.bindOne S p = .error reason ↔
      args.size < p.number ∧ reason = .placeholderOutOfRange p.number args.size ∨
      ∃ v, (args.entries.map (·.value))[p.index]? = some v ∧ (∃ cause, S.clone v = .error cause) ∧
        reason = .argumentNotCloneable p.number := by
  unfold bindOne
  rw [List.getElem?_map]
  cases hgiven : args.entries[p.index]? with
  | none =>
    have hrange : args.size < p.number := by
      have hnot : ¬ p.index < args.size := by
        rw [size, not_lt]
        exact List.getElem?_eq_none_iff.1 hgiven
      rwa [p.index_lt_iff, not_le] at hnot
    simp [hrange, eq_comm]
  | some given =>
    have hrange : ¬ args.size < p.number := by
      obtain ⟨hlt, -⟩ := List.getElem?_eq_some_iff.1 hgiven
      rw [not_lt, ← p.index_lt_iff]
      exact hlt
    cases hcopy : S.clone given.value <;> simp [hrange, hcopy, eq_comm]

theorem exists_bindOne_iff {p : Placeholder} :
    (∃ a, args.bindOne S p = .ok a) ↔ p.number ≤ args.size ∧
      ∀ v, (args.entries.map (·.value))[p.index]? = some v → ∃ copy, S.clone v = .ok copy := by
  constructor
  · rintro ⟨a, ha⟩
    obtain ⟨given, hgiven, hcopy, -⟩ := bindOne_eq_ok_iff.1 ha
    obtain ⟨hlt, -⟩ := List.getElem?_eq_some_iff.1 hgiven
    refine ⟨p.index_lt_iff.1 hlt, fun v hv => ⟨a.value, ?_⟩⟩
    rw [List.getElem?_map, hgiven, Option.map_some, Option.some.injEq] at hv
    rwa [← hv]
  · rintro ⟨hrange, hclone⟩
    have hlt : p.index < args.entries.length := p.index_lt_iff.2 hrange
    have hgiven := List.getElem?_eq_getElem hlt
    obtain ⟨copy, hcopy⟩ := hclone args.entries[p.index].value (by rw [List.getElem?_map, hgiven]; rfl)
    exact ⟨⟨copy, args.entries[p.index].ty⟩, bindOne_eq_ok_iff.2 ⟨_, hgiven, hcopy, rfl⟩⟩

/-- A call is bound if each of its placeholders is. -/
theorem exists_bind_iff {params : List Placeholder} :
    (∃ bound, args.bind S params = .ok bound) ↔ ∀ p ∈ params, ∃ a, args.bindOne S p = .ok a := by
  rw [← Except.exists_mapM_ok_iff]
  simp [bind]

/-- A call that is bound gets the clones and the declared types of its arguments, each in the
    position of the placeholder that refers to it. -/
theorem of_bind_eq_ok {params : List Placeholder} {bound : BoundCall}
    (h : args.bind S params = .ok bound) :
    bound.types.length = params.length ∧ bound.values.length = params.length ∧
      ∀ (i : Nat) (p : Placeholder), params[i]? = some p → ∃ v copy ty,
        (args.entries.map (·.value))[p.index]? = some v ∧ args.types[p.index]? = some ty ∧
        S.clone v = .ok copy ∧ bound.values[i]? = some copy ∧ bound.types[i]? = some ty := by
  obtain ⟨entries⟩ := bound
  have hall : params.mapM (args.bindOne S) = .ok entries := by simpa [bind] using h
  obtain ⟨hlen, hentries⟩ := Except.mapM_eq_ok_iff_getElem?.1 hall
  refine ⟨by rw [BoundCall.types, List.length_map, hlen],
    by rw [BoundCall.values, List.length_map, hlen], fun i p hp => ?_⟩
  obtain ⟨a, ha⟩ := exists_getElem?_of_length_eq hlen hp
  obtain ⟨given, hgiven, hcopy, hty⟩ := bindOne_eq_ok_iff.1 (hentries i p a hp ha)
  refine ⟨given.value, a.value, given.ty, ?_, ?_, hcopy, ?_, ?_⟩
  · rw [List.getElem?_map, hgiven, Option.map_some]
  · rw [Arguments.types, List.getElem?_map, hgiven, Option.map_some]
  · rw [BoundCall.values, List.getElem?_map, ha, Option.map_some]
  · rw [BoundCall.types, List.getElem?_map, ha, Option.map_some, hty]

/-- A call that is not bound fails at its first placeholder that is not. -/
theorem bind_eq_error_iff {params : List Placeholder} {reason : Reason} :
    args.bind S params = .error reason ↔ ∃ before p after, params = before ++ p :: after ∧
      (∃ bound, args.bind S before = .ok bound) ∧ args.bindOne S p = .error reason := by
  simp only [exists_bind_iff, ← Except.exists_mapM_ok_iff]
  rw [bind, Except.map_eq_error_iff, Except.mapM_eq_error_iff]
  constructor
  · rintro ⟨before, p, after, results, hsplit, hbefore, hp⟩
    exact ⟨before, p, after, hsplit, ⟨results, hbefore⟩, hp⟩
  · rintro ⟨before, p, after, hsplit, ⟨results, hbefore⟩, hp⟩
    exact ⟨before, p, after, results, hsplit, hbefore, hp⟩

/-- Arguments that were built in any way have one declared type for each value. A call is bound if
    and only if the numbers of all its placeholders are within the number of arguments and all
    values referred to can be cloned. It gets, at each position, the declared type and a clone of
    the argument of the placeholder's number, counted from one. If it is not bound, the reason is
    that of the leftmost placeholder that stands in the way: its number is too large, and the
    number of arguments is reported with it, or its argument cannot be cloned. -/
theorem binding_is_positional (h : Built args values types) (params : List Placeholder) :
    values.length = types.length ∧
    ((∃ bound, args.bind S params = .ok bound) ↔ ∀ p ∈ params, p.number ≤ values.length ∧
      ∀ v, values[p.number - 1]? = some v → ∃ copy, S.clone v = .ok copy) ∧
    (∀ bound, args.bind S params = .ok bound →
      bound.types.length = params.length ∧ bound.values.length = params.length ∧
      ∀ (i : Nat) (p : Placeholder), params[i]? = some p → ∃ v copy ty,
        values[p.number - 1]? = some v ∧ types[p.number - 1]? = some ty ∧
        S.clone v = .ok copy ∧ bound.values[i]? = some copy ∧ bound.types[i]? = some ty) ∧
    ∀ reason, args.bind S params = .error reason ↔ ∃ before p after,
      params = before ++ p :: after ∧ (∃ bound, args.bind S before = .ok bound) ∧
      (values.length < p.number ∧ reason = .placeholderOutOfRange p.number values.length ∨
        ∃ v, values[p.number - 1]? = some v ∧ (∃ cause, S.clone v = .error cause) ∧
          reason = .argumentNotCloneable p.number) := by
  obtain ⟨rfl, rfl⟩ := h.values_types_eq
  have hsize : (args.entries.map (·.value)).length = args.size := by rw [size, List.length_map]
  rw [hsize]
  refine ⟨by rw [Arguments.types, List.length_map, size], ?_, fun bound => of_bind_eq_ok,
    fun reason => ?_⟩
  · simp only [exists_bind_iff, exists_bindOne_iff]
    rfl
  · simp only [bind_eq_error_iff, bindOne_eq_error_iff]
    rfl

end Arguments

/-! ## Two words and a handle -/

namespace Sample

theorem third_lt_wordSize : 3 < wordSize := by decide

theorem fourth_lt_wordSize : 4 < wordSize := by decide

/-- The placeholder of a third argument. -/
def third : Placeholder := ⟨3, Nat.succ_pos 2, third_lt_wordSize⟩

/-- The placeholder of a fourth argument. -/
def fourth : Placeholder := ⟨4, Nat.succ_pos 3, fourth_lt_wordSize⟩

/-- Two words, one of them declared as an optional one, and a handle, which cannot be cloned. -/
def handedOver : Arguments :=
  ((Arguments.ofValues [.string "heel"]).pushAs (.string "sit") (.optional .string)).push
    Gallery.handle.initial

/-- Words are bound in the order of the placeholders, and as often as they are referred to. A
    handle and an argument that is not there are reported, whichever comes first. -/
theorem handle_is_not_bound :
    (handedOver.bind gallery [second, first, second] =
      .ok ⟨[⟨.string "sit", .optional .string⟩, ⟨.string "heel", .string⟩,
        ⟨.string "sit", .optional .string⟩]⟩) ∧
    (∀ p ∈ [second, first, second], p.number ≤ 3) ∧
    handedOver.bind gallery [first, third, fourth] = .error (.argumentNotCloneable 3) ∧
    handedOver.bind gallery [first, fourth, third] = .error (.placeholderOutOfRange 4 3) := by
  have hbuilt : handedOver.Built
      [.string "heel", .string "sit", Gallery.handle.initial]
      [.string, .optional .string, Gallery.handle.objects] :=
    .push (.pushAs (.ofValues [.string "heel"]) (.string "sit") (.optional .string))
      Gallery.handle.initial
  have hbound : handedOver.bind gallery [second, first, second] =
      .ok ⟨[⟨.string "sit", .optional .string⟩, ⟨.string "heel", .string⟩,
        ⟨.string "sit", .optional .string⟩]⟩ := by rfl
  have hfirst : ∃ bound, handedOver.bind gallery [first] = .ok bound := ⟨_, rfl⟩
  obtain ⟨-, hiff, -⟩ := Arguments.binding_is_positional (S := gallery) hbuilt
    [second, first, second]
  obtain ⟨-, -, -, hhandle⟩ := Arguments.binding_is_positional (S := gallery) hbuilt
    [first, third, fourth]
  obtain ⟨-, -, -, hmissing⟩ := Arguments.binding_is_positional (S := gallery) hbuilt
    [first, fourth, third]
  refine ⟨hbound, fun p hp => (hiff.1 ⟨_, hbound⟩ p hp).1, ?_, ?_⟩
  · exact (hhandle _).2 ⟨[first], third, [fourth], rfl, hfirst,
      .inr ⟨Gallery.handle.initial, rfl, ⟨_, rfl⟩, rfl⟩⟩
  · exact (hmissing _).2 ⟨[first], fourth, [third], rfl, hfirst, .inl ⟨by decide, rfl⟩⟩

end Sample

end ObjectPath
