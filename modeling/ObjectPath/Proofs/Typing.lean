import ObjectPath.Lookup
import ObjectPath.Proofs.Results

/-!
# Well-typed values

A value is well-typed if every object in it is of a derived class and holds, in each slot, a
value of the type that the class declares for the slot, and if payloads and items have the type
that their container names.

Results:
* `itemsFit_iff`, `slotsFit_iff`: the two list conditions, position by position.
* `WellTyped.of_seeThrough`, `WellTyped.of_field?`, `WellTyped.of_ascend?`: what a script
  reaches inside a well-typed value is well-typed.
* `WellTyped.ascend_lineage`: going up as many levels as a class is found above the class of a
  value arrives at a base object of the class found.
-/

namespace ObjectPath

/-! ## Induction on values -/

/-- A property of values that carries over from payloads, items and slots to what holds them is a
    property of all values. -/
@[elab_as_elim]
theorem Value.inductionOnParts {motive : Value → Prop} (unit : motive .unit)
    (null : motive .null) (bool : ∀ b, motive (.bool b)) (char : ∀ c, motive (.char c))
    (int : ∀ kind n, motive (.int kind n)) (float : ∀ kind bits, motive (.float kind bits))
    (string : ∀ s, motive (.string s)) (absent : ∀ inner, motive (.absent inner))
    (present : ∀ payload, motive payload → motive (.present payload))
    (vector : ∀ element items, (∀ v ∈ items, motive v) → motive (.vector element items))
    (object : ∀ id slots, (∀ v ∈ slots, motive v) → motive (.object id slots)) (v : Value) :
    motive v :=
  @Value.rec motive (fun parts => ∀ v ∈ parts, motive v) unit null bool char int float string
    absent present vector object (by simp) (fun _ _ hv hs => List.forall_mem_cons.2 ⟨hv, hs⟩) v

namespace Schema

/-! ## The judgment -/

mutual

/-- The value is well-typed. -/
def WellTyped (S : Schema) : Value → Prop
  | .present payload => WellTyped S payload
  | .vector element items => ItemsFit S element items
  | .object id slots => (S.decl id).Derived ∧ SlotsFit S (S.decl id).slots slots
  | _ => True

/-- All items are well-typed values of the element type. -/
def ItemsFit (S : Schema) (element : Ty) : List Value → Prop
  | [] => True
  | v :: rest => (v.ty = element ∧ WellTyped S v) ∧ ItemsFit S element rest

/-- There is one well-typed value of the slot's type for each slot. -/
def SlotsFit (S : Schema) : List Slot → List Value → Prop
  | [], [] => True
  | slot :: slots, v :: rest =>
    (v.ty = slot.ty ∧ WellTyped S v) ∧ SlotsFit S slots rest
  | _, _ => False

end

/-- The value is well-typed and of the given type. -/
def Fits (S : Schema) (ty : Ty) (v : Value) : Prop := v.ty = ty ∧ S.WellTyped v

instance (c : ClassDecl) : Decidable c.Derived := by
  unfold ClassDecl.Derived Method.Consistent; infer_instance

mutual

/-- Being well-typed is decidable. -/
def decideWellTyped (S : Schema) : (v : Value) → Decidable (S.WellTyped v)
  | .unit | .null | .bool _ | .char _ | .int _ _ | .float _ _ | .string _ | .absent _ =>
    .isTrue trivial
  | .present payload => decideWellTyped S payload
  | .vector element items => decideItemsFit S element items
  | .object id slots =>
    @instDecidableAnd _ _ inferInstance (decideSlotsFit S (S.decl id).slots slots)

/-- The items of a vector are checked one by one. -/
def decideItemsFit (S : Schema) (element : Ty) :
    (items : List Value) → Decidable (S.ItemsFit element items)
  | [] => .isTrue trivial
  | v :: rest =>
    @instDecidableAnd _ _ (@instDecidableAnd _ _ inferInstance (decideWellTyped S v))
      (decideItemsFit S element rest)

/-- The slots of an object are checked one by one. -/
def decideSlotsFit (S : Schema) :
    (slots : List Slot) → (values : List Value) → Decidable (S.SlotsFit slots values)
  | [], [] => .isTrue trivial
  | _ :: slots, v :: rest =>
    @instDecidableAnd _ _ (@instDecidableAnd _ _ inferInstance (decideWellTyped S v))
      (decideSlotsFit S slots rest)
  | [], _ :: _ => .isFalse id
  | _ :: _, [] => .isFalse id

end

instance (S : Schema) (v : Value) : Decidable (S.WellTyped v) := decideWellTyped S v

instance (S : Schema) (ty : Ty) (v : Value) : Decidable (S.Fits ty v) :=
  inferInstanceAs (Decidable (_ ∧ _))

/-! ## Items and slots -/

variable {S : Schema}

theorem itemsFit_iff {element : Ty} {items : List Value} :
    S.ItemsFit element items ↔ ∀ v ∈ items, S.Fits element v := by
  induction items with
  | nil => simp [ItemsFit]
  | cons v rest ih =>
    rw [List.forall_mem_cons, ← ih]
    rfl

theorem slotsFit_iff {slots : List Slot} {values : List Value} :
    S.SlotsFit slots values ↔ slots.length = values.length ∧
      ∀ (i : Nat) (slot : Slot) (v : Value), slots[i]? = some slot → values[i]? = some v →
        S.Fits slot.ty v := by
  induction slots generalizing values with
  | nil => cases values <;> simp [SlotsFit]
  | cons slot slots ih =>
    cases values with
    | nil => simp [SlotsFit]
    | cons v rest =>
      rw [SlotsFit, ih]
      constructor
      · rintro ⟨hv, hlen, hrest⟩
        refine ⟨by simp [hlen], fun i => ?_⟩
        cases i with
        | zero =>
          rintro _ _ ⟨⟩ ⟨⟩
          exact hv
        | succ i => exact hrest i
      · rintro ⟨hlen, hall⟩
        exact ⟨hall 0 slot v rfl rfl, by simpa using hlen, fun i => hall (i + 1)⟩

theorem mem_slotsOf {c : ClassDecl} {role : Role} {entry : Slot × Nat} :
    entry ∈ c.slotsOf role ↔ c.slots[entry.2]? = some entry.1 ∧ entry.1.role = role := by
  simp [ClassDecl.slotsOf, List.mem_zipIdx_iff_getElem?]

theorem structOf?_eq_some {v : Value} {c : ClassDecl} (h : S.structOf? v = some c) :
    ∃ id slots, v = .object id slots ∧ c = S.decl id := by
  cases v with
  | object id slots =>
    simp only [structOf?] at h
    split at h
    · simp at h
    · exact ⟨id, slots, rfl, (Option.some.inj h).symm⟩
  | _ => simp [structOf?] at h

/-! ## What is reached inside a well-typed value -/

theorem WellTyped.slotSpot {id : ClassId} {slots : List Value}
    (h : S.WellTyped (.object id slots)) {role : Role} {entry : Slot × Nat}
    (he : entry ∈ (S.decl id).slotsOf role) :
    ∃ spot, slotSpot? (.object id slots) entry = some spot ∧ S.Fits entry.1.ty spot.value := by
  obtain ⟨hslot, -⟩ := mem_slotsOf.1 he
  obtain ⟨hlen, hall⟩ := slotsFit_iff.1 h.2
  have hi : entry.2 < slots.length := by
    rw [← hlen]
    exact (List.getElem?_eq_some_iff.1 hslot).1
  have hv : slots[entry.2]? = some slots[entry.2] := List.getElem?_eq_getElem hi
  refine ⟨⟨[.slot entry.2], slots[entry.2]⟩, ?_, hall _ _ _ hslot hv⟩
  simp [slotSpot?, Value.child?, hv]

theorem WellTyped.of_field? {v : Value} {name : String} {spot : Spot} (h : S.WellTyped v)
    (hf : S.field? v name = some spot) : S.WellTyped spot.value := by
  simp only [field?, Option.bind_eq_bind, Option.bind_eq_some_iff] at hf
  obtain ⟨c, hc, entry, hentry, hspot⟩ := hf
  obtain ⟨id, slots, rfl, rfl⟩ := structOf?_eq_some hc
  obtain ⟨spot', hspot', hfits⟩ := h.slotSpot (List.mem_of_find?_eq_some hentry)
  rw [hspot', Option.some.injEq] at hspot
  exact hspot ▸ hfits.2

theorem WellTyped.of_base? {v : Value} {up : Spot} (h : S.WellTyped v)
    (hb : S.base? v = some up) : S.WellTyped up.value := by
  simp only [base?, Option.bind_eq_bind, Option.bind_eq_some_iff] at hb
  obtain ⟨c, hc, entry, hentry, hspot⟩ := hb
  obtain ⟨id, slots, rfl, rfl⟩ := structOf?_eq_some hc
  obtain ⟨spot', hspot', hfits⟩ := h.slotSpot (List.mem_of_mem_head? hentry)
  rw [hspot', Option.some.injEq] at hspot
  exact hspot ▸ hfits.2

/-- A class that has a base class describes values that have a base object of that class. -/
theorem WellTyped.base {v : Value} {b : Member} (h : S.WellTyped v)
    (hb : (S.classOf v.ty).base = some b) :
    ∃ up, S.base? v = some up ∧ S.Fits b.ty up.value := by
  cases v with
  | object id slots =>
    obtain ⟨hopen, -, hbase, -⟩ := h.1
    have hslot : (S.decl id).baseSlot?.map ClassDecl.memberOf = some b := by
      rw [← hbase]
      exact hb
    obtain ⟨entry, hentry, rfl⟩ := Option.map_eq_some_iff.1 hslot
    obtain ⟨up, hup, hfits⟩ := h.slotSpot (List.mem_of_mem_head? hentry)
    refine ⟨up, ?_, hfits⟩
    simp [base?, structOf?, hopen, hentry, hup]
  | _ => simp [Value.ty, classOf] at hb

theorem WellTyped.of_ascend? {v : Value} {depth : Nat} {up : Spot} (h : S.WellTyped v)
    (hup : S.ascend? v depth = some up) : S.WellTyped up.value := by
  induction depth generalizing v up with
  | zero =>
    simp only [ascend?, Option.some.injEq] at hup
    exact hup ▸ h
  | succ depth ih =>
    simp only [ascend?, Option.bind_eq_bind, Option.bind_eq_some_iff, Option.some.injEq] at hup
    obtain ⟨first, hfirst, rest, hrest, rfl⟩ := hup
    show S.WellTyped rest.value
    exact ih (h.of_base? hfirst) hrest

/-- Lookup and access agree on how far a base class is: the base object `depth` levels up is there
    and belongs to the class `depth` levels up. -/
theorem WellTyped.ascend_lineage {v : Value} {n depth : Nat} {owner : Ty} (h : S.WellTyped v)
    (ho : (S.lineage n v.ty)[depth]? = some owner) :
    ∃ up, S.ascend? v depth = some up ∧ S.Fits owner up.value := by
  induction depth generalizing n v with
  | zero =>
    have hty : v.ty = owner := by cases n <;> simpa [lineage] using ho
    exact ⟨.whole v, rfl, hty, h⟩
  | succ depth ih =>
    cases n with
    | zero => simp [lineage] at ho
    | succ n =>
      rw [lineage, List.getElem?_cons_succ] at ho
      cases hb : (S.classOf v.ty).base with
      | none => simp [hb] at ho
      | some b =>
        obtain ⟨first, hfirst, hty, hfits⟩ := h.base hb
        obtain ⟨rest, hrest, hrest'⟩ := ih hfits (by simpa [hb, hty] using ho)
        exact ⟨first.within rest, by simp [ascend?, hfirst, hrest], hrest'⟩

theorem WellTyped.of_seeThrough {v : Value} {here : Spot} (h : S.WellTyped v)
    (hs : v.seeThrough = .ok here) : S.WellTyped here.value := by
  fun_induction Value.seeThrough v generalizing here with
  | case1 => simp at hs
  | case2 payload ih =>
    obtain ⟨inner, hinner, rfl⟩ := Except.map_eq_ok_iff.1 hs
    show S.WellTyped inner.value
    exact ih h hinner
  | case3 v =>
    simp only [Except.ok.injEq] at hs
    exact hs ▸ h

end Schema

end ObjectPath
