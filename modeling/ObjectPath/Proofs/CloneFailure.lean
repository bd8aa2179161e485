import ObjectPath.Gallery
import ObjectPath.Proofs.Components

/-!
# Values that cannot be cloned

Cloning goes from a value to its parts: to payloads, to items, and to the slots of an object that
scripts see, as long as the class of the object does not copy its objects itself. It fails exactly
if it comes to an object of a class that refuses.

An optional value and a vector pass on the failure of a part. An object reports its own class and
its first slot that fails, where the declared slots come before the base slot.

Results:
* `ClassDecl.cloneSlots_eq_error_iff`: which slot of an object is reported.
* `Schema.exists_clone_error_iff`: a value fails because it refuses or because of a part.
* `Schema.exists_clone_error_iff_reached`: a value fails because of a component that refuses.
* `Schema.clone_fails_at_first_refusal`: when cloning fails, and with which error.
-/

namespace ObjectPath

/-! ## The slots of an object -/

namespace ClassDecl

/-- The slots that cloning goes through: the declared ones and then the base slot, each with its
    position. -/
def clonedSlots (c : ClassDecl) : List (Slot × Nat) := c.slotsOf .declared ++ c.slotsOf .base

theorem mem_clonedSlots {c : ClassDecl} {entry : Slot × Nat} :
    entry ∈ c.clonedSlots ↔ c.slots[entry.2]? = some entry.1 ∧ entry.1.role ≠ .ignored :=
  List.mem_append.trans mem_declared_or_base

/-- The result at a position is a failure. -/
def failsAt (results : List (Except CloneError Value)) (i : Nat) : Bool :=
  results[i]?.any fun r => r.toOption.isNone

theorem failsAt_iff {results : List (Except CloneError Value)} {i : Nat} :
    failsAt results i = true ↔ ∃ cause, results[i]? = some (.error cause) := by
  unfold failsAt
  cases results[i]? with
  | none => simp
  | some r => cases r <;> simp [Except.toOption]

theorem cloneOrder_eq (c : ClassDecl) (results : List (Except CloneError Value)) :
    c.cloneOrder results =
      c.clonedSlots.filterMap fun entry => results[entry.2]?.map (entry.1, ·) := by
  rw [cloneOrder, clonedSlots, List.filterMap_append, filter_zip_role, filter_zip_role]

theorem find?_cloneOrder (c : ClassDecl) (results : List (Except CloneError Value)) :
    (c.cloneOrder results).find? (fun cell => cell.2.toOption.isNone) =
      (c.clonedSlots.find? fun entry => failsAt results entry.2).bind
        fun entry => results[entry.2]?.map (entry.1, ·) := by
  rw [cloneOrder_eq, List.find?_filterMap]
  refine congrArg (Option.bind · _) (congrArg (List.find? · c.clonedSlots) ?_)
  funext entry
  rw [failsAt]
  cases results[entry.2]? <;> rfl

/-- The slots of an object are cloned unless one of them fails, and the first one that fails is
    reported. -/
theorem cloneSlots_eq_error_iff {c : ClassDecl} {results : List (Except CloneError Value)}
    {e : CloneError} :
    c.cloneSlots results = .error e ↔ ∃ before slot i after,
      c.clonedSlots = before ++ (slot, i) :: after ∧
        (∀ entry ∈ before, failsAt results entry.2 = false) ∧ failsAt results i = true ∧
        e = .field c.id.path slot.name := by
  rw [cloneSlots, find?_cloneOrder]
  cases hfind : c.clonedSlots.find? fun entry => failsAt results entry.2 with
  | none =>
    refine iff_of_false (fun h => nomatch h) ?_
    rintro ⟨before, slot, i, after, hsplit, -, hfails, -⟩
    refine List.find?_eq_none.1 hfind (slot, i) ?_ hfails
    rw [hsplit]
    exact List.mem_append_right _ List.mem_cons_self
  | some entry =>
    obtain ⟨hfails, before, after, hsplit, hbefore⟩ := List.find?_eq_some_iff_append.1 hfind
    obtain ⟨cause, hcause⟩ := failsAt_iff.1 hfails
    have hreported : (some entry).bind (fun entry => results[entry.2]?.map (entry.1, ·)) =
        some (entry.1, .error cause) := by
      rw [Option.bind_some, hcause, Option.map_some]
    rw [hreported]
    constructor
    · rintro ⟨⟩
      exact ⟨before, entry.1, entry.2, after, hsplit,
        fun other hother => by simpa using hbefore other hother, hfails, rfl⟩
    · rintro ⟨front, slot, i, back, hfront, hpass, hslot, rfl⟩
      have hfirst : c.clonedSlots.find? (fun entry => failsAt results entry.2) =
          some (slot, i) :=
        List.find?_eq_some_iff_append.2
          ⟨hslot, front, back, hfront, fun other hother => by simp [hpass other hother]⟩
      rw [hfind, Option.some.injEq] at hfirst
      rw [hfirst]

theorem exists_cloneSlots_error_iff {c : ClassDecl} {results : List (Except CloneError Value)} :
    (∃ e, c.cloneSlots results = .error e) ↔ ∃ (i : Nat) (slot : Slot),
      c.slots[i]? = some slot ∧ slot.role ≠ .ignored ∧ failsAt results i = true := by
  simp only [cloneSlots_eq_error_iff]
  constructor
  · rintro ⟨e, before, slot, i, after, hsplit, -, hfails, -⟩
    have hmem : (slot, i) ∈ c.clonedSlots := by
      rw [hsplit]
      exact List.mem_append_right _ List.mem_cons_self
    obtain ⟨hslot, hrole⟩ := mem_clonedSlots.1 hmem
    exact ⟨i, slot, hslot, hrole, hfails⟩
  · rintro ⟨i, slot, hslot, hrole, hfails⟩
    have hmem : (slot, i) ∈ c.clonedSlots := mem_clonedSlots.2 ⟨hslot, hrole⟩
    have hsome : (c.clonedSlots.find? fun entry => failsAt results entry.2).isSome :=
      List.find?_isSome.2 ⟨(slot, i), hmem, hfails⟩
    obtain ⟨first, hfirst⟩ := Option.isSome_iff_exists.1 hsome
    obtain ⟨hfirst, before, after, hsplit, hbefore⟩ := List.find?_eq_some_iff_append.1 hfirst
    exact ⟨_, before, first.1, first.2, after, hsplit,
      fun other hother => by simpa using hbefore other hother, hfirst, rfl⟩

end ClassDecl

namespace Schema

variable {S : Schema} {v : Value}

/-! ## Values and their parts -/

/-- The value is cloned by cloning its parts: it is no object, or an object of a class that leaves
    it to its slots. -/
def ClonesParts (S : Schema) : Value → Prop
  | .object id _ => (S.decl id).cloning = .slotwise
  | _ => True

/-- The value is an object of a class that refuses to have it cloned. -/
def RefusesClone (S : Schema) : Value → Prop
  | .object id _ => (S.decl id).cloning = .refused
  | _ => False

theorem collect_map {ε α β : Type} (f : α → Except ε β) (items : List α) :
    collect (items.map f) = items.mapM f := by
  induction items with
  | nil => rfl
  | cons a rest ih =>
    rw [List.map_cons, List.mapM_cons]
    cases hfirst : f a with
    | error e => rfl
    | ok b =>
      rw [collect, ih]
      cases rest.mapM f <;> rfl

theorem clone_vector (S : Schema) (element : Ty) (items : List Value) :
    S.clone (.vector element items) = (items.mapM S.clone).map (.vector element) := by
  rw [clone, cloneEach_eq_map, collect_map]

theorem clone_slotwise {id : ClassId} (h : (S.decl id).cloning = .slotwise)
    (slots : List Value) :
    S.clone (.object id slots) =
      ((S.decl id).cloneSlots (slots.map S.clone)).map (.object id) := by
  rw [clone, cloneEach_eq_map]
  simp only [h]

theorem clone_native {id : ClassId} {copy : List Value → List Value}
    (h : (S.decl id).cloning = .native copy) (slots : List Value) :
    S.clone (.object id slots) = .ok (.object id (copy slots)) := by
  rw [clone]
  simp only [h]

theorem clone_refused {id : ClassId} (h : (S.decl id).cloning = .refused) (slots : List Value) :
    S.clone (.object id slots) = .error (.unsupported id.path) := by
  rw [clone]
  simp only [h]

theorem failsAt_map_clone {slots : List Value} {i : Nat} :
    ClassDecl.failsAt (slots.map S.clone) i = true ↔
      ∃ part, slots[i]? = some part ∧ ∃ cause, S.clone part = .error cause := by
  rw [ClassDecl.failsAt_iff, List.getElem?_map]
  cases slots[i]? <;> simp

/-- Cloning fails because the value refuses, or because of a part that scripts see. -/
theorem exists_clone_error_iff :
    (∃ e, S.clone v = .error e) ↔ S.RefusesClone v ∨ (S.ClonesParts v ∧
      ∃ (i : Nat) (part : Value), S.Shows v i ∧ v.parts[i]? = some part ∧
        ∃ cause, S.clone part = .error cause) := by
  cases v with
  | present payload =>
    rw [clone]
    simp only [Except.map_eq_error_iff, RefusesClone, ClonesParts, Shows, Value.parts, false_or,
      true_and]
    constructor
    · exact fun hfails => ⟨0, payload, rfl, hfails⟩
    · rintro ⟨i, part, hpart, hfails⟩
      exact List.mem_singleton.1 (List.mem_of_getElem? hpart) ▸ hfails
  | vector element items =>
    rw [clone_vector]
    simp only [Except.map_eq_error_iff, Except.exists_mapM_error_iff, RefusesClone, ClonesParts,
      Shows, Value.parts, false_or, true_and]
    constructor
    · rintro ⟨item, hitem, hfails⟩
      obtain ⟨i, hi⟩ := List.mem_iff_getElem?.1 hitem
      exact ⟨i, item, hi, hfails⟩
    · rintro ⟨i, item, hi, hfails⟩
      exact ⟨item, List.mem_of_getElem? hi, hfails⟩
  | object id slots =>
    cases hcloning : (S.decl id).cloning with
    | slotwise =>
      rw [clone_slotwise hcloning]
      simp only [Except.map_eq_error_iff, ClassDecl.exists_cloneSlots_error_iff,
        failsAt_map_clone, RefusesClone, ClonesParts, hcloning, Shows, Value.parts, reduceCtorEq,
        false_or, true_and]
      constructor
      · rintro ⟨i, slot, hslot, hrole, part, hpart, hfails⟩
        exact ⟨i, part, ⟨slot, hslot, hrole⟩, hpart, hfails⟩
      · rintro ⟨i, part, ⟨slot, hslot, hrole⟩, hpart, hfails⟩
        exact ⟨i, slot, hslot, hrole, part, hpart, hfails⟩
    | native copy => simp [clone_native hcloning, RefusesClone, ClonesParts, hcloning]
    | refused => simp [clone_refused hcloning, RefusesClone, hcloning]
  | _ => simp [clone, RefusesClone, Value.parts]

/-- Cloning fails exactly if it comes to a component that refuses. -/
theorem exists_clone_error_iff_reached :
    (∃ e, S.clone v = .error e) ↔
      ∃ trail component, S.Reached S.ClonesParts v trail component ∧ S.RefusesClone component := by
  constructor
  · intro h
    induction v using Value.inductionOnAllParts with
    | step v ih =>
      rcases exists_clone_error_iff.1 h with hrefuses | ⟨hopen, i, part, hshows, hpart, hfails⟩
      · exact ⟨[], v, .here v, hrefuses⟩
      · obtain ⟨trail, component, hreached, hrefuses⟩ := ih part (List.mem_of_getElem? hpart) hfails
        exact ⟨i :: trail, component, .part hopen hshows hpart hreached, hrefuses⟩
  · rintro ⟨trail, component, hreached, hrefuses⟩
    induction hreached with
    | here v => exact exists_clone_error_iff.2 (.inl hrefuses)
    | part hopen hshows hpart _ ih =>
      exact exists_clone_error_iff.2 (.inr ⟨hopen, _, _, hshows, hpart, ih hrefuses⟩)

/-! ## Which error -/

theorem clone_vector_eq_error_iff {element : Ty} {items : List Value} {e : CloneError} :
    S.clone (.vector element items) = .error e ↔ ∃ before item after,
      items = before ++ item :: after ∧ (∀ other ∈ before, ∃ copy, S.clone other = .ok copy) ∧
        S.clone item = .error e := by
  simp only [clone_vector, Except.map_eq_error_iff, Except.mapM_eq_error_iff,
    ← Except.exists_mapM_ok_iff]
  constructor
  · rintro ⟨before, item, after, results, hsplit, hbefore, hitem⟩
    exact ⟨before, item, after, hsplit, ⟨results, hbefore⟩, hitem⟩
  · rintro ⟨before, item, after, hsplit, ⟨results, hbefore⟩, hitem⟩
    exact ⟨before, item, after, results, hsplit, hbefore, hitem⟩

theorem clone_slotwise_eq_error_iff {id : ClassId} (h : (S.decl id).cloning = .slotwise)
    {slots : List Value} {e : CloneError} :
    S.clone (.object id slots) = .error e ↔ ∃ before slot i after part,
      (S.decl id).clonedSlots = before ++ (slot, i) :: after ∧
        (∀ entry ∈ before, ∀ other, slots[entry.2]? = some other →
          ∃ copy, S.clone other = .ok copy) ∧
        slots[i]? = some part ∧ (∃ cause, S.clone part = .error cause) ∧
        e = .field id.path slot.name := by
  have hpass (i : Nat) : ClassDecl.failsAt (slots.map S.clone) i = false ↔
      ∀ other, slots[i]? = some other → ∃ copy, S.clone other = .ok copy := by
    rw [← Bool.not_eq_true, failsAt_map_clone, not_exists]
    refine forall_congr' fun other => ?_
    rw [not_and, Except.exists_error_iff, not_not]
  rw [clone_slotwise h, Except.map_eq_error_iff, ClassDecl.cloneSlots_eq_error_iff, decl_id]
  simp only [hpass, failsAt_map_clone]
  constructor
  · rintro ⟨before, slot, i, after, hsplit, hbefore, ⟨part, hpart, hfails⟩, he⟩
    exact ⟨before, slot, i, after, part, hsplit, hbefore, hpart, hfails, he⟩
  · rintro ⟨before, slot, i, after, part, hsplit, hbefore, hpart, hfails, he⟩
    exact ⟨before, slot, i, after, hsplit, hbefore, ⟨part, hpart, hfails⟩, he⟩

/-- Cloning fails exactly if it comes, through payloads, items and the slots that scripts see of
    objects that are cloned slot by slot, to an object of a class that refuses. Then an object that
    refuses reports its class. An object cloned slot by slot reports its own class and its first
    slot that fails, where the declared slots come before the base slot, and hides what failed
    inside. An optional value passes on the error of its payload, and a vector that of its first
    item that fails. The value itself is only read. -/
theorem clone_fails_at_first_refusal (S : Schema) :
    (∀ v, (∃ e, S.clone v = .error e) ↔
      ∃ trail component, S.Reached S.ClonesParts v trail component ∧ S.RefusesClone component) ∧
    (∀ id slots, (S.decl id).cloning = .refused →
      S.clone (.object id slots) = .error (.unsupported id.path)) ∧
    (∀ id slots e, (S.decl id).cloning = .slotwise → (S.clone (.object id slots) = .error e ↔
      ∃ before slot i after part, (S.decl id).clonedSlots = before ++ (slot, i) :: after ∧
        (∀ entry ∈ before, ∀ other, slots[entry.2]? = some other →
          ∃ copy, S.clone other = .ok copy) ∧
        slots[i]? = some part ∧ (∃ cause, S.clone part = .error cause) ∧
        e = .field id.path slot.name)) ∧
    (∀ payload e, S.clone (.present payload) = .error e ↔ S.clone payload = .error e) ∧
    ∀ element items e, S.clone (.vector element items) = .error e ↔
      ∃ before item after, items = before ++ item :: after ∧
        (∀ other ∈ before, ∃ copy, S.clone other = .ok copy) ∧ S.clone item = .error e := by
  refine ⟨fun v => exists_clone_error_iff_reached, fun id slots h => clone_refused h slots,
    fun id slots e h => clone_slotwise_eq_error_iff h, fun payload e => ?present,
    fun element items e => clone_vector_eq_error_iff⟩
  case present =>
    rw [clone]
    exact Except.map_eq_error_iff

/-- The slots of a safe are cloned in the order code, vault. The code is a number, and the vault
    holds a handle, which refuses. -/
theorem safe_fails_at_its_vault :
    gallery.clone Gallery.safe.initial = .error (.field "sys::Safe" "vault") := by
  obtain ⟨-, hrefused, hslotwise, -, -⟩ := clone_fails_at_first_refusal gallery
  have hhandle : gallery.clone Gallery.handle.initial = .error (.unsupported "sys::Handle") :=
    hrefused Gallery.handleId _ rfl
  have hvault : gallery.clone Gallery.vault.initial = .error (.field "sys::Vault" "handle") :=
    (hslotwise Gallery.vault.id _ _ rfl).2
      ⟨[(Gallery.vault.slots[0], 0)], Gallery.vault.slots[1], 1, _, _, rfl,
        fun entry hentry other hother => ⟨.string "", by
          obtain rfl := List.mem_singleton.1 hentry
          cases hother
          rfl⟩,
        rfl, ⟨_, hhandle⟩, rfl⟩
  exact (hslotwise Gallery.safe.id _ _ rfl).2
    ⟨[(Gallery.safe.slots[1], 1)], Gallery.safe.slots[0], 0, [], _, rfl,
      fun entry hentry other hother => ⟨.int .u16 0, by
        obtain rfl := List.mem_singleton.1 hentry
        cases hother
        rfl⟩,
      rfl, ⟨_, hvault⟩, rfl⟩

end Schema

end ObjectPath
