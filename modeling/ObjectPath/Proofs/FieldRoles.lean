import ObjectPath.Proofs.ClassRules
import ObjectPath.Proofs.Cloning

/-!
# Roles of fields

The entries of a field say what it is for: marked for the base, it embeds the base object, marked
as hidden, scripts do not see it, and without a mark it is declared. In an item that declares a
class no field has two marks and only one is the base, so the fields fall into three groups.

All that the class says and does about fields goes by these groups. What scripts are told, and how
they read by name and by position, is about the declared fields in the order of the item. The
object above is the base field. A clone has clones of the declared fields and of the base, and fresh
initial values in the hidden fields.

Results:
* `of_planFields`, `ClassItem.fields_of_plan`: the fields of an accepted item.
* `ClassPlan.slotsOf_declare`: the slots of a role are the fields marked for it.
* `ClassPlan.groupsFields`: the three groups are all fields, each of them once.
* `Schema.exists_fieldAt?_iff`, `Schema.exists_base?_iff`: which fields are found, and which one is
  the object above.
* `Schema.showsByRole`, `Schema.clonesByRole`: what scripts find in an object, and what is cloned.
* `ClassItem.fields_go_by_roles`: all of this for an item that declares a class.
-/

namespace ObjectPath

/-! ## Groups of fields -/

namespace FieldItem

variable {f : FieldItem} {role : Role}

/-- The field is marked for the role. -/
def IsFor (f : FieldItem) : Role → Prop
  | .declared => ¬ f.Carries "extends" ∧ ¬ f.Carries "ignore"
  | .base => f.Carries "extends"
  | .ignored => f.Carries "ignore"

instance (f : FieldItem) : (role : Role) → Decidable (f.IsFor role)
  | .declared => inferInstanceAs (Decidable (¬ f.Carries "extends" ∧ ¬ f.Carries "ignore"))
  | .base => inferInstanceAs (Decidable (f.Carries "extends"))
  | .ignored => inferInstanceAs (Decidable (f.Carries "ignore"))

/-- What scripts are told about the field. -/
def member (tyOf : SourceType → Ty) (f : FieldItem) : Member := ⟨plainName f.name, tyOf f.type⟩

/-- The slot of the field. -/
def slot (tyOf : SourceType → Ty) (initial : SourceType → Value) (f : FieldItem) : Slot :=
  ⟨plainName f.name, tyOf f.type, f.markedRole, initial f.type⟩

theorem markedRole_eq_iff (h : ¬ (f.Carries "extends" ∧ f.Carries "ignore")) :
    f.markedRole = role ↔ f.IsFor role := by
  unfold markedRole
  by_cases hbase : f.Carries "extends"
  · have hshown : ¬ f.Carries "ignore" := fun hignored => h ⟨hbase, hignored⟩
    cases role <;> simp [hbase, hshown, IsFor]
  · by_cases hignored : f.Carries "ignore"
    · cases role <;> simp [hbase, hignored, IsFor]
    · cases role <;> simp [hbase, hignored, IsFor]

theorem existsUnique_role (h : ¬ (f.Carries "extends" ∧ f.Carries "ignore")) :
    ∃! role, f.IsFor role :=
  ⟨f.markedRole, (markedRole_eq_iff h).1 rfl, fun _ hrole => ((markedRole_eq_iff h).2 hrole).symm⟩

end FieldItem

/-- The fields marked for the role, in order. -/
def fieldsFor (role : Role) (fields : List FieldItem) : List FieldItem :=
  fields.filter (·.IsFor role)

/-- The fields marked for the role, each with its position among all fields. -/
def placedFor (role : Role) (fields : List FieldItem) : List (FieldItem × Nat) :=
  fields.zipIdx.filter (·.1.IsFor role)

variable {fields : List FieldItem} {role : Role}

theorem map_fst_placedFor (role : Role) (fields : List FieldItem) :
    (placedFor role fields).map Prod.fst = fieldsFor role fields := by
  unfold placedFor fieldsFor
  conv_rhs => rw [← List.zipIdx_map_fst 0 fields, List.filter_map]
  rfl

theorem mem_placedFor {entry : FieldItem × Nat} :
    entry ∈ placedFor role fields ↔ fields[entry.2]? = some entry.1 ∧ entry.1.IsFor role := by
  simp [placedFor, List.mem_zipIdx_iff_getElem?]

theorem filter_eq_fieldsFor (h : ∀ f ∈ fields, ¬ (f.Carries "extends" ∧ f.Carries "ignore"))
    (role : Role) : fields.filter (fun f => f.markedRole = role) = fieldsFor role fields := by
  refine List.filter_congr fun f hf => ?_
  exact decide_eq_decide.2 (FieldItem.markedRole_eq_iff (h f hf))

theorem filter_eq_placedFor (h : ∀ f ∈ fields, ¬ (f.Carries "extends" ∧ f.Carries "ignore"))
    (role : Role) :
    fields.zipIdx.filter (fun entry => entry.1.markedRole = role) = placedFor role fields := by
  refine List.filter_congr fun entry hentry => ?_
  have hmem : entry.1 ∈ fields := List.mem_of_getElem? (List.mem_zipIdx_iff_getElem?.1 hentry)
  exact decide_eq_decide.2 (FieldItem.markedRole_eq_iff (h _ hmem))

/-- What is told apart by roles is put together again from the three groups. -/
theorem perm_groups {α : Type} (roleOf : α → Role) (items : List α) :
    (items.filter (fun a => roleOf a = .declared) ++ items.filter (fun a => roleOf a = .base) ++
      items.filter (fun a => roleOf a = .ignored)).Perm items := by
  induction items with
  | nil => exact .nil
  | cons a rest ih =>
    cases hrole : roleOf a with
    | declared => simpa [hrole] using ih
    | base =>
      simp only [List.filter_cons, hrole, List.append_assoc] at ih ⊢
      exact List.perm_middle.trans (ih.cons a)
    | ignored =>
      simp only [List.filter_cons, hrole] at ih ⊢
      exact List.perm_middle.trans (ih.cons a)

theorem length_le_one_of_pairwise {α : Type} {p : α → Prop} {items : List α}
    (hall : ∀ a ∈ items, p a) (h : items.Pairwise fun a b => ¬ (p a ∧ p b)) : items.length ≤ 1 := by
  match items, hall, h with
  | [], _, _ => exact Nat.zero_le 1
  | [a], _, _ => exact Nat.le_refl 1
  | a :: b :: rest, hall, h =>
    obtain ⟨ha, hrest⟩ := List.forall_mem_cons.1 hall
    have hb := hrest b List.mem_cons_self
    exact absurd ⟨ha, hb⟩ ((List.pairwise_cons.1 h).1 b List.mem_cons_self)

theorem length_fieldsFor_base
    (h : fields.Pairwise fun f g => ¬ (f.Carries "extends" ∧ g.Carries "extends")) :
    (fieldsFor .base fields).length ≤ 1 := by
  refine length_le_one_of_pairwise (p := fun f => f.Carries "extends") (fun f hf => ?_)
    (h.filter _)
  exact of_decide_eq_true (List.mem_filter.1 hf).2

/-- If no two fields are marked for the base, a field that is marked for it is the first one. -/
theorem head?_placedFor_base
    (h : fields.Pairwise fun f g => ¬ (f.Carries "extends" ∧ g.Carries "extends"))
    {entry : FieldItem × Nat} (hentry : entry ∈ placedFor .base fields) :
    (placedFor .base fields).head? = some entry := by
  have hlength : (placedFor .base fields).length ≤ 1 := by
    rw [← List.length_map Prod.fst, map_fst_placedFor]
    exact length_fieldsFor_base h
  match hgroup : placedFor .base fields, hentry, hlength with
  | [only], hentry, _ => rw [List.mem_singleton.1 hentry, List.head?_singleton]

/-! ## The fields of an accepted item -/

/-- Fields are accepted one after the other, and each is told whether a base was seen. -/
theorem planFields_cons_eq_ok_iff {hasBase : Bool} {f : FieldItem} {planned : List PlannedField} :
    planFields hasBase (f :: fields) = .ok planned ↔ ∃ field others, f.plan = .ok field ∧
      ¬ (field.role = .base ∧ hasBase = true) ∧
      planFields (hasBase || field.role = .base) fields = .ok others ∧ planned = field :: others := by
  rw [planFields]
  cases hf : f.plan with
  | error e =>
    refine iff_of_false (fun h => ?_) ?_
    · cases h
    · rintro ⟨_, _, ⟨⟩, -⟩
  | ok field =>
    show (if _ then _ else _) = _ ↔ _
    by_cases htwo : field.role = .base ∧ hasBase = true
    · rw [if_pos htwo]
      refine iff_of_false (fun h => ?_) ?_
      · cases h
      · rintro ⟨_, _, ⟨⟩, hone, -⟩
        exact hone htwo
    · rw [if_neg htwo]
      show Except.map _ (planFields _ _) = _ ↔ _
      rw [Except.map_eq_ok_iff]
      constructor
      · rintro ⟨others, hothers, rfl⟩
        exact ⟨field, others, rfl, htwo, hothers, rfl⟩
      · rintro ⟨_, others, ⟨⟩, -, hothers, rfl⟩
        exact ⟨others, hothers, rfl⟩

/-- Accepted fields have the roles they are marked for. None has two marks, and at most one is the
    base, counting one in front of them. -/
theorem of_planFields {hasBase : Bool} {planned : List PlannedField}
    (h : planFields hasBase fields = .ok planned) :
    planned = fields.map FieldItem.planned ∧
    (∀ f ∈ fields, ¬ (f.Carries "extends" ∧ f.Carries "ignore")) ∧
    (hasBase = true → ∀ f ∈ fields, ¬ f.Carries "extends") ∧
    fields.Pairwise fun f g => ¬ (f.Carries "extends" ∧ g.Carries "extends") := by
  induction fields generalizing hasBase planned with
  | nil =>
    cases h
    simp
  | cons f rest ih =>
    obtain ⟨field, others, hf, hfirst, hrest, rfl⟩ := planFields_cons_eq_ok_iff.1 h
    obtain ⟨rfl, hsingle⟩ := FieldItem.of_plan hf
    obtain ⟨rfl, hrestSingle, hbehind, hpairwise⟩ := ih hrest
    rw [FieldItem.role_planned_iff] at hfirst
    -- behind the base, as behind a field that had one in front, no field is the base
    have hsecond (hbase : hasBase = true ∨ f.Carries "extends") :
        ∀ g ∈ rest, ¬ g.Carries "extends" := by
      apply hbehind
      rw [Bool.or_eq_true, decide_eq_true_eq, FieldItem.role_planned_iff]
      exact hbase
    refine ⟨rfl, List.forall_mem_cons.2 ⟨hsingle, hrestSingle⟩, fun hseen => ?_,
      List.pairwise_cons.2 ⟨fun g hg hboth => ?_, hpairwise⟩⟩
    · exact List.forall_mem_cons.2 ⟨fun hbase => hfirst ⟨hbase, hseen⟩, hsecond (.inl hseen)⟩
    · exact hsecond (.inr hboth.1) g hg hboth.2

namespace ClassItem

variable {item : ClassItem} {p : ClassPlan}

/-- An item that declares a class is a record, and its fields are planned as they are marked. -/
theorem fields_of_plan (h : item.plan = .ok p) : ∃ fields, item.shape = .record fields ∧
    p.fields = fields.map FieldItem.planned ∧
    (∀ f ∈ fields, ¬ (f.Carries "extends" ∧ f.Carries "ignore")) ∧
    fields.Pairwise fun f g => ¬ (f.Carries "extends" ∧ g.Carries "extends") := by
  rw [plan_of_entries (options_of_plan h)] at h
  split at h
  · cases h
  · split at h
    · next fields hshape =>
      obtain ⟨planned, hplanned, hp⟩ := Except.map_eq_ok_iff.1 h
      obtain ⟨rfl, hsingle, -, hbase⟩ := of_planFields hplanned
      exact ⟨fields, hshape, congrArg ClassPlan.fields hp.symm, hsingle, hbase⟩
    · cases h

end ClassItem

/-- The fields fall into three groups, and these are the groups of the plan. -/
structure ClassPlan.GroupsFields (p : ClassPlan) (fields : List FieldItem) : Prop where
  oneRole : ∀ f ∈ fields, ∃! role, f.IsFor role
  oneBase : (fieldsFor .base fields).length ≤ 1
  complete : (placedFor .declared fields ++ placedFor .base fields ++
    placedFor .ignored fields).Perm fields.zipIdx
  declared : p.declared = (fieldsFor .declared fields).map FieldItem.planned
  base : p.base? = (fieldsFor .base fields).head?.map FieldItem.planned
  ignored : p.ignored = (fieldsFor .ignored fields).map FieldItem.planned

section Plans

variable {p : ClassPlan} (hfields : p.fields = fields.map FieldItem.planned)
  (hsingle : ∀ f ∈ fields, ¬ (f.Carries "extends" ∧ f.Carries "ignore"))

include hfields hsingle

theorem ClassPlan.fieldsOf_eq (role : Role) :
    p.fieldsOf role = (fieldsFor role fields).map FieldItem.planned := by
  rw [fieldsOf, hfields, List.filter_map, ← filter_eq_fieldsFor hsingle]
  rfl

theorem ClassPlan.groupsFields
    (hbase : fields.Pairwise fun f g => ¬ (f.Carries "extends" ∧ g.Carries "extends")) :
    p.GroupsFields fields := by
  refine ⟨fun f hf => FieldItem.existsUnique_role (hsingle f hf), length_fieldsFor_base hbase, ?_,
    fieldsOf_eq hfields hsingle _, ?_, fieldsOf_eq hfields hsingle _⟩
  · rw [← filter_eq_placedFor hsingle, ← filter_eq_placedFor hsingle,
      ← filter_eq_placedFor hsingle]
    exact perm_groups (fun entry : FieldItem × Nat => entry.1.markedRole) fields.zipIdx
  · rw [base?, fieldsOf_eq hfields hsingle, List.head?_map]

variable {home : String} {tyOf : SourceType → Ty} {initial : SourceType → Value}
  {table : List Method}

omit hsingle in
theorem ClassPlan.slots_declare :
    (p.declare home tyOf initial table).slots = fields.map (FieldItem.slot tyOf initial) := by
  show p.fields.map _ = _
  rw [hfields, List.map_map]
  rfl

/-- The slots of a role are those of the fields marked for it. -/
theorem ClassPlan.slotsOf_declare (role : Role) :
    (p.declare home tyOf initial table).slotsOf role =
      (placedFor role fields).map fun entry => (entry.1.slot tyOf initial, entry.2) := by
  rw [ClassDecl.slotsOf, slots_declare hfields, List.zipIdx_map, List.filter_map,
    ← filter_eq_placedFor hsingle]
  rfl

end Plans

/-! ## What scripts find -/

/-- The part of an object that is stored for a field. -/
def partFor? (slots : List Value) (entry : FieldItem × Nat) : Option Spot :=
  slots[entry.2]?.map fun part => ⟨[.slot entry.2], part⟩

namespace Schema

variable {S : Schema} {id : ClassId} {tyOf : SourceType → Ty} {initial : SourceType → Value}
  {slots : List Value}

/-- The class is told to have the declared fields, in their order and under their plain names, and
    the base. In an object of the class the same fields are found at their positions and under their
    names, where the first one of several counts, and the base field is the base object. What is
    written where one of them was found stays in its slot. -/
structure ShowsByRole (S : Schema) (id : ClassId) (tyOf : SourceType → Ty)
    (fields : List FieldItem) (slots : List Value) : Prop where
  members : (S.classOf (.object id)).fields = (fieldsFor .declared fields).map (·.member tyOf)
  baseMember : (S.classOf (.object id)).base = (fieldsFor .base fields).head?.map (·.member tyOf)
  names : S.fieldNames (.object id slots) =
    (fieldsFor .declared fields).map fun f => plainName f.name
  byIndex : ∀ index, S.fieldAt? (.object id slots) index =
    (placedFor .declared fields)[index]?.bind (partFor? slots)
  byName : ∀ name, S.field? (.object id slots) name =
    S.fieldAt? (.object id slots) ((S.fieldNames (.object id slots)).idxOf name)
  above : S.base? (.object id slots) = (placedFor .base fields).head?.bind (partFor? slots)
  onlyDeclared : ∀ (i : Nat) (f : FieldItem), fields[i]? = some f →
    ((∃ index part, S.fieldAt? (.object id slots) index = some ⟨[.slot i], part⟩) ↔
      f.IsFor .declared)
  onlyBase : ∀ (i : Nat) (f : FieldItem), fields[i]? = some f →
    ((∃ part, S.base? (.object id slots) = some ⟨[.slot i], part⟩) ↔ f.IsFor .base)
  written : ∀ (spot : Spot) (new : Value), (S.base? (.object id slots) = some spot ∨
      ∃ index, S.fieldAt? (.object id slots) index = some spot) →
    ∃ i, spot.place = [.slot i] ∧
      (Value.object id slots).put spot.place new = .object id (slots.set i new)

/-- A clone of an object has clones of the declared fields and of the base, made in this order, and
    initial values in the hidden fields. -/
structure ClonesByRole (S : Schema) (id : ClassId) (initial : SourceType → Value)
    (fields : List FieldItem) (slots : List Value) : Prop where
  order : (S.decl id).clonedSlots.map Prod.snd =
    (placedFor .declared fields ++ placedFor .base fields).map Prod.snd
  each : ∀ w, S.clone (.object id slots) = .ok w ↔ ∃ copies, w = .object id copies ∧
    copies.length = fields.length ∧ ∀ (i : Nat) (f : FieldItem) (part copy : Value),
      fields[i]? = some f → slots[i]? = some part → copies[i]? = some copy →
      (f.IsFor .ignored → copy = initial f.type) ∧ (¬ f.IsFor .ignored → S.clone part = .ok copy)

theorem partFor?_eq_some_iff {entry : FieldItem × Nat} {i : Nat} {part : Value} :
    partFor? slots entry = some ⟨[.slot i], part⟩ ↔ entry.2 = i ∧ slots[i]? = some part := by
  unfold partFor?
  rw [Option.map_eq_some_iff]
  constructor
  · rintro ⟨_, hpart, ⟨⟩⟩
    exact ⟨rfl, hpart⟩
  · rintro ⟨rfl, hpart⟩
    exact ⟨part, hpart, rfl⟩

theorem put_partFor? {entry : FieldItem × Nat} {spot : Spot} (h : partFor? slots entry = some spot)
    (new : Value) : ∃ i, spot.place = [.slot i] ∧
      (Value.object id slots).put spot.place new = .object id (slots.set i new) := by
  obtain ⟨part, hpart, rfl⟩ := Option.map_eq_some_iff.1 h
  refine ⟨entry.2, rfl, ?_⟩
  have hchild : (Value.object id slots).child? (.slot entry.2) = some part := hpart
  show (Value.object id slots).put [.slot entry.2] new = _
  rw [Value.put, hchild]
  rfl

/-- What is stored at the position of a field is found through entries for the field only. -/
theorem isFor_of_partFor? {entry : FieldItem × Nat} {f : FieldItem} {i : Nat} {part : Value}
    (hf : fields[i]? = some f) (hentry : entry ∈ placedFor role fields)
    (h : partFor? slots entry = some ⟨[.slot i], part⟩) : f.IsFor role := by
  obtain ⟨rfl, -⟩ := partFor?_eq_some_iff.1 h
  obtain ⟨hfield, hrole⟩ := mem_placedFor.1 hentry
  rw [hf, Option.some.injEq] at hfield
  rwa [hfield]

section Declared

variable {p : ClassPlan} {home : String} {table : List Method}
  (hfields : p.fields = fields.map FieldItem.planned)
  (hsingle : ∀ f ∈ fields, ¬ (f.Carries "extends" ∧ f.Carries "ignore"))
  (hbase : fields.Pairwise fun f g => ¬ (f.Carries "extends" ∧ g.Carries "extends"))
  (hS : S.decl id = p.declare home tyOf initial table)
  (hslots : slots.length = fields.length)

include hS

theorem structOf?_declare : S.structOf? (.object id slots) = some (S.decl id) := by
  rw [structOf?, hS]
  rfl

theorem fieldNames_declare : S.fieldNames (.object id slots) =
    (S.decl id).declaredSlots.map fun entry => entry.1.name := by
  rw [fieldNames, structOf?_declare hS]
  rfl

/-- Of the fields of one name, the first one is found. -/
theorem field?_declare (name : String) : S.field? (.object id slots) name =
    S.fieldAt? (.object id slots) ((S.fieldNames (.object id slots)).idxOf name) := by
  rw [field?, fieldAt?, structOf?_declare hS, fieldNames_declare hS, List.idxOf, List.findIdx_map]
  show ((S.decl id).declaredSlots.find? _).bind _ = _
  rw [List.find?_eq_getElem?_findIdx]
  rfl

include hfields hsingle

theorem slotsOf_eq (role : Role) : (S.decl id).slotsOf role =
    (placedFor role fields).map fun entry => (entry.1.slot tyOf initial, entry.2) := by
  rw [hS, ClassPlan.slotsOf_declare hfields hsingle]

theorem baseSlot?_eq : (S.decl id).baseSlot? =
    (placedFor .base fields).head?.map fun entry => (entry.1.slot tyOf initial, entry.2) := by
  rw [ClassDecl.baseSlot?, slotsOf_eq hfields hsingle hS, List.head?_map]

theorem members_eq :
    (S.classOf (.object id)).fields = (fieldsFor .declared fields).map (·.member tyOf) := by
  have htold : (S.classOf (.object id)).fields =
      (S.decl id).declaredSlots.map ClassDecl.memberOf := by
    show (S.decl id).fields = _
    rw [hS]
    rfl
  rw [htold, ClassDecl.declaredSlots, slotsOf_eq hfields hsingle hS, ← map_fst_placedFor,
    List.map_map, List.map_map]
  rfl

theorem baseMember_eq :
    (S.classOf (.object id)).base = (fieldsFor .base fields).head?.map (·.member tyOf) := by
  have htold : (S.classOf (.object id)).base = (S.decl id).baseSlot?.map ClassDecl.memberOf := by
    show (S.decl id).base = _
    rw [hS]
    rfl
  rw [htold, baseSlot?_eq hfields hsingle hS, ← map_fst_placedFor, List.head?_map, Option.map_map,
    Option.map_map]
  rfl

theorem fieldNames_eq : S.fieldNames (.object id slots) =
    (fieldsFor .declared fields).map fun f => plainName f.name := by
  rw [fieldNames_declare hS, ClassDecl.declaredSlots, slotsOf_eq hfields hsingle hS,
    ← map_fst_placedFor, List.map_map, List.map_map]
  rfl

theorem fieldAt?_eq (index : Nat) : S.fieldAt? (.object id slots) index =
    (placedFor .declared fields)[index]?.bind (partFor? slots) := by
  rw [fieldAt?, structOf?_declare hS]
  show ((S.decl id).declaredSlots[index]?).bind _ = _
  rw [ClassDecl.declaredSlots, slotsOf_eq hfields hsingle hS, List.getElem?_map, Option.bind_map]
  rfl

theorem base?_eq : S.base? (.object id slots) =
    (placedFor .base fields).head?.bind (partFor? slots) := by
  rw [base?, structOf?_declare hS]
  show (S.decl id).baseSlot?.bind _ = _
  rw [baseSlot?_eq hfields hsingle hS, Option.bind_map]
  rfl

include hslots

/-- A field is found by position if and only if it is declared. -/
theorem exists_fieldAt?_iff {i : Nat} {f : FieldItem} (hf : fields[i]? = some f) :
    (∃ index part, S.fieldAt? (.object id slots) index = some ⟨[.slot i], part⟩) ↔
      f.IsFor .declared := by
  simp only [fieldAt?_eq hfields hsingle hS, Option.bind_eq_some_iff]
  constructor
  · rintro ⟨index, part, entry, hentry, hpart⟩
    exact isFor_of_partFor? hf (List.mem_of_getElem? hentry) hpart
  · intro hrole
    have hmem : (f, i) ∈ placedFor .declared fields := mem_placedFor.2 ⟨hf, hrole⟩
    obtain ⟨index, hindex⟩ := List.mem_iff_getElem?.1 hmem
    obtain ⟨part, hpart⟩ := exists_getElem?_of_length_eq hslots.symm hf
    exact ⟨index, part, (f, i), hindex, partFor?_eq_some_iff.2 ⟨rfl, hpart⟩⟩

include hbase

/-- A field is the object above if and only if it is marked for the base. -/
theorem exists_base?_iff {i : Nat} {f : FieldItem} (hf : fields[i]? = some f) :
    (∃ part, S.base? (.object id slots) = some ⟨[.slot i], part⟩) ↔ f.IsFor .base := by
  simp only [base?_eq hfields hsingle hS, Option.bind_eq_some_iff]
  constructor
  · rintro ⟨part, entry, hentry, hpart⟩
    exact isFor_of_partFor? hf (List.mem_of_mem_head? hentry) hpart
  · intro hrole
    have hmem : (f, i) ∈ placedFor .base fields := mem_placedFor.2 ⟨hf, hrole⟩
    obtain ⟨part, hpart⟩ := exists_getElem?_of_length_eq hslots.symm hf
    exact ⟨part, (f, i), head?_placedFor_base hbase hmem, partFor?_eq_some_iff.2 ⟨rfl, hpart⟩⟩

theorem showsByRole : S.ShowsByRole id tyOf fields slots where
  members := members_eq hfields hsingle hS
  baseMember := baseMember_eq hfields hsingle hS
  names := fieldNames_eq hfields hsingle hS
  byIndex := fieldAt?_eq hfields hsingle hS
  byName := field?_declare hS
  above := base?_eq hfields hsingle hS
  onlyDeclared _ _ hf := exists_fieldAt?_iff hfields hsingle hS hslots hf
  onlyBase _ _ hf := exists_base?_iff hfields hsingle hbase hS hslots hf
  written := by
    rintro spot new (hfound | ⟨index, hfound⟩)
    · rw [base?_eq hfields hsingle hS, Option.bind_eq_some_iff] at hfound
      obtain ⟨entry, -, hpart⟩ := hfound
      exact put_partFor? hpart new
    · rw [fieldAt?_eq hfields hsingle hS, Option.bind_eq_some_iff] at hfound
      obtain ⟨entry, -, hpart⟩ := hfound
      exact put_partFor? hpart new

omit hbase in
theorem clonesByRole (hclone : p.options.clone = false) :
    S.ClonesByRole id initial fields slots := by
  have hcloning : (S.decl id).cloning = .slotwise := by
    rw [hS]
    show (if p.options.clone then _ else _) = _
    rw [hclone]
    rfl
  have hdeclSlots : (S.decl id).slots = fields.map (FieldItem.slot tyOf initial) := by
    rw [hS, ClassPlan.slots_declare hfields]
  have hcount : (S.decl id).slots.length = fields.length := by
    rw [hdeclSlots, List.length_map]
  have hresults : (slots.map S.clone).length = (S.decl id).slots.length := by
    rw [List.length_map, hslots, hcount]
  have hignored : ∀ f ∈ fields, (f.slot tyOf initial).role = .ignored ↔ f.IsFor .ignored :=
    fun f hf => FieldItem.markedRole_eq_iff (hsingle f hf)
  refine ⟨?order, fun w => ?each⟩
  case order =>
    rw [ClassDecl.clonedSlots, slotsOf_eq hfields hsingle hS, slotsOf_eq hfields hsingle hS,
      ← List.map_append, List.map_map]
    rfl
  case each =>
    rw [clone_slotwise hcloning, Except.map_eq_ok_iff]
    simp only [ClassDecl.cloneSlots_eq_ok_iff hresults, hcount]
    constructor
    · rintro ⟨copies, ⟨hlength, hfrom⟩, rfl⟩
      refine ⟨copies, rfl, hlength, fun i f part copy hf hpart hcopy => ?_⟩
      have hslot : (S.decl id).slots[i]? = some (f.slot tyOf initial) := by
        rw [hdeclSlots, List.getElem?_map, hf, Option.map_some]
      have hrole := hignored f (List.mem_of_getElem? hf)
      rcases hfrom i _ copy hslot hcopy with ⟨hfresh, hinitial⟩ | ⟨hcloned, hresult⟩
      · exact ⟨fun _ => hinitial, fun hshown => absurd (hrole.1 hfresh) hshown⟩
      · rw [List.getElem?_map, hpart, Option.map_some, Option.some.injEq] at hresult
        exact ⟨fun hhidden => absurd (hrole.2 hhidden) hcloned, fun _ => hresult⟩
    · rintro ⟨copies, rfl, hlength, hcopies⟩
      refine ⟨copies, ⟨hlength, fun i slot copy hslot hcopy => ?_⟩, rfl⟩
      rw [hdeclSlots, List.getElem?_map, Option.map_eq_some_iff] at hslot
      obtain ⟨f, hf, rfl⟩ := hslot
      obtain ⟨part, hpart⟩ := exists_getElem?_of_length_eq hslots.symm hf
      obtain ⟨hfresh, hcloned⟩ := hcopies i f part copy hf hpart hcopy
      have hrole := hignored f (List.mem_of_getElem? hf)
      by_cases hhidden : f.IsFor .ignored
      · exact .inl ⟨hrole.2 hhidden, hfresh hhidden⟩
      · refine .inr ⟨mt hrole.1 hhidden, ?_⟩
        rw [List.getElem?_map, hpart, Option.map_some, hcloned hhidden]

end Declared

end Schema

/-- In an item that declares a class every field is declared, the base, or hidden, and is only one
    of these; there is at most one base. Scripts are told about the declared fields, in the order of
    the item and under their plain names, and find these and no others in objects of the class, by
    name and by position. The base is told apart from them, and is found only as the object above.
    A class that leaves cloning to its slots clones the declared fields and the base, and starts
    afresh with the hidden fields. -/
theorem ClassItem.fields_go_by_roles {item : ClassItem} {p : ClassPlan} (hplan : item.plan = .ok p)
    {S : Schema} {home : String} {tyOf : SourceType → Ty} {initial : SourceType → Value}
    {table : List Method} {id : ClassId}
    (hS : S.decl id = p.declare home tyOf initial table) :
    ∃ fields, item.shape = .record fields ∧ p.GroupsFields fields ∧
      ∀ slots, slots.length = fields.length → S.ShowsByRole id tyOf fields slots ∧
        (p.options.clone = false → S.ClonesByRole id initial fields slots) := by
  obtain ⟨fields, hshape, hfields, hsingle, hbase⟩ := fields_of_plan hplan
  refine ⟨fields, hshape, ClassPlan.groupsFields hfields hsingle hbase, fun slots hslots => ?_⟩
  exact ⟨Schema.showsByRole hfields hsingle hbase hS hslots,
    Schema.clonesByRole hfields hsingle hS hslots⟩

namespace Sample

/-- The types that the fields of a parcel are written with. -/
def typeOf (type : SourceType) : Ty :=
  match type.text with
  | "Item" => .object ⟨"post::Item", ""⟩
  | "bool" => .bool
  | "u32" => .int .u32
  | _ => .string

/-- What a hidden field starts with. -/
def startOf (type : SourceType) : Value :=
  match type.text with
  | "bool" => .bool false
  | _ => .unit

/-- The base of a parcel. -/
def postItem : ClassDecl := .of ⟨"post::Item", ""⟩ [⟨"stamp", .int .u8, .declared, .int .u8 0⟩]

/-- The class that a parcel declares. -/
def parcelPlan : ClassPlan :=
  { name := "Parcel",
    options := ⟨some "post::Parcel", true, false, false, some ⟨"::refpath::reflect"⟩⟩,
    fields :=
      [⟨"item", ⟨"Item"⟩, .base⟩, ⟨"type", ⟨"String"⟩, .declared⟩, ⟨"seen", ⟨"bool"⟩, .ignored⟩,
        ⟨"weight", ⟨"u32"⟩, .declared⟩] }

/-- Items and parcels. -/
def post : Schema := ⟨[postItem, parcelPlan.declare "post" typeOf startOf []], by decide +kernel⟩

/-- A parcel somebody has seen. -/
def seenParcel : List Value :=
  [.object postItem.id [.int .u8 3], .string "gift", .bool true, .int .u32 7]

/-- A parcel shows its type and its weight, of four fields. The item is above them, and a clone was
    not seen yet. -/
theorem parcel_shows_type_and_weight :
    parcel.plan = .ok parcelPlan ∧
    post.decl ⟨"post::Parcel", ""⟩ = parcelPlan.declare "post" typeOf startOf [] ∧
    post.fieldNames (.object ⟨"post::Parcel", ""⟩ seenParcel) = ["type", "weight"] ∧
    post.field? (.object ⟨"post::Parcel", ""⟩ seenParcel) "weight" =
      some ⟨[.slot 3], .int .u32 7⟩ ∧
    post.base? (.object ⟨"post::Parcel", ""⟩ seenParcel) =
      some ⟨[.slot 0], .object postItem.id [.int .u8 3]⟩ ∧
    post.clone (.object ⟨"post::Parcel", ""⟩ seenParcel) = .ok (.object ⟨"post::Parcel", ""⟩
      [.object postItem.id [.int .u8 3], .string "gift", .bool false, .int .u32 7]) := by
  have hplan : parcel.plan = .ok parcelPlan := by decide +kernel
  have hdecl : post.decl ⟨"post::Parcel", ""⟩ = parcelPlan.declare "post" typeOf startOf [] := rfl
  obtain ⟨fields, hshape, -, hslots⟩ := ClassItem.fields_go_by_roles hplan hdecl
  cases hshape
  obtain ⟨hshows, hclones⟩ := hslots seenParcel rfl
  refine ⟨hplan, hdecl, ?_, ?_, ?_, ?_⟩
  · rw [hshows.names]
    decide
  · rw [hshows.byName, hshows.names, hshows.byIndex]
    rfl
  · rw [hshows.above]
    rfl
  · refine ((hclones rfl).each _).2 ⟨_, rfl, rfl, fun i f part copy hf hpart hcopy => ?_⟩
    match i, hf, hpart, hcopy with
    | 0, rfl, rfl, rfl => exact ⟨fun hhidden => absurd hhidden (by decide), fun _ => rfl⟩
    | 1, rfl, rfl, rfl => exact ⟨fun hhidden => absurd hhidden (by decide), fun _ => rfl⟩
    | 2, rfl, rfl, rfl => exact ⟨fun _ => rfl, fun hshown => absurd (by decide) hshown⟩
    | 3, rfl, rfl, rfl => exact ⟨fun hhidden => absurd hhidden (by decide), fun _ => rfl⟩

end Sample

end ObjectPath
