import ObjectPath.Gallery
import ObjectPath.Registry
import Mathlib.Data.Set.Card
import Mathlib.Logic.Relation

/-!
# Registration reaches what classes refer to

Registering a type marks it and then registers, one after the other, the types that its class
depends on; what is marked already is passed over. On classes that refer to each other in circles
the inner registrations return early, while the classes around them have only been marked. What was
marked last is complete first, and when the outermost registration returns, every class that it has
marked has had all its references registered.

Results:
* `ClassGraph.Refers`, `ClassGraph.Reaches`: references between types, and chains of them.
* `Registry.registers_close`, `Registry.Registers.unique`: the recursion ends, with the registry
  that is computed.
* `Registry.Registers.closed`, `Registry.Registers.sound`: what a registration adds.
* `Registry.registers_performAll`: a history of operations is one registration.
* `Registration.registry_is_exact`: after any history, the registered types are the reachable ones.
-/

namespace ObjectPath

/-! ## References -/

namespace ClassGraph

variable {G : ClassGraph}

/-- A type refers to the type of its base class, of a declared field, of a parameter of a method,
    or of the payload of its values. -/
inductive Refers (G : ClassGraph) (ty : Ty) : Ty → Prop
  | base {b : Member} (h : (G.classOf ty).base = some b) : Refers G ty b.ty
  | field {f : Member} (h : f ∈ (G.classOf ty).fields) : Refers G ty f.ty
  | param {m : Method} {p : Ty} (hm : m ∈ (G.classOf ty).methods) (hp : p ∈ m.params) :
      Refers G ty p
  | payload {inner : Ty} (h : ty.inner? = some inner) : Refers G ty inner

/-- A chain of references leads from the one type to the other. -/
def Reaches (G : ClassGraph) : Ty → Ty → Prop := Relation.ReflTransGen G.Refers

theorem mem_dependencies_iff {ty other : Ty} :
    other ∈ (G.classOf ty).dependencies ↔ G.Refers ty other := by
  unfold Class.dependencies
  rw [G.ty_classOf, List.mem_append, List.mem_append, List.mem_append]
  constructor
  · rintro (((h | h) | h) | h)
    · obtain ⟨b, hb, rfl⟩ := List.mem_map.1 h
      exact .base (Option.mem_toList.1 hb)
    · obtain ⟨f, hf, rfl⟩ := List.mem_map.1 h
      exact .field hf
    · obtain ⟨m, hm, hp⟩ := List.mem_flatMap.1 h
      exact .param hm hp
    · exact .payload (Option.mem_toList.1 h)
  · rintro (h | h | ⟨hm, hp⟩ | h)
    · exact .inl (.inl (.inl (List.mem_map_of_mem (Option.mem_toList.2 h))))
    · exact .inl (.inl (.inr (List.mem_map_of_mem h)))
    · exact .inl (.inr (List.mem_flatMap.2 ⟨_, hm, hp⟩))
    · exact .inr (Option.mem_toList.2 h)

end ClassGraph

/-! ## The recursion -/

namespace Registry

variable {G : ClassGraph} {waiting front back : List Ty} {r mid after : Registry}

/-- The types that wait are registered in order. A known type is passed over; a new one is marked,
    and then the types that it depends on are registered, before the next one waiting. -/
inductive Registers (G : ClassGraph) : List Ty → Registry → Registry → Prop
  | done (r : Registry) : Registers G [] r r
  | known {ty : Ty} {rest : List Ty} {r after : Registry} (hknown : r.contains ty = true)
      (hrest : Registers G rest r after) : Registers G (ty :: rest) r after
  | fresh {ty : Ty} {rest : List Ty} {r mid after : Registry} (hnew : r.contains ty = false)
      (hinner : Registers G (G.classOf ty).dependencies (r.insert ty) mid)
      (hrest : Registers G rest mid after) : Registers G (ty :: rest) r after

theorem Registers.append (hfront : Registers G front r mid) (hback : Registers G back mid after) :
    Registers G (front ++ back) r after := by
  induction hfront with
  | done r => exact hback
  | known hknown _ ih => exact .known hknown (ih hback)
  | fresh hnew hinner _ _ ih => exact .fresh hnew hinner (ih hback)

theorem Registers.split (h : Registers G (front ++ back) r after) :
    ∃ mid, Registers G front r mid ∧ Registers G back mid after := by
  induction front generalizing r with
  | nil => exact ⟨r, .done r, h⟩
  | cons ty front ih =>
    cases h with
    | known hknown hrest =>
      obtain ⟨mid, hfront, hback⟩ := ih hrest
      exact ⟨mid, .known hknown hfront, hback⟩
    | fresh hnew hinner hrest =>
      obtain ⟨mid, hfront, hback⟩ := ih hrest
      exact ⟨mid, .fresh hnew hinner hfront, hback⟩

/-- A registration can end in one way only. -/
theorem Registers.unique {other : Registry} (h : Registers G waiting r after)
    (hother : Registers G waiting r other) : after = other := by
  induction h generalizing other with
  | done r =>
    cases hother
    rfl
  | known hknown _ ih =>
    cases hother with
    | known _ hrest => exact ih hrest
    | fresh hnew => simp [hknown] at hnew
  | fresh hnew _ _ ihinner ihrest =>
    cases hother with
    | known hknown => simp [hnew] at hknown
    | fresh _ hinner hrest =>
      obtain rfl := ihinner hinner
      exact ihrest hrest

/-- Keeping the types that wait in one list comes to the same as the recursion. -/
theorem registers_close (G : ClassGraph) (root : Ty) (r : Registry) (waiting : List Ty)
    (h : ∀ ty ∈ waiting, ty ∈ G.around root) :
    Registers G waiting r (close G root r waiting h) := by
  fun_induction close G root r waiting h with
  | case1 r => exact .done r
  | case2 r ty waiting _ _ _ hknown _ ih => exact .known hknown ih
  | case3 r ty waiting _ _ _ hknown _ ih =>
    obtain ⟨mid, hinner, hrest⟩ := ih.split
    exact .fresh (Bool.eq_false_iff.2 hknown) hinner hrest

theorem registers_register (G : ClassGraph) (r : Registry) (ty : Ty) :
    Registers G [ty] r (r.register G ty) :=
  registers_close G ty r [ty] _

theorem registers_foldl (G : ClassGraph) (types : List Ty) (r : Registry) :
    Registers G types r (types.foldl (register G) r) := by
  induction types generalizing r with
  | nil => exact .done r
  | cons ty types ih => exact (registers_register G r ty).append (ih (r.register G ty))

/-! ## What a registration adds -/

theorem contains_iff {ty : Ty} : r.contains ty = true ↔ ty ∈ r.types := by
  rw [contains, List.contains_iff_mem]

theorem Registers.subset (h : Registers G waiting r after) : r.types ⊆ after.types := by
  induction h with
  | done r => exact List.Subset.refl _
  | known _ _ ih => exact ih
  | fresh _ _ _ ihinner ihrest =>
    intro other hother
    exact ihrest (ihinner ((mem_types_insert _ _ _).2 (.inl hother)))

theorem Registers.mem_of_mem_waiting (h : Registers G waiting r after) :
    ∀ ty ∈ waiting, ty ∈ after.types := by
  induction h with
  | done r => simp
  | known hknown hrest ih =>
    exact List.forall_mem_cons.2 ⟨hrest.subset (contains_iff.1 hknown), ih⟩
  | @fresh ty rest r mid after _ hinner hrest _ ih =>
    have hmarked : ty ∈ (r.insert ty).types := (mem_types_insert r ty ty).2 (.inr rfl)
    exact List.forall_mem_cons.2 ⟨hrest.subset (hinner.subset hmarked), ih⟩

/-- When a registration returns, what it has marked has all its references registered, although
    that need not be true of what was marked before and is not complete yet. -/
theorem Registers.closed (h : Registers G waiting r after) :
    ∀ ty ∈ after.types, ty ∈ r.types ∨ ∀ other, G.Refers ty other → other ∈ after.types := by
  induction h with
  | done r => exact fun ty hty => .inl hty
  | known _ _ ih => exact ih
  | @fresh ty rest r mid after _ hinner hrest ihinner ihrest =>
    intro other hother
    rcases ihrest other hother with hmid | hcomplete
    · rcases ihinner other hmid with hmarked | hcomplete
      · rcases (mem_types_insert r ty other).1 hmarked with hold | rfl
        · exact .inl hold
        · -- the type itself: the inner registration was of all that it refers to
          refine .inr fun target htarget => hrest.subset ?_
          exact hinner.mem_of_mem_waiting target (ClassGraph.mem_dependencies_iff.2 htarget)
      · exact .inr fun target htarget => hrest.subset (hcomplete target htarget)
    · exact .inr hcomplete

/-- A registration adds only what references lead to. -/
theorem Registers.sound (h : Registers G waiting r after) :
    ∀ ty ∈ after.types, ty ∈ r.types ∨ ∃ root ∈ waiting, G.Reaches root ty := by
  induction h with
  | done r => exact fun ty hty => .inl hty
  | known _ _ ih =>
    intro ty hty
    refine (ih ty hty).imp_right ?_
    rintro ⟨root, hroot, hreaches⟩
    exact ⟨root, List.mem_cons_of_mem _ hroot, hreaches⟩
  | @fresh ty rest r mid after _ _ _ ihinner ihrest =>
    intro other hother
    rcases ihrest other hother with hmid | ⟨root, hroot, hreaches⟩
    · rcases ihinner other hmid with hmarked | ⟨next, hnext, hreaches⟩
      · rcases (mem_types_insert r ty other).1 hmarked with hold | rfl
        · exact .inl hold
        · exact .inr ⟨other, List.mem_cons_self, .refl⟩
      · have hrefers : G.Refers ty next := ClassGraph.mem_dependencies_iff.1 hnext
        exact .inr ⟨ty, List.mem_cons_self, .head hrefers hreaches⟩
    · exact .inr ⟨root, List.mem_cons_of_mem _ hroot, hreaches⟩

/-- What every new type keeps, a registration keeps. -/
theorem Registers.keeps {P : Registry → Prop}
    (hinsert : ∀ r ty, r.contains ty = false → P r → P (r.insert ty))
    (h : Registers G waiting r after) (hr : P r) : P after := by
  induction h with
  | done r => exact hr
  | known _ _ ih => exact ih hr
  | fresh hnew _ _ ihinner ihrest => exact ihrest (ihinner (hinsert _ _ hnew hr))

theorem nodup_insert {ty : Ty} (hr : r.types.Nodup) (hnew : r.contains ty = false) :
    (r.insert ty).types.Nodup := by
  have habsent : ty ∉ r.types := by
    rw [← contains_iff, hnew]
    exact Bool.false_ne_true
  show (r.types ++ [ty]).Nodup
  rw [List.nodup_append_comm]
  exact List.nodup_cons.2 ⟨habsent, hr⟩

theorem Registers.nodup (h : Registers G waiting r after) (hr : r.types.Nodup) :
    after.types.Nodup :=
  h.keeps (fun _ _ hnew hnodup => nodup_insert hnodup hnew) hr

/-- What is registered from nothing is exactly what the types that were registered reach. -/
theorem Registers.mem_iff_of_empty (h : Registers G waiting .empty after) (ty : Ty) :
    ty ∈ after.types ↔ ∃ root ∈ waiting, G.Reaches root ty := by
  constructor
  · intro hty
    exact (h.sound ty hty).resolve_left List.not_mem_nil
  · rintro ⟨root, hroot, hreaches⟩
    induction hreaches with
    | refl => exact h.mem_of_mem_waiting root hroot
    | tail _ hrefers ih => exact (h.closed _ ih).resolve_left List.not_mem_nil _ hrefers

theorem Registers.encard_eq_of_empty (h : Registers G waiting .empty after) :
    Set.encard {ty | ∃ root ∈ waiting, G.Reaches root ty} = after.size := by
  have hnodup : after.types.Nodup := h.nodup List.nodup_nil
  have hset : {ty | ∃ root ∈ waiting, G.Reaches root ty} = (after.types.toFinset : Set Ty) := by
    ext ty
    rw [Finset.mem_coe, List.mem_toFinset, h.mem_iff_of_empty]
    rfl
  rw [hset, Set.encard_coe_eq_coe_finsetCard, List.toFinset_card_of_nodup hnodup, size]

end Registry

/-! ## Histories -/

/-- An operation that registers classes. -/
inductive Registration where
  | register (ty : Ty)
  | registerIfNew (ty : Ty)
  | automatic

namespace Registration

/-- The types that the operation names. -/
def roots (G : ClassGraph) : Registration → List Ty
  | register ty | registerIfNew ty => [ty]
  | automatic => G.automatic

/-- The registry after the operation. -/
def perform (G : ClassGraph) (r : Registry) : Registration → Registry
  | register ty => r.register G ty
  | registerIfNew ty => (r.registerIfNew G ty).2
  | automatic => r.autoRegister G

/-- The registry after the operations, from an empty one. -/
def performAll (G : ClassGraph) (history : List Registration) : Registry :=
  history.foldl (perform G) .empty

/-- References lead to the type from one that the operations name. -/
def Covers (G : ClassGraph) (history : List Registration) (ty : Ty) : Prop :=
  ∃ root ∈ history.flatMap (roots G), G.Reaches root ty

end Registration

namespace Registry

variable {G : ClassGraph} {r : Registry}

theorem register_of_contains {ty : Ty} (h : r.contains ty = true) : r.register G ty = r :=
  (registers_register G r ty).unique (.known h (.done r))

theorem registerIfNew_of_contains {ty : Ty} (h : r.contains ty = true) :
    r.registerIfNew G ty = (false, r) := by
  rw [registerIfNew, if_pos h]

theorem registerIfNew_of_new {ty : Ty} (h : r.contains ty = false) :
    r.registerIfNew G ty = (true, r.register G ty) := by
  rw [registerIfNew, if_neg (Bool.eq_false_iff.1 h)]

theorem registers_perform (G : ClassGraph) (r : Registry) (op : Registration) :
    Registers G (op.roots G) r (op.perform G r) := by
  cases op with
  | register ty => exact registers_register G r ty
  | registerIfNew ty =>
    show Registers G [ty] r (r.registerIfNew G ty).2
    cases hknown : r.contains ty with
    | true =>
      rw [registerIfNew_of_contains hknown]
      exact .known hknown (.done r)
    | false =>
      rw [registerIfNew_of_new hknown]
      exact registers_register G r ty
  | automatic => exact registers_foldl G G.automatic r

/-- Operations one after the other are one registration of all the types that they name. -/
theorem registers_performAll (G : ClassGraph) (history : List Registration) :
    Registers G (history.flatMap (·.roots G)) .empty (Registration.performAll G history) := by
  have hfold : ∀ r, Registers G (history.flatMap (·.roots G)) r
      (history.foldl (Registration.perform G) r) := by
    induction history with
    | nil => exact fun r => .done r
    | cons op history ih =>
      intro r
      rw [List.flatMap_cons]
      exact (registers_perform G r op).append (ih (op.perform G r))
  exact hfold .empty

end Registry

namespace Registration

/-- After any history of operations on an empty registry, the registered types are those that
    references lead to from the types that the operations named, each of them once; so every
    reference of a registered type is registered. The next operation ends, in one way only.
    Registering a type says that it is new exactly if no references lead to it from earlier
    operations, and if they do, nothing is changed. -/
theorem registry_is_exact (G : ClassGraph) (history : List Registration) :
    (∀ ty, (performAll G history).contains ty = true ↔ Covers G history ty) ∧
    (∀ ty other, (performAll G history).contains ty = true → G.Refers ty other →
      (performAll G history).contains other = true) ∧
    Set.encard {ty | Covers G history ty} = (performAll G history).size ∧
    (∀ op after, Registry.Registers G (roots G op) (performAll G history) after ↔
      after = perform G (performAll G history) op) ∧
    ∀ ty, (((performAll G history).registerIfNew G ty).1 = true ↔ ¬ Covers G history ty) ∧
      ((performAll G history).contains ty = true →
        (performAll G history).register G ty = performAll G history ∧
          ((performAll G history).registerIfNew G ty).2 = performAll G history) := by
  have hall := Registry.registers_performAll G history
  have hexact (ty : Ty) : (performAll G history).contains ty = true ↔ Covers G history ty := by
    rw [Registry.contains_iff]
    exact hall.mem_iff_of_empty ty
  refine ⟨hexact, ?closed, hall.encard_eq_of_empty, ?ends, fun ty => ⟨?new, ?again⟩⟩
  case closed =>
    intro ty other hty hrefers
    rw [hexact] at hty ⊢
    obtain ⟨root, hroot, hreaches⟩ := hty
    exact ⟨root, hroot, hreaches.tail hrefers⟩
  case ends =>
    intro op after
    have hperform := Registry.registers_perform G (performAll G history) op
    constructor
    · intro h
      exact h.unique hperform
    · rintro rfl
      exact hperform
  case new =>
    rw [← hexact]
    cases hknown : (performAll G history).contains ty with
    | true => simp [Registry.registerIfNew_of_contains hknown]
    | false => simp [Registry.registerIfNew_of_new hknown]
  case again =>
    intro hknown
    rw [Registry.registerIfNew_of_contains hknown]
    exact ⟨Registry.register_of_contains hknown, rfl⟩

/-- A node has a vector of nodes for its children, and vectors of nodes take nodes. Whichever comes
    first brings the other along. -/
theorem nodes_come_with_vectors_of_nodes :
    ((performAll gallery []).registerIfNew gallery Gallery.node.objects).1 = true ∧
    (performAll gallery [.register Gallery.node.objects]).contains (.vector Gallery.node.objects) =
      true ∧
    ((performAll gallery [.registerIfNew (.vector Gallery.node.objects)]).registerIfNew gallery
      Gallery.node.objects).1 = false := by
  obtain ⟨-, -, -, -, hfirst⟩ := registry_is_exact gallery []
  obtain ⟨hnode, -, -, -, -⟩ := registry_is_exact gallery [.register Gallery.node.objects]
  obtain ⟨-, -, -, -, hvector⟩ :=
    registry_is_exact gallery [.registerIfNew (.vector Gallery.node.objects)]
  have hchildren : gallery.graph.Refers Gallery.node.objects (.vector Gallery.node.objects) :=
    .field (f := ⟨"children", .vector Gallery.node.objects⟩) (by decide +kernel)
  have hpush : gallery.graph.Refers (.vector Gallery.node.objects) Gallery.node.objects := by
    rw [← ClassGraph.mem_dependencies_iff]
    decide +kernel
  refine ⟨?_, ?_, ?_⟩
  · refine (hfirst Gallery.node.objects).1.2 ?_
    rintro ⟨root, hroot, -⟩
    cases hroot
  · exact (hnode _).2 ⟨Gallery.node.objects, List.mem_singleton_self _, .single hchildren⟩
  · rw [Bool.eq_false_iff]
    intro hnew
    exact (hvector Gallery.node.objects).1.1 hnew
      ⟨.vector Gallery.node.objects, List.mem_singleton_self _, .single hpush⟩

end Registration

end ObjectPath
