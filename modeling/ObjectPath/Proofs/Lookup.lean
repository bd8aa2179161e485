import ObjectPath.Lookup
import Mathlib.Data.List.Basic

/-!
# Lookup along base classes

The ancestors of a class are the class itself and then the ancestors of its base class. So a
member is found on the class, no levels up, or else where it is found from the base class on,
one level further up.

Results:
* `ancestors_of_base`: the ancestors of a class that has a base class.
* `findUp_of_own`, `findUp_of_base`: a search that ends on the class, and one that goes on.
* `of_findUp`: what was found belongs to the ancestor as many levels up as it says.
* `of_resolveMethod`: methods are found on ancestors, by their name, whatever the lookup.
-/

namespace ObjectPath

/-- The same member, found from one level further down. -/
def Found.fromBelow {α : Type} (found : Found α) : Found α := { found with depth := found.depth + 1 }

namespace Schema

variable {S : Schema}

/-! ## Ancestors -/

theorem rank_base_lt_rank {ty : Ty} {b : Member} (hbase : (S.classOf ty).base = some b) :
    S.rank b.ty < S.rank ty := by
  cases ty with
  | object id => exact S.rank_base_lt hbase
  | _ => cases hbase

theorem lineage_of_no_base {ty : Ty} (hbase : (S.classOf ty).base = none) (n : Nat) :
    S.lineage n ty = [ty] := by
  cases n <;> simp [lineage, hbase]

theorem lineage_of_base {ty : Ty} {b : Member} (hbase : (S.classOf ty).base = some b) (n : Nat) :
    S.lineage (n + 1) ty = ty :: S.lineage n b.ty := by
  rw [lineage, hbase]

/-- Every bound on the number of levels that is not below the rank gives all ancestors. The
    induction is on one of the bounds; a base has a smaller rank, so both bounds still suffice
    for it. -/
theorem lineage_eq_of_rank_le {ty : Ty} {m n : Nat} (hm : S.rank ty ≤ m) (hn : S.rank ty ≤ n) :
    S.lineage m ty = S.lineage n ty := by
  induction m generalizing ty n with
  | zero =>
    cases hbase : (S.classOf ty).base with
    | none => rw [lineage_of_no_base hbase, lineage_of_no_base hbase]
    | some b =>
      have hlt := rank_base_lt_rank hbase
      omega
  | succ m ih =>
    cases hbase : (S.classOf ty).base with
    | none => rw [lineage_of_no_base hbase, lineage_of_no_base hbase]
    | some b =>
      have hlt := rank_base_lt_rank hbase
      obtain ⟨k, rfl⟩ : ∃ k, n = k + 1 := ⟨n - 1, by omega⟩
      have hrest : S.lineage m b.ty = S.lineage k b.ty := ih (by omega) (by omega)
      rw [lineage_of_base hbase, lineage_of_base hbase, hrest]

theorem ancestors_of_base {ty : Ty} {b : Member} (hbase : (S.classOf ty).base = some b) :
    S.ancestors ty = ty :: S.ancestors b.ty := by
  have hlt := rank_base_lt_rank hbase
  obtain ⟨k, hk⟩ : ∃ k, S.rank ty = k + 1 := ⟨S.rank ty - 1, by omega⟩
  have hrest : S.lineage k b.ty = S.ancestors b.ty :=
    lineage_eq_of_rank_le (by omega) (Nat.le_refl _)
  rw [ancestors, hk, lineage_of_base hbase, hrest]

theorem ancestors_of_builtin {ty : Ty} (h : ∀ id, ty ≠ .object id) : S.ancestors ty = [ty] := by
  cases ty with
  | object id => exact absurd rfl (h id)
  | _ => rfl

theorem exists_ancestors_eq_cons (S : Schema) (ty : Ty) :
    ∃ bases, S.ancestors ty = ty :: bases := by
  cases hbase : (S.classOf ty).base with
  | none => exact ⟨[], lineage_of_no_base hbase _⟩
  | some b => exact ⟨_, ancestors_of_base hbase⟩

theorem self_mem_ancestors (S : Schema) (ty : Ty) : ty ∈ S.ancestors ty := by
  obtain ⟨bases, hbases⟩ := S.exists_ancestors_eq_cons ty
  rw [hbases]
  exact List.mem_cons_self

/-! ## Searches -/

section

variable {α : Type} {ty : Ty} {search : Class → Option α}

theorem of_findUp {found : Found α} (h : S.findUp ty search = some found) :
    (S.ancestors ty)[found.depth]? = some found.owner ∧
      search (S.classOf found.owner) = some found.member := by
  obtain ⟨entry, hentry, hfound⟩ := List.exists_of_findSome?_eq_some h
  obtain ⟨member, hmember, rfl⟩ := Option.map_eq_some_iff.1 hfound
  exact ⟨List.mem_zipIdx_iff_getElem?.1 hentry, hmember⟩

theorem findUp_of_own {member : α} (hown : search (S.classOf ty) = some member) :
    S.findUp ty search = some ⟨ty, 0, member⟩ := by
  obtain ⟨bases, hbases⟩ := S.exists_ancestors_eq_cons ty
  rw [findUp, hbases]
  simp [List.zipIdx_cons, hown]

/-- What the class does not have is searched from its base on. -/
theorem findUp_of_base {b : Member} (hbase : (S.classOf ty).base = some b)
    (hown : search (S.classOf ty) = none) :
    S.findUp ty search = (S.findUp b.ty search).map Found.fromBelow := by
  unfold findUp
  rw [ancestors_of_base hbase, List.zipIdx_cons, List.findSome?_cons]
  simp only [hown, Option.map_none]
  rw [List.zipIdx_succ, List.findSome?_map, List.map_findSome?]
  congr 1
  funext entry
  simp [Found.fromBelow, Function.comp_def]

/-- What the class does not have may be found on one of its base classes. -/
theorem findUp_cases_of_not_own (hown : search (S.classOf ty) = none) :
    S.findUp ty search = none ∨
      ∃ owner ∈ (S.ancestors ty).tail, (search (S.classOf owner)).isSome := by
  cases hfound : S.findUp ty search with
  | none => exact .inl rfl
  | some found =>
    obtain ⟨howner, hmember⟩ := of_findUp hfound
    obtain ⟨bases, hbases⟩ := S.exists_ancestors_eq_cons ty
    rw [hbases] at howner ⊢
    cases hdepth : found.depth with
    | zero =>
      rw [hdepth, List.getElem?_cons_zero, Option.some.injEq] at howner
      rw [← howner, hown] at hmember
      cases hmember
    | succ depth =>
      rw [hdepth, List.getElem?_cons_succ] at howner
      exact .inr ⟨found.owner, List.mem_of_getElem? howner, by rw [hmember]; rfl⟩

end

/-! ## Methods -/

theorem of_method? {c : Class} {name : String} {types : List Ty} {m : Method}
    (h : c.method? name types = some m) : m ∈ c.methods ∧ m.accepts types = true := by
  rw [Class.method?] at h
  have haccepts := List.find?_some h
  exact ⟨(List.mem_filter.1 (List.mem_of_find?_eq_some h)).1, haccepts⟩

theorem mem_methodsNamed {c : Class} {name : String} {m : Method} :
    m ∈ c.methodsNamed name ↔ m ∈ c.methods ∧ m.name = name := by
  simp [Class.methodsNamed]

/-- A method that was found has the name, and is declared as many levels up as it says. -/
theorem of_resolveMethod {lookup : Lookup} {ty : Ty} {name : String} {types : List Ty}
    {found : Found Method} (h : S.resolveMethod lookup ty name types = some found) :
    (S.ancestors ty)[found.depth]? = some found.owner ∧
      found.member ∈ (S.classOf found.owner).methodsNamed name := by
  have hnearest {c : Class} {m : Method} (hm : c.method? name types = some m) :
      m ∈ c.methodsNamed name := List.mem_of_find?_eq_some hm
  cases lookup with
  | typeAware =>
    rw [resolveMethod] at h
    obtain ⟨howner, hmethod⟩ := of_findUp h
    exact ⟨howner, hnearest hmethod⟩
  | nameOnly =>
    rw [resolveMethod] at h
    cases hown : (S.classOf ty).method? name types with
    | some m =>
      simp only [hown, Option.some.injEq] at h
      obtain ⟨bases, hbases⟩ := S.exists_ancestors_eq_cons ty
      rw [← h, hbases]
      exact ⟨rfl, hnearest hown⟩
    | none =>
      simp only [hown] at h
      obtain ⟨entry, hentry, hfound⟩ := List.exists_of_findSome?_eq_some h
      obtain ⟨m, hm, rfl⟩ := Option.map_eq_some_iff.1 hfound
      have howner := List.mem_zipIdx_iff_getElem?.1 (List.mem_of_mem_drop hentry)
      exact ⟨howner, List.mem_of_head? hm⟩

end Schema

end ObjectPath
