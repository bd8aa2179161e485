import ObjectPath.Invoke
import ObjectPath.Proofs.Typing

/-!
# Conversion as a relation

What a value becomes where a type is wanted, said without the function that computes it: itself
if it has the type, the absent value if it is the null value and the type is optional, and
otherwise, at an optional type, what it becomes at the inner type, made present.

Results:
* `convert?_eq_some_iff`: conversion computes the relation.
* `Converts.fits`: a well-typed value becomes a well-typed value of the wanted type.
* `exists_converts_of_accepts`: what a parameter type accepts can be converted to it.
* `Intake.takeAll_of_accepts`: arguments of accepted types are all taken, converted.
-/

namespace ObjectPath

/-! ## One value -/

/-- The value `v` becomes `w` where the type is wanted. -/
inductive Converts : Ty → Value → Value → Prop
  | same (v : Value) : Converts v.ty v v
  | null (inner : Ty) : Converts (.optional inner) .null (.absent inner)
  | wrap {inner : Ty} {v w : Value} (hv : v ≠ .null) (h : Converts inner v w) :
      Converts (.optional inner) v (.present w)

theorem Value.ty_eq_null_iff {v : Value} : v.ty = .null ↔ v = .null := by
  cases v <;> simp [Value.ty]

/-- Conversion only ever adds layers. -/
theorem Converts.sizeOf_ty_le {ty : Ty} {v w : Value} (h : Converts ty v w) (hv : v ≠ .null) :
    sizeOf v.ty ≤ sizeOf ty := by
  induction h with
  | same v => exact Nat.le_refl _
  | null inner => exact absurd rfl hv
  | wrap _ _ ih =>
    have := ih hv
    simp only [Ty.optional.sizeOf_spec]
    omega

theorem Converts.of_convert? {ty : Ty} {v w : Value} (h : ty.convert? v = some w) :
    Converts ty v w := by
  induction ty generalizing v w with
  | optional inner ih =>
    simp only [Ty.convert?, Value.ty_eq_null_iff] at h
    split at h
    · next hv =>
      cases h
      exact hv ▸ .null inner
    · next hv =>
      split at h
      · next hty =>
        cases h
        exact hty ▸ .same v
      · obtain ⟨u, hu, rfl⟩ := Option.map_eq_some_iff.1 h
        exact .wrap hv (ih hu)
  | _ =>
    simp only [Ty.convert?, Option.ite_none_right_eq_some, Option.some.injEq] at h
    obtain ⟨hty, rfl⟩ := h
    exact hty ▸ .same v

theorem Converts.convert? {ty : Ty} {v w : Value} (h : Converts ty v w) :
    ty.convert? v = some w := by
  induction h with
  | same v => exact Ty.convert?_self
  | null inner => simp [Ty.convert?, Value.ty]
  | @wrap inner v w hv h ih =>
    have hnull : v.ty ≠ .null := fun hty => hv (Value.ty_eq_null_iff.1 hty)
    -- a value of the optional type itself is too large to convert to the inner type
    have hopt : v.ty ≠ .optional inner := by
      intro hty
      have := h.sizeOf_ty_le hv
      rw [hty, Ty.optional.sizeOf_spec] at this
      omega
    simp [Ty.convert?, hnull, hopt, ih]

theorem convert?_eq_some_iff {ty : Ty} {v w : Value} :
    ty.convert? v = some w ↔ Converts ty v w :=
  ⟨.of_convert?, Converts.convert?⟩

theorem Converts.ty_eq {ty : Ty} {v w : Value} (h : Converts ty v w) : w.ty = ty :=
  Ty.ty_of_convert h.convert?

theorem Converts.fits {S : Schema} {ty : Ty} {v w : Value} (h : Converts ty v w)
    (hv : S.WellTyped v) : S.Fits ty w := by
  refine ⟨h.ty_eq, ?_⟩
  induction h with
  | same v => exact hv
  | null inner => trivial
  | wrap _ _ ih => exact ih hv

/-- Looking at types and converting agree: a value of an accepted type can be converted. -/
theorem exists_converts_of_accepts {param : Ty} {v : Value} (h : param.accepts v.ty = true) :
    ∃ w, Converts param v w := by
  rw [Ty.accepts, Bool.or_eq_true, beq_iff_eq] at h
  rcases h with rfl | h
  · exact ⟨v, .same v⟩
  · cases param with
    | optional inner =>
      simp only [Ty.inner?, Bool.or_eq_true, beq_iff_eq] at h
      by_cases hv : v = .null
      · subst hv
        exact ⟨_, .null inner⟩
      · have hinner : v.ty = inner := h.resolve_left fun hn => hv (Value.ty_eq_null_iff.1 hn)
        subst hinner
        exact ⟨_, .wrap hv (.same v)⟩
    | _ => simp [Ty.inner?] at h

/-! ## Argument lists -/

/-- The values become the converted ones, each where the type at its position is wanted. -/
inductive ConvertsAll : List Ty → List Value → List Value → Prop
  | nil : ConvertsAll [] [] []
  | cons {ty : Ty} {v w : Value} {types : List Ty} {values converted : List Value}
      (head : Converts ty v w) (tail : ConvertsAll types values converted) :
      ConvertsAll (ty :: types) (v :: values) (w :: converted)

theorem ConvertsAll.fits {S : Schema} {types : List Ty} {values converted : List Value}
    (h : ConvertsAll types values converted) (hv : ∀ v ∈ values, S.WellTyped v) :
    List.Forall₂ S.Fits types converted := by
  induction h with
  | nil => exact .nil
  | cons head _ ih =>
    obtain ⟨hfirst, hrest⟩ := List.forall_mem_cons.1 hv
    exact .cons (head.fits hfirst) (ih hrest)

theorem Intake.takeAll_of_accepts {types : List Ty} {values : List Value}
    (h : List.Forall₂ (fun ty v => Ty.accepts ty v.ty = true) types values) (member : String)
    (taken : Nat) :
    ∃ converted, ConvertsAll types values converted ∧
      (Intake.mk member taken values).takeAll types = .ok converted := by
  induction h generalizing taken with
  | nil => exact ⟨[], .nil, rfl⟩
  | @cons ty v types values hv _ ih =>
    obtain ⟨w, hw⟩ := exists_converts_of_accepts hv
    obtain ⟨converted, hall, htake⟩ := ih (taken + 1)
    refine ⟨w :: converted, .cons hw hall, ?_⟩
    simp [takeAll, take, hw.convert?, htake, Except.map]

end ObjectPath
