import ObjectPath.Gallery
import ObjectPath.Proofs.Conformity
import ObjectPath.Proofs.Transparency

/-!
# Conversion is wrapping in optional layers

Both ways to make a value into a value of a wanted type recurse through the layers of an optional
type and look for the null value in each of them. What comes out has a closed form: the value
inside as many present layers as the wanted type has more than its own, and the outermost absent
value for the null value.

A parameter, however, looks through one layer only. It accepts the null value, and values that
lack no layer or one; a value that lacks two layers can be converted but is not accepted.

Results:
* `converts_iff`: the relation `Converts` in closed form.
* `Schema.takeAs_eq`, `Schema.cloneAs?_eq`: both ways compute that relation, one of them on a
  clone.
* `Schema.conversion_wraps_in_layers`: when they succeed, and with what.
* `Schema.accepts_iff_takeAs`: what a parameter accepts, compared with what can be converted.
-/

namespace ObjectPath

/-! ## Layers around a type -/

/-- The type inside the given number of optional layers. -/
def Ty.layered : Nat → Ty → Ty
  | 0, ty => ty
  | k + 1, ty => .optional (layered k ty)

theorem Ty.sizeOf_layered (k : Nat) (ty : Ty) : sizeOf (ty.layered k) = k + sizeOf ty := by
  induction k with
  | zero => rw [layered, Nat.zero_add]
  | succ k ih =>
    rw [layered, Ty.optional.sizeOf_spec, ih]
    omega

/-- The number of layers around a type can be read off. -/
theorem Ty.layered_inj {j k : Nat} {ty : Ty} (h : ty.layered j = ty.layered k) : j = k := by
  have := congrArg sizeOf h
  simp only [sizeOf_layered] at this
  omega

/-! ## The relation in closed form -/

/-- A value that is not null gets any number of layers; the null value keeps to itself. -/
theorem Converts.layered {v : Value} {n : Nat} (h : v = .null → n = 0) :
    Converts (v.ty.layered n) v (v.layered n) := by
  induction n with
  | zero => exact .same v
  | succ n ih =>
    have hv : v ≠ .null := fun hnull => nomatch h hnull
    exact .wrap hv (ih fun hnull => absurd hnull hv)

theorem converts_iff {ty : Ty} {v w : Value} :
    Converts ty v w ↔
      (∃ n, (v = .null → n = 0) ∧ ty = v.ty.layered n ∧ w = v.layered n) ∨
        (v = .null ∧ ∃ inner, ty = .optional inner ∧ w = .absent inner) := by
  constructor
  · intro h
    induction h with
    | same v => exact .inl ⟨0, fun _ => rfl, rfl, rfl⟩
    | null inner => exact .inr ⟨rfl, inner, rfl, rfl⟩
    | @wrap inner v w hv h ih =>
      obtain ⟨n, -, rfl, rfl⟩ | ⟨hnull, -⟩ := ih
      · exact .inl ⟨n + 1, fun hnull => absurd hnull hv, rfl, rfl⟩
      · exact absurd hnull hv
  · rintro (⟨n, hn, rfl, rfl⟩ | ⟨rfl, inner, rfl, rfl⟩)
    · exact .layered hn
    · exact .null inner

/-- A value can be converted to its own type inside layers; the null value to every optional
    type. -/
theorem exists_converts_iff {ty : Ty} {v : Value} :
    (∃ w, Converts ty v w) ↔
      (∃ n, ty = v.ty.layered n) ∨ (v.ty = .null ∧ ∃ inner, ty = .optional inner) := by
  simp only [converts_iff, Value.ty_eq_null_iff]
  constructor
  · rintro ⟨w, ⟨n, -, hty, -⟩ | ⟨hv, inner, hty, -⟩⟩
    · exact .inl ⟨n, hty⟩
    · exact .inr ⟨hv, inner, hty⟩
  · rintro (⟨n, hty⟩ | ⟨hv, inner, hty⟩)
    · by_cases hv : v = .null
      · cases n with
        | zero => exact ⟨v, .inl ⟨0, fun _ => rfl, hty, rfl⟩⟩
        | succ n => exact ⟨_, .inr ⟨hv, _, hty, rfl⟩⟩
      · exact ⟨_, .inl ⟨n, fun hnull => absurd hnull hv, hty, rfl⟩⟩
    · exact ⟨_, .inr ⟨hv, inner, hty, rfl⟩⟩

/-! ## Using a value up, and working on clones -/

namespace Schema

variable {S : Schema} {ty : Ty} {v w : Value}

/-- Without an optional layer, only values of the type itself are cloned into it. -/
theorem cloneAs?_eq_none (hty : ∀ inner, ty ≠ .optional inner) (h : v.ty ≠ ty) :
    S.cloneAs? ty v = none := by
  cases ty with
  | optional inner => exact absurd rfl (hty inner)
  | _ => simp [cloneAs?, h]

/-- Using a value up is converting it, and the value is handed back if that fails. -/
theorem takeAs_eq (S : Schema) (ty : Ty) (v : Value) :
    S.takeAs ty v = (ty.convert? v).elim (.error v) .ok := by
  induction ty with
  | optional inner ih =>
    simp only [takeAs, Ty.convert?]
    split
    · rfl
    · split
      · rfl
      · rw [ih]
        cases inner.convert? v <;> rfl
  | _ =>
    simp only [takeAs, Ty.convert?]
    split
    · rfl
    · next h =>
      rw [cloneAs?_eq_none (by simp) h]
      rfl

theorem takeAs_eq_ok_iff : S.takeAs ty v = .ok w ↔ Converts ty v w := by
  rw [takeAs_eq, ← convert?_eq_some_iff]
  cases ty.convert? v <;> simp

/-- At the type of the value, only what is inside a present value is cloned, which is enough for a
    clone of the whole. -/
theorem cloneAs?_self (S : Schema) (v : Value) : S.cloneAs? v.ty v = (S.clone v).toOption := by
  cases v with
  | present payload =>
    have hcopy : (S.clone (.present payload)).toOption =
        (S.clone payload).toOption.map .present := by
      rw [clone]
      cases S.clone payload <;> rfl
    rw [hcopy]
    simp [cloneAs?, Value.ty]
  | absent inner => simp [cloneAs?, clone, Value.ty, Except.toOption]
  | _ => simp [cloneAs?, Value.ty]

theorem clone_bind_convert?_self (S : Schema) (v : Value) :
    (S.clone v).toOption.bind v.ty.convert? = (S.clone v).toOption := by
  cases hcopy : S.clone v with
  | error e => rfl
  | ok copy =>
    have hty : copy.ty = v.ty := ty_of_clone hcopy
    rw [Except.toOption, Option.bind_some, ← hty, Ty.convert?_self]

/-- Working on clones is converting a clone. -/
theorem cloneAs?_eq (S : Schema) (ty : Ty) (v : Value) :
    S.cloneAs? ty v = (S.clone v).toOption.bind ty.convert? := by
  by_cases hself : v.ty = ty
  · rw [← hself, cloneAs?_self, clone_bind_convert?_self]
  induction ty with
  | optional inner ih =>
    by_cases hnull : v.ty = .null
    · rw [Value.ty_eq_null_iff.1 hnull]
      simp [cloneAs?, clone, Ty.convert?, Value.ty, Except.toOption]
    · have hinner : S.cloneAs? inner v = (S.clone v).toOption.bind inner.convert? := by
        by_cases h : v.ty = inner
        · rw [← h, cloneAs?_self, clone_bind_convert?_self]
        · exact ih h
      have hlayer : S.cloneAs? (.optional inner) v = (S.cloneAs? inner v).map .present := by
        simp [cloneAs?, hnull, hself]
      rw [hlayer, hinner]
      cases hcopy : S.clone v with
      | error e => rfl
      | ok copy =>
        have hty : copy.ty = v.ty := ty_of_clone hcopy
        simp [Except.toOption, Ty.convert?, hty, hnull, hself]
  | _ =>
    rw [cloneAs?_eq_none (by simp) hself]
    cases hcopy : S.clone v with
    | error e => rfl
    | ok copy => simp [Except.toOption, Ty.convert?, ty_of_clone hcopy, hself]

/-- Both ways draw the same line, as a clone has the type of the original. -/
theorem exists_cloneAs?_iff :
    (∃ w, S.cloneAs? ty v = some w) ↔
      (∃ w, S.takeAs ty v = .ok w) ∧ ∃ copy, S.clone v = .ok copy := by
  simp only [takeAs_eq_ok_iff, cloneAs?_eq]
  cases hcopy : S.clone v with
  | error e => simp [Except.toOption]
  | ok copy =>
    have hty : copy.ty = v.ty := ty_of_clone hcopy
    have hline : (∃ w, Converts ty copy w) ↔ ∃ w, Converts ty v w := by
      rw [exists_converts_iff, exists_converts_iff, hty]
    simp [Except.toOption, convert?_eq_some_iff, hline]

/-- Conversion is wrapping. A value is made into a value of a type exactly if that type is its own
    inside layers, or it is the null value and the type is optional. What comes out is the value
    inside those layers, or for the null value the outermost absent value; if nothing comes out,
    the value is handed back as it was. Working on clones succeeds exactly if this does and the
    value can be cloned, and gives what the clone is made into. -/
theorem conversion_wraps_in_layers (S : Schema) (ty : Ty) (v : Value) :
    ((∃ w, S.takeAs ty v = .ok w) ↔
      (∃ n, ty = v.ty.layered n) ∨ (v.ty = .null ∧ ∃ inner, ty = .optional inner)) ∧
    (∀ n, ty = v.ty.layered n → (v.ty = .null → n = 0) → S.takeAs ty v = .ok (v.layered n)) ∧
    (∀ inner, v.ty = .null → ty = .optional inner → S.takeAs ty v = .ok (.absent inner)) ∧
    (∀ back, S.takeAs ty v = .error back → back = v) ∧
    ((∃ w, S.cloneAs? ty v = some w) ↔
      (∃ w, S.takeAs ty v = .ok w) ∧ ∃ copy, S.clone v = .ok copy) ∧
    (∀ copy, S.clone v = .ok copy → S.cloneAs? ty v = (S.takeAs ty copy).toOption) := by
  refine ⟨?line, ?wrapped, ?null, ?back, exists_cloneAs?_iff, ?cloned⟩
  case line =>
    simp only [takeAs_eq_ok_iff]
    exact exists_converts_iff
  case wrapped =>
    rintro n rfl hn
    rw [takeAs_eq_ok_iff]
    exact .layered fun hnull => hn (Value.ty_eq_null_iff.2 hnull)
  case null =>
    rintro inner hnull rfl
    rw [takeAs_eq_ok_iff, Value.ty_eq_null_iff.1 hnull]
    exact .null inner
  case back =>
    intro back h
    rw [takeAs_eq] at h
    cases hw : ty.convert? v with
    | none =>
      rw [hw] at h
      cases h
      rfl
    | some w =>
      rw [hw] at h
      cases h
  case cloned =>
    intro copy hcopy
    rw [cloneAs?_eq, takeAs_eq, hcopy, Except.toOption, Option.bind_some]
    cases ty.convert? copy <;> rfl

/-- A handle cannot be cloned: inside two layers it is wanted and used up, but not copied. A number
    of another kind is handed back. -/
theorem handle_is_wrapped_but_not_copied :
    gallery.takeAs (Gallery.handle.objects.layered 2) Gallery.handle.initial =
        .ok (Gallery.handle.initial.layered 2) ∧
      gallery.cloneAs? (Gallery.handle.objects.layered 2) Gallery.handle.initial = none ∧
      gallery.takeAs Gallery.deepTy .null = .ok (.absent (.optional (.int .i32))) ∧
      gallery.takeAs Gallery.deepTy (.int .u32 5) = .error (.int .u32 5) := by
  obtain ⟨-, hwrapped, -, -, hcloned, -⟩ := conversion_wraps_in_layers gallery
    (Gallery.handle.objects.layered 2) Gallery.handle.initial
  obtain ⟨-, -, hnull, -⟩ := conversion_wraps_in_layers gallery Gallery.deepTy .null
  obtain ⟨-, -, -, hback, -⟩ := conversion_wraps_in_layers gallery Gallery.deepTy (.int .u32 5)
  refine ⟨hwrapped 2 rfl nofun, ?_, hnull _ rfl rfl, ?_⟩
  · have hrefused : ¬ ∃ copy, gallery.clone Gallery.handle.initial = .ok copy := by
      rintro ⟨copy, hcopy⟩
      cases hcopy
    refine Option.eq_none_iff_forall_not_mem.2 fun w hw => ?_
    exact hrefused (hcloned.1 ⟨w, hw⟩).2
  · cases h : gallery.takeAs Gallery.deepTy (.int .u32 5) with
    | ok w => cases h
    | error back => rw [hback back h]

end Schema

/-! ## What a parameter accepts -/

/-- A parameter looks through one layer, and accepts null at every optional type. -/
theorem Ty.accepts_layered_iff {ty : Ty} {n : Nat} :
    (ty.layered n).accepts ty = true ↔ n ≤ 1 ∨ ty = .null := by
  match n with
  | 0 => simp [layered, accepts]
  | 1 => simp [layered, accepts, inner?]
  | n + 2 =>
    have hself : (ty.layered n).optional.optional ≠ ty := by
      intro h
      have : n + 2 = 0 := layered_inj h
      omega
    have hinner : ty ≠ (ty.layered n).optional := by
      intro h
      have : 0 = n + 1 := layered_inj h
      omega
    simp [layered, accepts, inner?, hself, hinner]

theorem accepts_iff_converts {param : Ty} {v : Value} :
    param.accepts v.ty = true ↔
      (∃ w, Converts param v w) ∧ (v.ty = .null ∨ ∀ n, param ≠ v.ty.layered (n + 2)) := by
  constructor
  · intro h
    have hconv : ∃ w, Converts param v w := exists_converts_of_accepts h
    refine ⟨hconv, ?_⟩
    rcases exists_converts_iff.1 hconv with ⟨n, rfl⟩ | ⟨hnull, -⟩
    · rcases Ty.accepts_layered_iff.1 h with hn | hnull
      · right
        intro m hm
        have := Ty.layered_inj hm
        omega
      · exact .inl hnull
    · exact .inl hnull
  · rintro ⟨hconv, hshallow⟩
    rcases exists_converts_iff.1 hconv with ⟨n, rfl⟩ | ⟨hnull, inner, rfl⟩
    · rw [Ty.accepts_layered_iff]
      rcases hshallow with hnull | hshallow
      · exact .inr hnull
      · left
        by_contra hn
        exact hshallow (n - 2) (by rw [Nat.sub_add_cancel (by omega)])
    · simp [Ty.accepts, Ty.inner?, hnull]

/-- A parameter accepts a value exactly if the value can be made into one of its type and does not
    lack two layers or more; the null value never lacks any. Assignment makes no such exception:
    what can be made into a value of the type can be stored where there is one. -/
theorem Schema.accepts_iff_takeAs (S : Schema) (param : Ty) (v : Value) :
    (param.accepts v.ty = true ↔
      (∃ w, S.takeAs param v = .ok w) ∧ (v.ty = .null ∨ ∀ n, param ≠ v.ty.layered (n + 2))) ∧
    ∀ old : Value, old.ty = param →
      ((∃ w, old.overwrite? v = some w) ↔ ∃ w, S.takeAs param v = .ok w) := by
  simp only [takeAs_eq_ok_iff]
  refine ⟨accepts_iff_converts, ?_⟩
  rintro old rfl
  simp only [Value.overwrite?, convert?_eq_some_iff]

/-- A number lacks one layer of an optional number, and two of a doubly optional one. -/
theorem Schema.optional_number_accepts_number :
    (Ty.optional (.int .i32)).accepts (.int .i32) = true ∧
      Gallery.deepTy.accepts (.int .i32) = false ∧
      ∃ w, (Value.absent (.optional (.int .i32))).overwrite? (.int .i32 5) = some w := by
  obtain ⟨hone, -⟩ := accepts_iff_takeAs gallery (.optional (.int .i32)) (.int .i32 5)
  obtain ⟨htwo, hstore⟩ := accepts_iff_takeAs gallery Gallery.deepTy (.int .i32 5)
  have htaken : ∃ w, gallery.takeAs Gallery.deepTy (.int .i32 5) = .ok w :=
    ⟨.present (.present (.int .i32 5)), rfl⟩
  refine ⟨hone.2 ⟨⟨.present (.int .i32 5), rfl⟩, .inr ?_⟩, ?_, (hstore _ rfl).2 htaken⟩
  · rintro n ⟨⟩
  · refine Bool.eq_false_iff.2 fun h => ?_
    obtain ⟨-, hnull | hshallow⟩ := htwo.1 h
    · cases hnull
    · exact hshallow 0 rfl

/-- The doubly optional field of an object takes the number that the parameter of that type
    refuses, so that no method is found for it. -/
theorem Schema.not_everything_taken_is_accepted :
    (¬ ∀ (param : Ty) (v : Value),
      param.accepts v.ty = true ↔ ∃ w, gallery.takeAs param v = .ok w) ∧
    gallery.resolveMethod .typeAware Gallery.opts.objects "put" [.int .i32] = none := by
  constructor
  · intro h
    have htaken : ∃ w, gallery.takeAs Gallery.deepTy (.int .i32 5) = .ok w :=
      ⟨.present (.present (.int .i32 5)), rfl⟩
    have haccepted := (h Gallery.deepTy (.int .i32 5)).2 htaken
    exact absurd haccepted (by decide)
  · have hfound : (gallery.resolveMethod .typeAware Gallery.opts.objects "put"
        [.int .i32]).isNone = true := by decide +kernel
    exact Option.isNone_iff_eq_none.1 hfound

end ObjectPath
