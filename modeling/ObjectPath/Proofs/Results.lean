import Mathlib.Data.List.Forall2

/-!
# Results that may be errors

What it means for a changed result to be a value or an error, and for a list of results to be
all values or to have a first error. The evaluator and the checks before a call are written with
these.

Checks that are made one after the other report the first objection. `Except.Heeds` says so of a
result and the list of all objections, and it is put together in the way in which the checks are.
-/

namespace Except

variable {ε δ α β : Type}

@[simp] theorem map_eq_ok_iff {f : α → β} {r : Except ε α} {b : β} :
    r.map f = .ok b ↔ ∃ a, r = .ok a ∧ f a = b := by
  cases r <;> simp [Except.map]

@[simp] theorem map_eq_error_iff {f : α → β} {r : Except ε α} {e : ε} :
    r.map f = .error e ↔ r = .error e := by
  cases r <;> simp [Except.map]

@[simp] theorem mapError_eq_ok_iff {f : ε → δ} {r : Except ε α} {a : α} :
    r.mapError f = .ok a ↔ r = .ok a := by
  cases r <;> simp [Except.mapError]

@[simp] theorem mapError_eq_error_iff {f : ε → δ} {r : Except ε α} {e : δ} :
    r.mapError f = .error e ↔ ∃ cause, r = .error cause ∧ f cause = e := by
  cases r <;> simp [Except.mapError]

theorem mapError_mapError {γ : Type} (f : ε → δ) (g : δ → γ) (r : Except ε α) :
    (r.mapError f).mapError g = r.mapError fun e => g (f e) := by
  cases r <;> rfl

theorem mapError_map (g : ε → δ) (f : α → β) (r : Except ε α) :
    (r.map f).mapError g = (r.mapError g).map f := by
  cases r <;> rfl

theorem bind_eq_ok_iff {f : α → Except ε β} {r : Except ε α} {b : β} :
    r >>= f = .ok b ↔ ∃ a, r = .ok a ∧ f a = .ok b := by
  cases r <;> simp [bind, Except.bind]

theorem ite_error_eq_ok_iff {p : Prop} [Decidable p] {e : ε} {r : Except ε α} {a : α} :
    (if p then .error e else r) = .ok a ↔ ¬ p ∧ r = .ok a := by
  split <;> simp [*]

/-- The error, if the result is one. -/
def failure? : Except ε α → Option ε
  | .ok _ => none
  | .error e => some e

/-- Going through a list succeeds exactly if it succeeds everywhere. -/
theorem mapM_eq_ok_iff {f : α → Except ε β} {items : List α} {results : List β} :
    items.mapM f = .ok results ↔ List.Forall₂ (fun a b => f a = .ok b) items results := by
  induction items generalizing results with
  | nil => cases results <;> simp [pure, Except.pure]
  | cons a rest ih =>
    rw [List.mapM_cons, List.forall₂_cons_left_iff]
    cases ha : f a with
    | error e => simp [bind, Except.bind]
    | ok b =>
      cases hrest : rest.mapM f with
      | error e =>
        simp only [bind, Except.bind, reduceCtorEq, false_iff, not_exists, not_and]
        rintro _ others - hothers
        simp [ih.2 hothers] at hrest
      | ok others =>
        simp only [bind, Except.bind, pure, Except.pure, Except.ok.injEq]
        constructor
        · rintro rfl
          exact ⟨b, others, rfl, ih.1 hrest, rfl⟩
        · rintro ⟨_, others', rfl, hothers, rfl⟩
          rw [ih.2 hothers, Except.ok.injEq] at hrest
          rw [hrest]

theorem mapM_eq_ok_iff_getElem? {f : α → Except ε β} {items : List α} {results : List β} :
    items.mapM f = .ok results ↔ items.length = results.length ∧
      ∀ (i : Nat) (a : α) (b : β), items[i]? = some a → results[i]? = some b → f a = .ok b := by
  rw [mapM_eq_ok_iff, List.forall₂_iff_get]
  refine and_congr_right fun _ => ?_
  constructor
  · intro h i a b ha hb
    obtain ⟨hi, rfl⟩ := List.getElem?_eq_some_iff.1 ha
    obtain ⟨hi', rfl⟩ := List.getElem?_eq_some_iff.1 hb
    exact h i hi hi'
  · intro h i hi hi'
    exact h i _ _ (List.getElem?_eq_getElem hi) (List.getElem?_eq_getElem hi')

/-- Going through a list fails where it fails first. -/
theorem mapM_eq_error_iff {f : α → Except ε β} {items : List α} {e : ε} :
    items.mapM f = .error e ↔ ∃ before item after results, items = before ++ item :: after ∧
      before.mapM f = .ok results ∧ f item = .error e := by
  constructor
  · intro h
    induction items with
    | nil => cases h
    | cons a rest ih =>
      rw [List.mapM_cons] at h
      cases ha : f a with
      | error cause =>
        rw [ha] at h
        exact ⟨[], a, rest, [], rfl, rfl, ha.trans (congrArg Except.error (Except.error.inj h))⟩
      | ok b =>
        have hrest : rest.mapM f = .error e := by
          rw [ha] at h
          cases hrest : rest.mapM f with
          | error cause =>
            rw [hrest] at h
            exact congrArg Except.error (Except.error.inj h)
          | ok others =>
            rw [hrest] at h
            cases h
        obtain ⟨before, item, after, results, rfl, hbefore, hitem⟩ := ih hrest
        refine ⟨a :: before, item, after, b :: results, rfl, ?_, hitem⟩
        rw [List.mapM_cons, ha, hbefore]
        rfl
  · rintro ⟨before, item, after, results, rfl, hbefore, hitem⟩
    rw [List.mapM_append, hbefore, List.mapM_cons, hitem]
    rfl

theorem exists_error_iff {r : Except ε α} : (∃ e, r = .error e) ↔ ¬ ∃ a, r = .ok a := by
  cases r <;> simp

theorem exists_mapM_ok_iff {f : α → Except ε β} {items : List α} :
    (∃ results, items.mapM f = .ok results) ↔ ∀ item ∈ items, ∃ b, f item = .ok b := by
  induction items with
  | nil => simp [pure, Except.pure]
  | cons a rest ih =>
    rw [List.mapM_cons, List.forall_mem_cons, ← ih]
    cases f a with
    | error e => simp [bind, Except.bind]
    | ok b => cases rest.mapM f <;> simp [bind, Except.bind, pure, Except.pure]

theorem exists_mapM_error_iff {f : α → Except ε β} {items : List α} :
    (∃ e, items.mapM f = .error e) ↔ ∃ item ∈ items, ∃ e, f item = .error e := by
  simp only [exists_error_iff, exists_mapM_ok_iff, not_forall, exists_prop]

theorem mapError_mapM (g : ε → δ) (f : α → Except ε β) (items : List α) :
    (items.mapM f).mapError g = items.mapM fun a => (f a).mapError g := by
  induction items with
  | nil => rfl
  | cons a rest ih =>
    rw [List.mapM_cons, List.mapM_cons, ← ih]
    cases f a with
    | error e => rfl
    | ok b => cases rest.mapM f <;> rfl

/-- Going through two lists side by side, with the same result at each position. -/
theorem mapM_eq_of_forall₂ {f : α → Except ε β} {γ : Type} {g : γ → Except ε β} {items : List α}
    {others : List γ} (h : List.Forall₂ (fun a c => g c = f a) items others) :
    others.mapM g = items.mapM f := by
  induction h with
  | nil => rfl
  | cons hfirst _ ih => rw [List.mapM_cons, List.mapM_cons, hfirst, ih]

/-- Going through a list with a state stops at the first item that is objected to, if the objection
    to an item does not depend on the state. -/
theorem foldlM_cases {σ : Type} {f : σ → α → Except ε σ} {objection? : α → Option ε}
    {items : List α} (hstep : ∀ a ∈ items, ∀ s,
      (∃ e, objection? a = some e ∧ f s a = .error e) ∨ (objection? a = none ∧ ∃ t, f s a = .ok t))
    (s : σ) :
    (∃ e rest, items.filterMap objection? = e :: rest ∧ items.foldlM f s = .error e) ∨
      (items.filterMap objection? = [] ∧ ∃ t, items.foldlM f s = .ok t) := by
  induction items generalizing s with
  | nil => exact .inr ⟨rfl, s, rfl⟩
  | cons a rest ih =>
    obtain ⟨hfirst, hrest⟩ := List.forall_mem_cons.1 hstep
    rw [List.foldlM_cons, List.filterMap_cons]
    rcases hfirst s with ⟨e, hwrong, hfails⟩ | ⟨hfine, t, hgoes⟩
    · rw [hwrong, hfails]
      exact .inl ⟨e, _, rfl, rfl⟩
    · rw [hfine, hgoes]
      exact ih hrest t

/-- What every step does to an aspect of the state, going through a list does to it in the end. -/
theorem foldlM_aspect {σ τ : Type} {f : σ → α → Except ε σ} (aspect : σ → τ) (g : τ → α → τ)
    (hstep : ∀ s a t, f s a = .ok t → aspect t = g (aspect s) a) {items : List α} {s t : σ}
    (h : items.foldlM f s = .ok t) : aspect t = items.foldl g (aspect s) := by
  induction items generalizing s with
  | nil =>
    cases h
    rfl
  | cons a rest ih =>
    rw [List.foldlM_cons] at h
    cases hfirst : f s a with
    | error e =>
      rw [hfirst] at h
      cases h
    | ok u =>
      rw [hfirst] at h
      rw [ih h, hstep s a u hfirst, List.foldl_cons]

theorem toOption_mapError (g : ε → δ) (r : Except ε α) :
    (r.mapError g).toOption = r.toOption := by
  cases r <;> rfl

/-! ## Results up to the first error -/

/-- The results up to the first error, which is the last one of them. -/
def uptoError : List (Except ε α) → List (Except ε α)
  | [] => []
  | .ok a :: rest => .ok a :: uptoError rest
  | .error e :: _ => [.error e]

theorem uptoError_append (values : List α) (rest : List (Except ε α)) :
    uptoError (values.map .ok ++ rest) = values.map .ok ++ uptoError rest := by
  induction values with
  | nil => rfl
  | cons a others ih => rw [List.map_cons, List.cons_append, uptoError, ih, List.cons_append]

theorem map_eq_map_ok {f : α → Except ε β} {items : List α} {results : List β}
    (h : items.mapM f = .ok results) : items.map f = results.map .ok := by
  rw [mapM_eq_ok_iff] at h
  rw [← List.forall₂_eq_eq_eq, List.forall₂_map_left_iff, List.forall₂_map_right_iff]
  exact h

theorem uptoError_of_ok {f : α → Except ε β} {items : List α} {results : List β}
    (h : items.mapM f = .ok results) : uptoError (items.map f) = results.map .ok := by
  have happend := uptoError_append results ([] : List (Except ε β))
  rw [uptoError, List.append_nil] at happend
  rw [map_eq_map_ok h, happend]

theorem uptoError_of_error {f : α → Except ε β} {items : List α} {e : ε}
    (h : items.mapM f = .error e) :
    ∃ results : List β, uptoError (items.map f) = results.map .ok ++ [.error e] := by
  obtain ⟨before, item, after, results, rfl, hbefore, hitem⟩ := mapM_eq_error_iff.1 h
  refine ⟨results, ?_⟩
  rw [List.map_append, List.map_cons, map_eq_map_ok hbefore, hitem, uptoError_append, uptoError]

/-! ## The first objection -/

/-- The result heeds the objections: it is the first of them or, if there are none, a value that is
    as it should be. -/
def Heeds (r : Except ε α) (objections : List ε) (fine : α → Prop) : Prop :=
  (∃ e rest, objections = e :: rest ∧ r = .error e) ∨ (objections = [] ∧ ∃ a, r = .ok a ∧ fine a)

namespace Heeds

variable {r : Except ε α} {objections others : List ε} {fine : α → Prop} {good : β → Prop} {a : α}
  {e : ε} {p q : Prop} [Decidable p] [Decidable q]

theorem ok (h : fine a) : Heeds (.ok a : Except ε α) [] fine := .inr ⟨rfl, a, rfl, h⟩

/-- What is checked first is objected to first. -/
theorem check (hpq : p ↔ q) (h : ¬ p → r.Heeds objections fine) :
    (if p then .error e else r).Heeds ((if q then [e] else []) ++ objections) fine := by
  by_cases hp : p
  · rw [if_pos hp, if_pos (hpq.1 hp)]
    exact .inl ⟨e, objections, rfl, rfl⟩
  · rw [if_neg hp, if_neg (mt hpq.2 hp)]
    exact h hp

theorem lastCheck (hpq : p ↔ q) (h : ¬ p → fine a) :
    (if p then .error e else .ok a : Except ε α).Heeds (if q then [e] else []) fine := by
  have hchecked := check (e := e) hpq fun hp => Heeds.ok (h hp)
  rwa [List.append_nil] at hchecked

/-- Two results one behind the other, where the second one depends on the first. -/
theorem bind {f : α → Except ε β} (h : r.Heeds objections fine)
    (hf : ∀ a, fine a → (f a).Heeds others good) : (r >>= f).Heeds (objections ++ others) good := by
  rcases h with ⟨e, rest, rfl, rfl⟩ | ⟨rfl, a, rfl, ha⟩
  · exact .inl ⟨e, rest ++ others, rfl, rfl⟩
  · exact hf a ha

/-- Nothing more can go wrong behind the result. -/
theorem bind_ok {f : α → β} (h : r.Heeds objections fine) (hf : ∀ a, fine a → good (f a)) :
    (r >>= fun a => .ok (f a)).Heeds objections good := by
  have hbound := h.bind fun a ha => Heeds.ok (ε := ε) (hf a ha)
  rwa [List.append_nil] at hbound

theorem map {f : α → β} (h : r.Heeds objections fine) (hf : ∀ a, fine a → good (f a)) :
    (r.map f).Heeds objections good := by
  have hbound := h.bind_ok hf
  cases r <;> exact hbound

theorem exists_ok_iff (h : r.Heeds objections fine) : (∃ a, r = .ok a) ↔ objections = [] := by
  rcases h with ⟨e, rest, rfl, rfl⟩ | ⟨rfl, a, rfl, -⟩ <;> simp

theorem eq_error_iff (h : r.Heeds objections fine) : r = .error e ↔ objections.head? = some e := by
  rcases h with ⟨e, rest, rfl, rfl⟩ | ⟨rfl, a, rfl, -⟩ <;> simp

theorem of_eq_ok (h : r.Heeds objections fine) (hr : r = .ok a) : fine a := by
  rcases h with ⟨e, rest, -, rfl⟩ | ⟨-, b, rfl, hb⟩
  · cases hr
  · cases hr
    exact hb

end Heeds

/-- Going through a list with a state heeds the objections to the items. -/
theorem foldlM_heeds {σ : Type} {f : σ → α → Except ε σ} {objection? : α → Option ε}
    {items : List α} {fine : σ → Prop} (hstep : ∀ a ∈ items, ∀ s,
      (∃ e, objection? a = some e ∧ f s a = .error e) ∨ (objection? a = none ∧ ∃ t, f s a = .ok t))
    {s : σ} (hfine : ∀ t, items.foldlM f s = .ok t → fine t) :
    (items.foldlM f s).Heeds (items.filterMap objection?) fine := by
  rcases foldlM_cases hstep s with hfails | ⟨hnone, t, hgoes⟩
  · exact .inl hfails
  · exact .inr ⟨hnone, t, hgoes, hfine t hgoes⟩

end Except
