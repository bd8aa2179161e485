import ObjectPath.Proofs.Wrapping

/-!
# Arguments are taken in order

An intake hands out the arguments of a call one after the other. It keeps those that are left and,
beside them, the number of those taken, which errors quote. A take that does not convert uses up its
argument all the same, and one that finds nothing left changes nothing. So after any number of takes
the two agree: the number counts the takes up to the number of arguments, and what is left is what
stands behind as many of them.

Results:
* `Intake.take_afterTakes`: one take, wherever it stands among others.
* `Intake.getElem?_takeEach`: any number of takes, by the invariant that each of them keeps.
* `Intake.takes_stay_aligned`: every take works on the argument at its own position.
-/

namespace ObjectPath.Intake

variable {member : String} {values : List Value} {types : List Ty} {n i : Nat} {ty : Ty}

/-- The intake of the arguments when `n` takes have been made, whatever came of them. -/
def afterTakes (member : String) (values : List Value) (n : Nat) : Intake :=
  ⟨member, min n values.length, values.drop n⟩

/-- What a take comes to that stands at the given position among all takes. -/
def answerAt (member : String) (values : List Value) (i : Nat) (ty : Ty) :
    Except InvokeError Value :=
  match values[i]? with
  | some v => (ty.convert? v).elim (.error (.argumentType member i ty.path v.ty.path)) .ok
  | none => .error (.argumentCount member (values.length + 1) values.length)

/-! ## The start -/

theorem start_of_length (member : String) (values : List Value) :
    start member values values.length = .ok (afterTakes member values 0) := by
  rw [start, if_pos rfl, afterTakes, Nat.zero_min, List.drop_zero]

theorem start_eq_error_iff {expected : Nat} {e : InvokeError} :
    start member values expected = .error e ↔
      values.length ≠ expected ∧ e = .argumentCount member expected values.length := by
  unfold start
  by_cases hlength : values.length = expected
  · rw [if_pos hlength]
    exact iff_of_false nofun fun h => h.1 hlength
  · rw [if_neg hlength, Except.error.injEq]
    exact ⟨fun h => ⟨hlength, h.symm⟩, fun h => h.2.symm⟩

/-! ## One take -/

/-- The answer is that for the position of the take, and the next take stands one further. -/
theorem take_afterTakes (member : String) (values : List Value) (n : Nat) (ty : Ty) :
    (afterTakes member values n).take ty =
      (answerAt member values n ty, afterTakes member values (n + 1)) := by
  unfold take afterTakes answerAt
  by_cases hn : n < values.length
  · have hmin : min n values.length = n := Nat.min_eq_left (Nat.le_of_lt hn)
    have hnext : min (n + 1) values.length = n + 1 := Nat.min_eq_left hn
    rw [List.drop_eq_getElem_cons hn, List.getElem?_eq_getElem hn, hmin, hnext]
    dsimp only
    cases ty.convert? values[n] <;> rfl
  · have hend : values.length ≤ n := Nat.le_of_not_lt hn
    have hmin : min n values.length = values.length := Nat.min_eq_right hend
    have hnext : min (n + 1) values.length = values.length :=
      Nat.min_eq_right (Nat.le_succ_of_le hend)
    rw [List.drop_eq_nil_of_le hend, List.drop_eq_nil_of_le (Nat.le_succ_of_le hend),
      List.getElem?_eq_none hend, hmin, hnext]

/-! ## Any number of takes -/

/-- The answer to a take depends on its position and on its own type, and not on the types and
    answers of the takes before it. -/
theorem getElem?_takeEach (h : types[i]? = some ty) :
    ((afterTakes member values n).takeEach types)[i]? =
      some (answerAt member values (n + i) ty) := by
  induction types generalizing n i with
  | nil => cases h
  | cons first rest ih =>
    rw [takeEach, take_afterTakes]
    cases i with
    | zero =>
      cases h
      rfl
    | succ i =>
      rw [List.getElem?_cons_succ, ih h, Nat.add_right_comm, Nat.add_assoc]

theorem length_takeEach (intake : Intake) (types : List Ty) :
    (intake.takeEach types).length = types.length := by
  induction types generalizing intake with
  | nil => rfl
  | cons ty rest ih => rw [takeEach, List.length_cons, ih, List.length_cons]

/-- An argument is handed out as what it becomes where the type is wanted, or reported. -/
theorem answerAt_of_value (S : Schema) {v : Value} (h : values[i]? = some v) :
    answerAt member values i ty =
      (S.takeAs ty v).mapError fun _ => .argumentType member i ty.path v.ty.path := by
  rw [answerAt, h, Schema.takeAs_eq]
  dsimp only
  cases ty.convert? v <;> rfl

theorem answerAt_past_end (h : values.length ≤ i) :
    answerAt member values i ty =
      .error (.argumentCount member (values.length + 1) values.length) := by
  rw [answerAt, List.getElem?_eq_none h]

/-- An intake starts exactly if there are as many arguments as are expected. Whatever types are then
    asked for, every take is answered. The take at the position of an argument gives that argument,
    converted to the type, or reports that position, the path of the type and the path of the
    argument's own class, whether or not the takes before it could convert theirs. Every take behind
    the last argument reports that one more was expected than there are. -/
theorem takes_stay_aligned (S : Schema) (member : String) (values : List Value) (expected : Nat) :
    (∀ e, start member values expected = .error e ↔
      values.length ≠ expected ∧ e = .argumentCount member expected values.length) ∧
    (values.length = expected → ∃ intake, start member values expected = .ok intake ∧
      ∀ types : List Ty, (intake.takeEach types).length = types.length ∧
        ∀ i ty, types[i]? = some ty →
          (∀ v, values[i]? = some v → (intake.takeEach types)[i]? =
            some ((S.takeAs ty v).mapError fun _ =>
              .argumentType member i ty.path v.ty.path)) ∧
          (values.length ≤ i → (intake.takeEach types)[i]? =
            some (.error (.argumentCount member (values.length + 1) values.length)))) := by
  refine ⟨fun e => start_eq_error_iff, ?_⟩
  rintro rfl
  refine ⟨_, start_of_length member values, fun types => ⟨length_takeEach _ types, ?_⟩⟩
  intro i ty hty
  rw [getElem?_takeEach hty, Nat.zero_add]
  refine ⟨fun v hv => ?_, fun hend => ?_⟩
  · rw [answerAt_of_value S hv]
  · rw [answerAt_past_end hend]

/-- A number is asked for as a text, a number as an optional number, and then two more arguments
    than there are. The first take fails and the second does not mind. -/
theorem failed_take_does_not_shift :
    ∃ intake, start "probe" [.int .u8 1, .int .i32 5] 2 = .ok intake ∧
      intake.takeEach [.string, .optional (.int .i32), .bool, .string] =
        [.error (.argumentType "probe" 0 "alloc::string::String" "u8"),
         .ok (.present (.int .i32 5)),
         .error (.argumentCount "probe" 3 2), .error (.argumentCount "probe" 3 2)] := by
  obtain ⟨-, haligned⟩ := takes_stay_aligned gallery "probe" [.int .u8 1, .int .i32 5] 2
  obtain ⟨intake, hstart, htakes⟩ := haligned rfl
  obtain ⟨-, hanswer⟩ := htakes [.string, .optional (.int .i32), .bool, .string]
  refine ⟨intake, hstart, List.ext_getElem? fun i => ?_⟩
  match i with
  | 0 => exact (hanswer 0 _ rfl).1 _ rfl
  | 1 => exact (hanswer 1 _ rfl).1 _ rfl
  | 2 => exact (hanswer 2 _ rfl).2 (by decide)
  | 3 => exact (hanswer 3 _ rfl).2 (by decide)
  | i + 4 => rfl

end ObjectPath.Intake
