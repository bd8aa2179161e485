import ObjectPath.Proofs.Printing

/-!
# The form of a call

A text is read as a call if it has an opening parenthesis and ends in a closing one. The name stands
in front of the first opening parenthesis. The placeholders stand between that one and the next
closing parenthesis, which need not be the one at the end: whatever is left over behind it has no
effect, so `m(%1)` and `m(%1)x)` are the same call.

A call takes up its whole text exactly if there is only one closing parenthesis behind the first
opening one.

Results:
* `Placeholder.parse_eq_ok_iff`: the tokens that stand for a placeholder.
* `Segment.parseParams_eq_ok_iff`: what stands between the parentheses of a call.
* `Segment.parse_eq_call_iff`: the texts that are read as a call.
* `Segment.call_texts_iff`: the same, and the calls that take up their whole text.
-/

namespace ObjectPath

open Text

/-! ## Placeholders -/

namespace Placeholder

variable {p : Placeholder} {token : List Char}

/-- The token is a percent sign and digits for the number of the placeholder, between blanks. -/
def IsTokenOf (token : List Char) (p : Placeholder) : Prop :=
  ∃ lead digits tail, token = lead ++ ('%' :: digits ++ tail) ∧
    (∀ c ∈ lead, isBlank c = true) ∧ (∀ c ∈ tail, isBlank c = true) ∧
    digits ≠ [] ∧ (∀ c ∈ digits, c.isDigit = true) ∧ digitsValue digits = p.number

theorem ofToken?_eq_some_iff : ofToken? token = some p ↔
    ∃ digits, token = '%' :: digits ∧ digits ≠ [] ∧ (∀ c ∈ digits, c.isDigit = true) ∧
      digitsValue digits = p.number := by
  constructor
  · intro h
    unfold ofToken? at h
    split at h
    · next digits =>
      split at h
      · next hdigits =>
        exact ⟨digits, rfl, hdigits.1, List.all_eq_true.1 hdigits.2, (number_of_new? h).symm⟩
      · cases h
    · cases h
  · rintro ⟨digits, rfl, hne, hdigits, hvalue⟩
    rw [ofToken?, if_pos ⟨hne, List.all_eq_true.2 hdigits⟩, hvalue, new?_number]

theorem parse_eq_ok_iff : parse token = .ok p ↔ IsTokenOf token p := by
  have hread : parse token = .ok p ↔ ofToken? (trim token) = some p := by
    unfold parse
    cases ofToken? (trim token) <;> simp
  rw [hread, ofToken?_eq_some_iff]
  constructor
  · rintro ⟨digits, htrim, hne, hdigits, hvalue⟩
    obtain ⟨lead, tail, htoken, hlead, htail⟩ := exists_trim token
    rw [htrim] at htoken
    exact ⟨lead, digits, tail, htoken, hlead, htail, hne, hdigits, hvalue⟩
  · rintro ⟨lead, digits, tail, rfl, hlead, htail, hne, hdigits, hvalue⟩
    refine ⟨digits, ?_, hne, hdigits, hvalue⟩
    rw [trim_append hlead htail]
    apply trim_of_no_blanks
    intro c hc
    rcases List.mem_cons.1 hc with rfl | hc
    · decide
    · exact isBlank_of_isDigit (hdigits c hc)

theorem IsTokenOf.mem (h : IsTokenOf token p) : '%' ∈ token := by
  obtain ⟨lead, digits, tail, rfl, -⟩ := h
  simp

end Placeholder

/-! ## Calls -/

namespace Segment

variable {text name body left : List Char} {params : List Placeholder}

/-! ### Between the parentheses -/

/-- The text lists the placeholders: it is blank if there are none, and otherwise has their tokens
    with commas between them. -/
def ListsParams (body : List Char) (params : List Placeholder) : Prop :=
  (params = [] ∧ ∀ c ∈ body, isBlank c = true) ∨
    List.Forall₂ Placeholder.IsTokenOf (body.splitOn ',') params

theorem parseParams_eq_ok_iff : parseParams body = .ok params ↔ ListsParams body params := by
  by_cases hblank : ∀ c ∈ body, isBlank c = true
  · -- a blank text is no token, since it has no percent sign
    have hnone : ¬ List.Forall₂ Placeholder.IsTokenOf (body.splitOn ',') params := by
      have hcomma : ',' ∉ body := fun hc => absurd (hblank _ hc) (by decide)
      rw [List.splitOn_eq_singleton hcomma]
      intro htokens
      obtain ⟨p, _, htoken, -⟩ := List.forall₂_cons_left_iff.1 htokens
      exact absurd (hblank _ htoken.mem) (by decide)
    rw [parseParams, if_pos (trim_eq_nil_iff.2 hblank), Except.ok.injEq]
    constructor
    · intro h
      exact .inl ⟨h.symm, hblank⟩
    · intro h
      exact (h.resolve_right hnone).1.symm
  · rw [parseParams, if_neg (mt trim_eq_nil_iff.1 hblank), Except.mapM_eq_ok_iff]
    simp only [Placeholder.parse_eq_ok_iff]
    constructor
    · exact .inr
    · intro h
      exact h.resolve_left fun hnone => hblank hnone.2

/-! ### Around the parentheses -/

/-- The text is a name, a body in parentheses, and what is left over behind them. The name has no
    opening parenthesis and the body no closing one; what is left over ends in a closing one, if
    there is anything. -/
structure CallForm (text name body left : List Char) : Prop where
  text_eq : text = name ++ '(' :: (body ++ ')' :: left)
  name_ne_nil : name ≠ []
  name_plain : '(' ∉ name
  body_plain : ')' ∉ body
  left_ends : left = [] ∨ left.getLast? = some ')'

theorem CallForm.callName (h : CallForm text name body left) : callName text = name := by
  rw [Segment.callName, h.text_eq]
  exact (takeWhile_dropWhile_append h.name_plain _).1

theorem CallForm.callBody (h : CallForm text name body left) : callBody text = body := by
  rw [Segment.callBody, h.text_eq, (takeWhile_dropWhile_append h.name_plain _).2, List.drop_one,
    List.tail_cons]
  exact (takeWhile_dropWhile_append h.body_plain _).1

theorem getLast?_append_cons (front : List Char) (c : Char) (rest : List Char) :
    (front ++ c :: rest).getLast? = some (rest.getLast?.getD c) := by
  rw [List.getLast?_append, List.getLast?_cons]
  rfl

theorem CallForm.looksLikeCall (h : CallForm text name body left) : looksLikeCall text = true := by
  have hopening : text.contains '(' = true := by simp [h.text_eq]
  have hlast : text.getLast? = some ')' := by
    rw [h.text_eq, getLast?_append_cons, getLast?_append_cons, Option.getD_some]
    rcases h.left_ends with hnone | hends
    · rw [hnone]
      rfl
    · rw [hends]
      rfl
  rw [Segment.looksLikeCall, hopening, hlast]
  rfl

/-- Only the name and the body count for what a call is read as. -/
theorem CallForm.parse_eq (h : CallForm text name body left) :
    parse text = (parseParams body).map (call (String.ofList name)) := by
  have hne : text ≠ [] := by simp [h.text_eq]
  rw [parse, if_neg hne, if_pos h.looksLikeCall, h.callName, if_neg h.name_ne_nil, h.callBody]

theorem exists_callForm (hcall : Segment.looksLikeCall text = true)
    (hname : Segment.callName text ≠ []) : ∃ name body left, CallForm text name body left := by
  rw [Segment.looksLikeCall, Bool.and_eq_true, List.contains_iff_mem, beq_iff_eq] at hcall
  obtain ⟨hopening, hlast⟩ := hcall
  obtain ⟨name, rest, rfl, hplain⟩ := List.eq_append_cons_of_mem hopening
  rw [Segment.callName, (takeWhile_dropWhile_append hplain rest).1] at hname
  rw [getLast?_append_cons, Option.some.injEq] at hlast
  -- the last character is not the opening parenthesis, so it stands behind it
  have hclosing : ')' ∈ rest := by
    cases hrest : rest.getLast? with
    | none =>
      rw [hrest] at hlast
      cases hlast
    | some c =>
      rw [hrest, Option.getD_some] at hlast
      rw [hlast] at hrest
      exact List.mem_of_getLast? hrest
  obtain ⟨body, left, rfl, hbody⟩ := List.eq_append_cons_of_mem hclosing
  rw [getLast?_append_cons, Option.getD_some] at hlast
  refine ⟨name, body, left, rfl, hname, hplain, hbody, ?_⟩
  cases hleft : left.getLast? with
  | none => exact .inl (List.getLast?_eq_none_iff.1 hleft)
  | some c =>
    rw [hleft, Option.getD_some] at hlast
    rw [hlast]
    exact .inr rfl

/-- The texts that are read as a call. -/
theorem parse_eq_call_iff {name : String} : parse text = .ok (call name params) ↔
    ∃ body left, CallForm text name.toList body left ∧ ListsParams body params := by
  constructor
  · intro h
    have hcall : Segment.looksLikeCall text = true ∧ Segment.callName text ≠ [] := by
      unfold parse at h
      split at h
      · cases h
      · split at h
        · next hcall =>
          split at h
          · cases h
          · next hname => exact ⟨hcall, hname⟩
        · split at h
          · cases h
          · cases Except.ok.inj h
    obtain ⟨front, body, left, hform⟩ := exists_callForm hcall.1 hcall.2
    rw [hform.parse_eq, Except.map_eq_ok_iff] at h
    obtain ⟨found, hparams, hsegment⟩ := h
    obtain ⟨hname, rfl⟩ := Segment.call.inj hsegment
    have hfront : front = name.toList := by rw [← hname, String.toList_ofList]
    rw [hfront] at hform
    exact ⟨body, left, hform, parseParams_eq_ok_iff.1 hparams⟩
  · rintro ⟨body, left, hform, hlists⟩
    rw [hform.parse_eq, parseParams_eq_ok_iff.2 hlists, String.ofList_toList]
    rfl

/-! ### What is left over -/

/-- The number of closing parentheses behind the first opening one. -/
def closings (text : List Char) : Nat := (text.dropWhile (· != '(')).count ')'

theorem CallForm.closings_eq (h : CallForm text name body left) :
    closings text = left.count ')' + 1 := by
  have hbody : body.count ')' = 0 := List.count_eq_zero.2 h.body_plain
  rw [closings, h.text_eq, (takeWhile_dropWhile_append h.name_plain _).2,
    List.count_cons_of_ne (by decide), List.count_append, List.count_cons_self, hbody, Nat.zero_add]

/-- Nothing is left over behind a call exactly if only one parenthesis is closed. -/
theorem CallForm.left_eq_nil_iff (h : CallForm text name body left) :
    left = [] ↔ closings text = 1 := by
  rw [h.closings_eq]
  constructor
  · rintro rfl
    rfl
  · intro hone
    have hnone : ')' ∉ left := List.count_eq_zero.1 (by omega)
    exact h.left_ends.resolve_right fun hends => hnone (List.mem_of_getLast? hends)

/-- A text is read as a call exactly if it is a name, its placeholders in parentheses, and anything
    that is nothing or ends in a closing parenthesis. It is the call alone exactly if there is one
    closing parenthesis behind the first opening one. -/
theorem call_texts_iff (text : List Char) (name : String) (params : List Placeholder) :
    (parse text = .ok (call name params) ↔
      ∃ body left, CallForm text name.toList body left ∧ ListsParams body params) ∧
    (parse text = .ok (call name params) →
      ((∃ body, CallForm text name.toList body [] ∧ ListsParams body params) ↔
        closings text = 1)) := by
  refine ⟨parse_eq_call_iff, fun h => ?_⟩
  obtain ⟨body, left, hform, hlists⟩ := parse_eq_call_iff.1 h
  constructor
  · rintro ⟨whole, hwhole, -⟩
    exact hwhole.left_eq_nil_iff.1 rfl
  · intro hone
    rw [hform.left_eq_nil_iff.2 hone] at hform
    exact ⟨body, hform, hlists⟩

/-- A call that is its whole text, blanks and zeros included, and the same call with something left
    over behind it. -/
theorem put_leaves_text_over : ∃ params : List Placeholder, params.map (·.number) = [3, 2] ∧
    (parse "put( %03 , %2 )".toList = .ok (call "put" params) ∧
      ∃ body, CallForm "put( %03 , %2 )".toList "put".toList body [] ∧ ListsParams body params) ∧
    (parse "put( %03 , %2 )(.x)".toList = .ok (call "put" params) ∧
      ¬ ∃ body, CallForm "put( %03 , %2 )(.x)".toList "put".toList body [] ∧
        ListsParams body params) := by
  refine ⟨[⟨3, by decide, by decide⟩, ⟨2, by decide, by decide⟩], rfl, ?_⟩
  have hwhole : parse "put( %03 , %2 )".toList =
      .ok (call "put" [⟨3, by decide, by decide⟩, ⟨2, by decide, by decide⟩]) := by decide +kernel
  have hleft : parse "put( %03 , %2 )(.x)".toList =
      .ok (call "put" [⟨3, by decide, by decide⟩, ⟨2, by decide, by decide⟩]) := by decide +kernel
  obtain ⟨-, hiff⟩ := call_texts_iff "put( %03 , %2 )".toList "put" _
  obtain ⟨-, hiff'⟩ := call_texts_iff "put( %03 , %2 )(.x)".toList "put" _
  exact ⟨⟨hwhole, (hiff hwhole).2 (by decide +kernel)⟩,
    hleft, fun h => absurd ((hiff' hleft).1 h) (by decide +kernel)⟩

/-- Not every text of a call ends with the first closing parenthesis behind its name. -/
theorem not_every_call_is_whole :
    ¬ ∀ (text : List Char) (name : String) (params : List Placeholder),
      parse text = .ok (call name params) →
        ∃ body, text = name.toList ++ '(' :: (body ++ [')']) ∧ ')' ∉ body := by
  intro h
  obtain ⟨body, htext, hplain⟩ :=
    h "m(%1)x)".toList "m" [⟨1, by decide, by decide⟩] (by decide +kernel)
  have hcount : "m(%1)x)".toList.count ')' = 2 := by decide +kernel
  have hname : "m".toList.count ')' = 0 := by decide +kernel
  rw [htext, List.count_append, hname, List.count_cons_of_ne (by decide), List.count_append,
    List.count_eq_zero.2 hplain] at hcount
  cases hcount

end Segment

end ObjectPath
