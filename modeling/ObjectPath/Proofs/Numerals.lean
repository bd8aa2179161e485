import ObjectPath.Proofs.CallForm

/-!
# Numerals of placeholders

The number of a placeholder is written in decimal digits, each of which counts for its value times
a power of ten. The digits are read from left to right instead, one after the other, and the number
read so far is multiplied by ten each time. Both come to the same number, whatever its size; only
then is it asked whether there is a placeholder of that number.

A number other than zero has one numeral without zeros in front, the printed one. So a placeholder
is spelled in as many ways as there are zeros behind its percent sign and blanks around it.

Results:
* `digitsValue_eq_numeralValue`: reading digits one by one gives the number that they denote.
* `exists_zeros`: a numeral is a printed number with zeros in front.
* `parse_eq_ok_iff_spells`, `parse_eq_error_iff`: when a token is a placeholder, and which one.
* `placeholders_are_spelled_numbers`: the same with all spellings of a placeholder.
-/

namespace ObjectPath.Placeholder

open Text

variable {token digits : List Char} {p : Placeholder}

/-! ## Digits -/

/-- The number that a digit stands for. -/
def digitValue (c : Char) : Nat := c.toNat - '0'.toNat

/-- The number that the digits denote: a digit counts for its value times ten to the power of the
    number of digits behind it. -/
def numeralValue : List Char → Nat
  | [] => 0
  | c :: behind => digitValue c * 10 ^ behind.length + numeralValue behind

theorem isDigit_iff {c : Char} : c.isDigit = true ↔ '0' ≤ c ∧ c ≤ '9' := by
  rw [Char.isDigit, Bool.and_eq_true, decide_eq_true_eq, decide_eq_true_eq]
  rfl

theorem digitsValue_eq_ofDigitChars (digits : List Char) :
    digitsValue digits = Nat.ofDigitChars 10 digits 0 := rfl

/-- Reading digits from left to right gives the number that they denote. -/
theorem digitsValue_eq_numeralValue (digits : List Char) :
    digitsValue digits = numeralValue digits := by
  rw [digitsValue_eq_ofDigitChars]
  induction digits with
  | nil => rfl
  | cons c behind ih =>
    rw [Nat.ofDigitChars_cons, Nat.ofDigitChars_eq_ofDigitChars_zero, ih, numeralValue, digitValue,
      Nat.mul_zero, Nat.zero_add, Nat.mul_comm]

/-! ## Zeros in front -/

/-- A digit is the numeral of its value. -/
theorem digitChar_digitValue {c : Char} (h : c.isDigit = true) :
    digitValue c < 10 ∧ (digitValue c).digitChar = c := by
  have hrange : 48 ≤ c.toNat ∧ c.toNat ≤ 57 := by
    simpa [Char.isDigit, UInt32.le_iff_toNat_le] using h
  have hvalue : digitValue c = c.toNat - 48 := rfl
  have hlt : digitValue c < 10 := by omega
  refine ⟨hlt, Char.toNat_inj.1 ?_⟩
  rw [Nat.toNat_digitChar_of_lt_ten hlt]
  omega

/-- Reading more digits behind a number other than zero puts them behind its numeral. -/
theorem toDigits_ofDigitChars (hdigits : ∀ c ∈ digits, c.isDigit = true) {n : Nat} (hn : 0 < n) :
    Nat.toDigits 10 (Nat.ofDigitChars 10 digits n) = Nat.toDigits 10 n ++ digits := by
  induction digits generalizing n with
  | nil => rw [Nat.ofDigitChars_nil, List.append_nil]
  | cons c behind ih =>
    obtain ⟨hc, hbehind⟩ := List.forall_mem_cons.1 hdigits
    obtain ⟨hlt, hchar⟩ := digitChar_digitValue hc
    have hpos : 0 < 10 * n + digitValue c := by omega
    have hone : Nat.toDigits 10 (10 * n + digitValue c) = Nat.toDigits 10 n ++ [c] := by
      rw [← Nat.toDigits_append_toDigits (by omega) hn hlt, Nat.toDigits_of_lt_base hlt, hchar]
    calc Nat.toDigits 10 (Nat.ofDigitChars 10 (c :: behind) n)
        = Nat.toDigits 10 (Nat.ofDigitChars 10 behind (10 * n + digitValue c)) := by
          rw [Nat.ofDigitChars_cons]
          rfl
      _ = Nat.toDigits 10 (10 * n + digitValue c) ++ behind := ih hbehind hpos
      _ = Nat.toDigits 10 n ++ c :: behind := by
          rw [hone, List.append_assoc, List.singleton_append]

/-- The digits of a number other than zero are its numeral, with zeros in front of it. The zeros
    are taken off one by one; what follows the first other digit is read behind that digit. -/
theorem exists_zeros (hdigits : ∀ c ∈ digits, c.isDigit = true) (hpos : 0 < digitsValue digits) :
    ∃ zeros, digits = List.replicate zeros '0' ++ Nat.toDigits 10 (digitsValue digits) := by
  induction digits with
  | nil => exact absurd hpos (Nat.lt_irrefl 0)
  | cons c behind ih =>
    obtain ⟨hc, hbehind⟩ := List.forall_mem_cons.1 hdigits
    have hvalue : digitsValue (c :: behind) = Nat.ofDigitChars 10 behind (digitValue c) := by
      rw [digitsValue_eq_ofDigitChars, Nat.ofDigitChars_cons, Nat.mul_zero, Nat.zero_add]
      rfl
    obtain ⟨hlt, hchar⟩ := digitChar_digitValue hc
    by_cases hzero : digitValue c = 0
    · have hskip : digitsValue (c :: behind) = digitsValue behind := by rw [hvalue, hzero]; rfl
      have hfirst : c = '0' := by rw [← hchar, hzero]; rfl
      rw [hskip] at hpos ⊢
      obtain ⟨zeros, hzeros⟩ := ih hbehind hpos
      refine ⟨zeros + 1, ?_⟩
      rw [List.replicate_succ, List.cons_append, ← hzeros, hfirst]
    · refine ⟨0, ?_⟩
      rw [hvalue, toDigits_ofDigitChars hbehind (Nat.pos_of_ne_zero hzero),
        Nat.toDigits_of_lt_base hlt, hchar]
      rfl

/-- Zeros in front of a numeral do not count. -/
theorem digitsValue_zeros (zeros n : Nat) :
    digitsValue (List.replicate zeros '0' ++ Nat.toDigits 10 n) = n := by
  rw [digitsValue_eq_ofDigitChars, Nat.ofDigitChars_append, Nat.ofDigitChars_replicate_zero,
    Nat.mul_zero, Nat.ofDigitChars_toDigits (by omega) (by omega)]

/-! ## Tokens -/

/-- Without the blanks at its two ends, the token is a percent sign and one or more of the digits
    from `0` to `9`, which denote the number. -/
def Spells (token : List Char) (n : Nat) : Prop :=
  ∃ digits, trim token = '%' :: digits ∧ digits ≠ [] ∧ (∀ c ∈ digits, '0' ≤ c ∧ c ≤ '9') ∧
    numeralValue digits = n

/-- A token spells at most one number. -/
theorem Spells.unique {m n : Nat} (hm : Spells token m) (hn : Spells token n) : m = n := by
  obtain ⟨digits, htrim, -, -, hvalue⟩ := hm
  obtain ⟨digits', htrim', -, -, hvalue'⟩ := hn
  have hsame : digits = digits' := by
    rw [htrim] at htrim'
    exact (List.cons.inj htrim').2
  rw [← hvalue, ← hvalue', hsame]

theorem ofToken?_eq_some_iff_spells : ofToken? (trim token) = some p ↔ Spells token p.number := by
  simp only [ofToken?_eq_some_iff, Spells, isDigit_iff, digitsValue_eq_numeralValue]

theorem parse_eq_ok_iff_spells : parse token = .ok p ↔ Spells token p.number := by
  rw [← ofToken?_eq_some_iff_spells, parse]
  cases ofToken? (trim token) with
  | none => simp
  | some q => rw [Except.ok.injEq, Option.some.injEq]

theorem exists_parse_iff :
    (∃ p, parse token = .ok p) ↔ ∃ n, Spells token n ∧ 1 ≤ n ∧ n ≤ 2 ^ 64 - 1 := by
  have hword : wordSize = 2 ^ 64 := rfl
  constructor
  · rintro ⟨p, hp⟩
    have hpos := p.number_pos
    have hlt := p.number_lt
    exact ⟨p.number, parse_eq_ok_iff_spells.1 hp, by omega, by omega⟩
  · rintro ⟨n, hn, hpos, hle⟩
    exact ⟨⟨n, by omega, by omega⟩, parse_eq_ok_iff_spells.2 hn⟩

/-- What is not a placeholder is reported as it was given. -/
theorem parse_eq_error_iff {reason : Reason} : parse token = .error reason ↔
    (¬ ∃ p, parse token = .ok p) ∧ reason = .malformedPlaceholder (String.ofList token) := by
  unfold parse
  cases ofToken? (trim token) with
  | none => simp [eq_comm]
  | some p => simp

/-- The ways to spell a number other than zero: its printed digits behind a percent sign and any
    number of zeros, between blanks. -/
theorem spells_iff {n : Nat} (hn : 0 < n) : Spells token n ↔ ∃ lead zeros tail,
    token = lead ++ ('%' :: (List.replicate zeros '0' ++ Nat.toDigits 10 n) ++ tail) ∧
      (∀ c ∈ lead, isBlank c = true) ∧ ∀ c ∈ tail, isBlank c = true := by
  constructor
  · rintro ⟨digits, htrim, -, hdigits, hvalue⟩
    simp only [← isDigit_iff] at hdigits
    rw [← digitsValue_eq_numeralValue] at hvalue
    obtain ⟨zeros, hzeros⟩ := exists_zeros hdigits (by omega)
    obtain ⟨lead, tail, htoken, hlead, htail⟩ := exists_trim token
    refine ⟨lead, zeros, tail, ?_, hlead, htail⟩
    rw [← hvalue, ← hzeros, ← htrim]
    exact htoken
  · rintro ⟨lead, zeros, tail, rfl, hlead, htail⟩
    have hdigits : ∀ c ∈ List.replicate zeros '0' ++ Nat.toDigits 10 n, c.isDigit = true := by
      intro c hc
      rcases List.mem_append.1 hc with hc | hc
      · rw [List.eq_of_mem_replicate hc]
        rfl
      · exact Nat.isDigit_of_mem_toDigits (by omega) (by omega) hc
    have hblank : ∀ c ∈ '%' :: (List.replicate zeros '0' ++ Nat.toDigits 10 n),
        isBlank c = false := by
      intro c hc
      rcases List.mem_cons.1 hc with rfl | hc
      · decide
      · exact isBlank_of_isDigit (hdigits c hc)
    have hne : List.replicate zeros '0' ++ Nat.toDigits 10 n ≠ [] :=
      List.append_ne_nil_of_right_ne_nil _ Nat.toDigits_ne_nil
    refine ⟨List.replicate zeros '0' ++ Nat.toDigits 10 n, ?_, hne,
      fun c hc => isDigit_iff.1 (hdigits c hc), ?_⟩
    · rw [trim_append hlead htail]
      exact trim_of_no_blanks hblank
    · rw [← digitsValue_eq_numeralValue, digitsValue_zeros]

/-- A token is a placeholder if and only if, without the blanks around it, it is a percent sign and
    decimal digits for a number from one to the largest word. The placeholder is that of this
    number, and stands for the argument one position less far along. Everything else is reported as
    it was given, with its blanks. A placeholder is read from its printed text, and from no other
    tokens but those with more zeros in front of the number and with blanks around it. -/
theorem placeholders_are_spelled_numbers (token : List Char) :
    ((∃ p, parse token = .ok p) ↔ ∃ n, Spells token n ∧ 1 ≤ n ∧ n ≤ 2 ^ 64 - 1) ∧
    (∀ p n, parse token = .ok p → Spells token n → p.number = n ∧ p.index = n - 1 ∧
      p.index + 1 = n) ∧
    (∀ reason, parse token = .error reason ↔ (¬ ∃ n, Spells token n ∧ 1 ≤ n ∧ n ≤ 2 ^ 64 - 1) ∧
      reason = .malformedPlaceholder (String.ofList token)) ∧
    ∀ p : Placeholder, parse p.print = .ok p ∧
      (parse token = .ok p ↔ ∃ lead zeros tail,
        token = lead ++ ('%' :: (List.replicate zeros '0' ++ Nat.toDigits 10 p.number) ++ tail) ∧
          (∀ c ∈ lead, isBlank c = true) ∧ ∀ c ∈ tail, isBlank c = true) := by
  refine ⟨exists_parse_iff, ?_, fun reason => ?_, fun p => ⟨parse_print p, ?_⟩⟩
  · intro p n hp hn
    have hnumber : p.number = n := (parse_eq_ok_iff_spells.1 hp).unique hn
    have hpos := p.number_pos
    have hindex : p.index = p.number - 1 := rfl
    exact ⟨hnumber, by omega, by omega⟩
  · rw [parse_eq_error_iff, exists_parse_iff]
  · rw [parse_eq_ok_iff_spells, spells_iff p.number_pos]

/-- Zeros and blanks of all kinds around the largest number, and the number behind it. -/
example : (parse "\u2003%00018446744073709551615\t".toList).map (·.number) =
      .ok 18446744073709551615 ∧
    parse " %18446744073709551616".toList =
      .error (.malformedPlaceholder " %18446744073709551616") := by
  decide +kernel

end ObjectPath.Placeholder
