import ObjectPath.Text.CodeRange

/-!
# Blank characters

The twenty-five characters with the Unicode property `White_Space`, and the removal of
blanks at the two ends of a text.

* `trim_of_no_blank_ends`: a text with no blank at either end is its own trim.
* `exists_trim`, `trim_append`: a trim takes off blanks at the two ends, and no matter which.
-/

namespace ObjectPath.Text

/-- The code points with the property `White_Space`. -/
def blankRanges : CodeRanges :=
  [(0x9, 0xD), (0x20, 0x20), (0x85, 0x85), (0xA0, 0xA0), (0x1680, 0x1680), (0x2000, 0x200A),
   (0x2028, 0x2029), (0x202F, 0x202F), (0x205F, 0x205F), (0x3000, 0x3000)]

/-- The character is white space. -/
def isBlank (c : Char) : Bool := blankRanges.has c

/-- The text without the blanks at its two ends. -/
def trim (cs : List Char) : List Char :=
  ((cs.dropWhile isBlank).reverse.dropWhile isBlank).reverse

/-- The text without the blanks at its two ends, as a string. -/
def trimmed (s : String) : String := String.ofList (trim s.toList)

theorem trim_of_no_blank_ends {cs : List Char} (first : ∀ c, cs.head? = some c → isBlank c = false)
    (last : ∀ c, cs.getLast? = some c → isBlank c = false) : trim cs = cs := by
  have drop : ∀ l : List Char, (∀ c, l.head? = some c → isBlank c = false) →
      l.dropWhile isBlank = l := by
    intro l h
    cases l with
    | nil => rfl
    | cons c r => simp [h c rfl]
  rw [trim, drop cs first, drop cs.reverse (by simpa using last), List.reverse_reverse]

/-- What a trim takes off are blanks at the two ends. -/
theorem exists_trim (cs : List Char) :
    ∃ lead tail, cs = lead ++ (trim cs ++ tail) ∧ (∀ c ∈ lead, isBlank c = true) ∧
      ∀ c ∈ tail, isBlank c = true := by
  have hblank (l : List Char) : ∀ c ∈ l.takeWhile isBlank, isBlank c = true :=
    List.all_eq_true.1 List.all_takeWhile
  have hends (l : List Char) : l.takeWhile isBlank ++ l.dropWhile isBlank = l :=
    List.takeWhile_append_dropWhile
  refine ⟨cs.takeWhile isBlank, ((cs.dropWhile isBlank).reverse.takeWhile isBlank).reverse, ?_,
    hblank cs, fun c hc => hblank _ c (List.mem_reverse.1 hc)⟩
  rw [trim, ← List.reverse_append, hends, List.reverse_reverse, hends]

theorem trim_append {lead tail : List Char} (hlead : ∀ c ∈ lead, isBlank c = true)
    (htail : ∀ c ∈ tail, isBlank c = true) (cs : List Char) :
    trim (lead ++ (cs ++ tail)) = trim cs := by
  have hnone {l : List Char} (hl : ∀ c ∈ l, isBlank c = true) : l.dropWhile isBlank = [] := by
    rw [← List.append_nil l, List.dropWhile_append_of_pos hl, List.dropWhile_nil]
  rw [trim, List.dropWhile_append_of_pos hlead, List.dropWhile_append]
  split
  · next hempty =>
    rw [hnone htail, trim, List.isEmpty_iff.1 hempty]
  · rw [List.reverse_append, List.dropWhile_append_of_pos]
    · rfl
    · exact fun c hc => htail c (List.mem_reverse.1 hc)

theorem trim_eq_nil_iff {cs : List Char} : trim cs = [] ↔ ∀ c ∈ cs, isBlank c = true := by
  constructor
  · intro h
    obtain ⟨lead, tail, hcs, hlead, htail⟩ := exists_trim cs
    rw [h, List.nil_append] at hcs
    rw [hcs]
    intro c hc
    exact (List.mem_append.1 hc).elim (hlead c) (htail c)
  · intro h
    have hnone : ∀ c ∈ ([] : List Char), isBlank c = true := nofun
    have happend := trim_append h hnone []
    rwa [List.append_nil, List.append_nil] at happend

end ObjectPath.Text
