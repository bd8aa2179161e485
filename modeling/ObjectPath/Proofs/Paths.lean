import ObjectPath.Reflector
import ObjectPath.Text.Name
import ObjectPath.Proofs.Printing

/-!
# Field paths as scripts

A path is cut at every dot. A script is cut only at the dots outside parentheses, blanks around
it are dropped, and a piece may turn out to be a call. If the names of a path are identifiers,
there are no parentheses and no blanks in it, and the path read as a script is the same chain of
fields.

Results:
* `Text.isBlank_of_isNamePart`: no character of an identifier is blank.
* `Script.printable_of_identifiers`: joined identifiers are cut into the identifiers again.
* `Script.parse_path`: a path of identifiers is read as a script of fields.
* `ScriptOptions.prepare_path`: nothing is trimmed from it.
-/

namespace ObjectPath

/-! ## Identifiers -/

namespace Text

/-- The text begins like a name and goes on like one. -/
def isIdentifier : List Char → Bool
  | [] => false
  | c :: rest => isNameStart c && rest.all isNamePart

theorem isNamePart_of_mem {name : List Char} (h : isIdentifier name = true) :
    ∀ c ∈ name, isNamePart c = true := by
  cases name with
  | nil => simp [isIdentifier] at h
  | cons first rest =>
    simp only [isIdentifier, Bool.and_eq_true, List.all_eq_true] at h
    obtain ⟨hfirst, hrest⟩ := h
    intro c hc
    rcases List.mem_cons.1 hc with rfl | hc
    · exact isNamePart_of_isNameStart hfirst
    · exact hrest c hc

theorem ne_nil_of_isIdentifier {name : List Char} (h : isIdentifier name = true) : name ≠ [] := by
  rintro rfl
  cases h

/-- No interval of one set meets an interval of the other. -/
def CodeRanges.apart (a b : CodeRanges) : Bool :=
  a.all fun r => b.all fun s => r.2 < s.1 || s.2 < r.1

theorem CodeRanges.not_has_of_apart {a b : CodeRanges} (h : a.apart b = true) {c : Char}
    (ha : a.has c = true) : b.has c = false := by
  obtain ⟨r, hr, hrc⟩ := (has_iff a c).1 ha
  refine Bool.eq_false_iff.2 fun hb => ?_
  obtain ⟨s, hs, hsc⟩ := (has_iff b c).1 hb
  have hapart := List.all_eq_true.1 (List.all_eq_true.1 h r hr) s hs
  simp only [Bool.or_eq_true, decide_eq_true_eq] at hapart
  omega

theorem isBlank_of_isNamePart {c : Char} (h : isNamePart c = true) : isBlank c = false := by
  have hunderscore : isBlank '_' = false := by decide
  have hstart : nameStartRanges.apart blankRanges = true := by decide +kernel
  have hpart : namePartRanges.apart blankRanges = true := by decide +kernel
  simp only [isNamePart, isNameStart, Bool.or_eq_true, beq_iff_eq] at h
  rcases h with (rfl | h) | h
  · exact hunderscore
  · exact CodeRanges.not_has_of_apart hstart h
  · exact CodeRanges.not_has_of_apart hpart h

/-- The characters that a script is cut at are not in any identifier. -/
theorem ne_of_isNamePart {c : Char} (h : isNamePart c = true) : c ≠ '.' ∧ c ≠ '(' := by
  have hdot : isNamePart '.' = false := by decide +kernel
  have hparen : isNamePart '(' = false := by decide +kernel
  constructor
  · rintro rfl
    rw [hdot] at h
    cases h
  · rintro rfl
    rw [hparen] at h
    cases h

end Text

/-! ## Reading a path -/

namespace Script

open Text

theorem printable_of_identifiers {names : List (List Char)} (hne : names ≠ [])
    (h : ∀ name ∈ names, isIdentifier name = true) :
    Printable (names.map fun name => .field (String.ofList name)) := by
  refine printable_of_names (by simpa using hne) fun s hs => ?_
  obtain ⟨name, hname, rfl⟩ := List.mem_map.1 hs
  have hidentifier := h name hname
  have hplain : ∀ c ∈ name, c ≠ '.' ∧ c ≠ '(' := by
    intro c hc
    exact ne_of_isNamePart (isNamePart_of_mem hidentifier c hc)
  refine ⟨?_, ?_, ?_⟩
  · simpa [Segment.name] using ne_nil_of_isIdentifier hidentifier
  · simpa [Segment.name] using fun hdot => (hplain '.' hdot).1 rfl
  · simpa [Segment.name] using fun hopening => (hplain '(' hopening).2 rfl

/-- A path whose names are identifiers is read as a script: the fields of these names, in order. -/
theorem parse_path {path : String}
    (h : ∀ name ∈ parts '.' path, isIdentifier name.toList = true) :
    ∃ segments, Script.parse path = .ok ⟨path, segments⟩ ∧
      segments.map (·.segment) = (parts '.' path).map .field := by
  have hnames : ∀ name ∈ path.toList.splitOn '.', isIdentifier name = true := by
    intro name hname
    simpa using h _ (List.mem_map_of_mem hname)
  have hprintable := printable_of_identifiers (by simp) hnames
  have htext :
      printSegments ((path.toList.splitOn '.').map fun name => .field (String.ofList name)) =
        path.toList := by
    simp [printSegments, Segment.print, Function.comp_def]
  have hread := hprintable.parse_print
  rw [htext, String.ofList_toList] at hread
  refine ⟨_, hread, ?_⟩
  rw [map_segment_place, parts, List.map_map]
  rfl

end Script

/-- A path whose names are identifiers has no blanks to remove. -/
theorem ScriptOptions.prepare_path (options : ScriptOptions) {path : String}
    (h : ∀ name ∈ Text.parts '.' path, Text.isIdentifier name.toList = true) :
    options.prepare path = path := by
  have hblank : ∀ c ∈ path.toList, Text.isBlank c = false := by
    intro c hc
    have hjoin : ['.'].intercalate (path.toList.splitOn '.') = path.toList :=
      List.intercalate_splitOn '.'
    rw [← hjoin] at hc
    rcases Text.mem_of_mem_intercalate hc with rfl | ⟨name, hname, hc⟩
    · decide
    · have hidentifier : Text.isIdentifier name = true := by
        simpa using h _ (List.mem_map_of_mem hname)
      exact Text.isBlank_of_isNamePart (Text.isNamePart_of_mem hidentifier c hc)
  rw [prepare, Text.trimmed, Text.trim_of_no_blanks hblank, String.ofList_toList, ite_self]

end ObjectPath
