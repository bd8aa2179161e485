import ObjectPath.Proofs.Cutting
import Mathlib.Algebra.GroupWithZero.Nat
import Mathlib.Data.List.TakeWhile

/-!
# Printing scripts and reading them again

Printing writes the segments of a script one behind the other, with a dot between any two of them.
Reading cuts the text at its dots outside parentheses, so the segments come back if every one of
them stays in one piece, and if the next dot behind it ends this piece. A call stays in one piece,
because its name has no dot and no opening parenthesis, and the parentheses around its placeholders
are closed again. A field can leave parentheses open, as in `len(`. It then takes in all that
follows it, which must not have a dot; such a field is the last segment of any script that was read.

Results:
* `Placeholder.parse_print`, `Segment.Readable.parse_print`: one placeholder and one segment come
  back.
* `Segment.readable_of_parse`: what is read from a piece can be printed.
* `Script.Printable`, `Script.Printable.parse_print`: the segments that come back from their text.
* `Script.Cut.printable`: the segments of a script that was read are printable.
* `Script.printed_segments_are_read_back`, `Script.printed_script_is_canonical`.
-/

namespace ObjectPath

namespace Text

theorem mem_of_mem_intercalate {names : List (List Char)} {c separator : Char}
    (h : c ∈ [separator].intercalate names) : c = separator ∨ ∃ name ∈ names, c ∈ name := by
  induction names with
  | nil => simp [List.intercalate] at h
  | cons name rest ih =>
    cases rest with
    | nil =>
      rw [List.intercalate_singleton] at h
      exact .inr ⟨name, List.mem_singleton_self _, h⟩
    | cons next others =>
      rw [List.intercalate_cons_cons, List.append_assoc, List.mem_append] at h
      rcases h with h | h
      · exact .inr ⟨name, List.mem_cons_self, h⟩
      · rcases List.mem_cons.1 h with h | h
        · exact .inl h
        · rcases ih h with h | ⟨other, hother, h⟩
          · exact .inl h
          · exact .inr ⟨other, List.mem_cons_of_mem _ hother, h⟩

theorem trim_of_no_blanks {cs : List Char} (h : ∀ c ∈ cs, isBlank c = false) : trim cs = cs :=
  trim_of_no_blank_ends (fun c hc => h c (List.mem_of_mem_head? hc))
    fun c hc => h c (List.mem_of_getLast? hc)

theorem isBlank_of_isDigit {c : Char} (h : c.isDigit = true) : isBlank c = false := by
  have hrange : 48 ≤ c.toNat ∧ c.toNat ≤ 57 := by
    simpa [Char.isDigit, UInt32.le_iff_toNat_le] using h
  simp [isBlank, CodeRanges.has, blankRanges]
  omega

end Text

/-! ## Placeholders -/

namespace Placeholder

theorem mem_print {p : Placeholder} {c : Char} (h : c ∈ p.print) : c = '%' ∨ c.isDigit = true := by
  rcases List.mem_cons.1 h with h | h
  · exact .inl h
  · exact .inr (Nat.isDigit_of_mem_toDigits (by decide) (by decide) h)

theorem isBlank_of_mem_print {p : Placeholder} {c : Char} (h : c ∈ p.print) :
    Text.isBlank c = false := by
  rcases mem_print h with rfl | h
  · decide
  · exact Text.isBlank_of_isDigit h

/-- The characters that a call is cut at are in no placeholder. -/
theorem ne_of_mem_print {p : Placeholder} {c : Char} (h : c ∈ p.print) :
    c ≠ '.' ∧ c ≠ '(' ∧ c ≠ ')' ∧ c ≠ ',' := by
  rcases mem_print h with rfl | h
  · decide
  · refine ⟨?_, ?_, ?_, ?_⟩ <;>
      · rintro rfl
        cases h

theorem ofToken?_print (p : Placeholder) : ofToken? p.print = some p := by
  have hvalue : digitsValue (Nat.toDigits 10 p.number) = p.number :=
    Nat.ofDigitChars_toDigits (by decide) (by decide)
  have hdigits : (Nat.toDigits 10 p.number).all Char.isDigit = true :=
    List.all_eq_true.2 fun c hc => Nat.isDigit_of_mem_toDigits (by decide) (by decide) hc
  rw [print, ofToken?, if_pos ⟨Nat.toDigits_ne_nil, hdigits⟩, hvalue, new?_number]

/-- A printed placeholder is read as itself. -/
theorem parse_print (p : Placeholder) : parse p.print = .ok p := by
  rw [parse, Text.trim_of_no_blanks fun c hc => isBlank_of_mem_print hc, ofToken?_print]

/-- The text of the placeholders of a call. -/
def printAll (params : List Placeholder) : List Char := [','].intercalate (params.map print)

theorem mem_printAll {params : List Placeholder} {c : Char} (h : c ∈ printAll params) :
    c = ',' ∨ ∃ p ∈ params, c ∈ p.print := by
  refine (Text.mem_of_mem_intercalate h).imp_right ?_
  rintro ⟨text, htext, hc⟩
  obtain ⟨p, hp, rfl⟩ := List.mem_map.1 htext
  exact ⟨p, hp, hc⟩

theorem ne_of_mem_printAll {params : List Placeholder} {c : Char} (h : c ∈ printAll params) :
    c ≠ '.' ∧ c ≠ '(' ∧ c ≠ ')' := by
  rcases mem_printAll h with rfl | ⟨p, -, hc⟩
  · decide
  · obtain ⟨hdot, hopening, hclosing, -⟩ := ne_of_mem_print hc
    exact ⟨hdot, hopening, hclosing⟩

theorem isBlank_of_mem_printAll {params : List Placeholder} {c : Char} (h : c ∈ printAll params) :
    Text.isBlank c = false := by
  rcases mem_printAll h with rfl | ⟨p, -, hc⟩
  · decide
  · exact isBlank_of_mem_print hc

theorem printAll_eq_nil_iff {params : List Placeholder} : printAll params = [] ↔ params = [] := by
  rcases params with _ | ⟨p, _ | ⟨q, rest⟩⟩
  · simp [printAll]
  · simp [printAll, print]
  · simp [printAll, print, List.intercalate_cons_cons]

end Placeholder

/-! ## Segments -/

namespace Segment

open Placeholder

variable {text : List Char} {s : Segment}

/-- Printed placeholders are read as themselves. -/
theorem parseParams_printAll (params : List Placeholder) :
    parseParams (printAll params) = .ok params := by
  have htrim : Text.trim (printAll params) = printAll params :=
    Text.trim_of_no_blanks fun c hc => isBlank_of_mem_printAll hc
  rw [parseParams, htrim]
  by_cases hnone : params = []
  · rw [if_pos (printAll_eq_nil_iff.2 hnone), hnone]
  · have hsplit : (printAll params).splitOn ',' = params.map Placeholder.print := by
      refine List.splitOn_intercalate ',' ?_ (mt List.map_eq_nil_iff.1 hnone)
      intro text htext hcomma
      obtain ⟨p, -, rfl⟩ := List.mem_map.1 htext
      exact (ne_of_mem_print hcomma).2.2.2 rfl
    rw [if_neg (mt printAll_eq_nil_iff.1 hnone), hsplit, Except.mapM_eq_ok_iff,
      List.forall₂_map_left_iff, List.forall₂_same]
    exact fun p _ => parse_print p

/-- The text of the segment is read as the segment. A name is not empty and has no dot; the name of
    a field does not look like a call, and that of a method has no opening parenthesis. -/
def Readable : Segment → Prop
  | field name => name ≠ "" ∧ '.' ∉ name.toList ∧ looksLikeCall name.toList = false
  | call name _ => name ≠ "" ∧ '.' ∉ name.toList ∧ '(' ∉ name.toList

theorem Readable.name (h : s.Readable) :
    s.name ≠ "" ∧ '.' ∉ s.name.toList ∧ (s.isCall = true → '(' ∉ s.name.toList) := by
  cases s with
  | field name => exact ⟨h.1, h.2.1, fun hcall => absurd hcall Bool.false_ne_true⟩
  | call name params => exact ⟨h.1, h.2.1, fun _ => h.2.2⟩

theorem print_call (name : String) (params : List Placeholder) :
    (call name params).print = name.toList ++ '(' :: (printAll params ++ [')']) := by
  simp [print, printAll]

theorem looksLikeCall_print (name : String) (params : List Placeholder) :
    looksLikeCall (call name params).print = true := by
  have hlast : (call name params).print.getLast? = some ')' := by
    rw [print_call, ← List.cons_append, ← List.append_assoc, List.getLast?_concat]
  have hmem : (call name params).print.contains '(' = true := by simp [print_call]
  rw [looksLikeCall, hlast, hmem]
  rfl

/-- The first parenthesis of its kind cuts a text in two. -/
theorem takeWhile_dropWhile_append {c : Char} {front : List Char} (h : c ∉ front)
    (tail : List Char) :
    (front ++ c :: tail).takeWhile (· != c) = front ∧
      (front ++ c :: tail).dropWhile (· != c) = c :: tail := by
  have hfront : ∀ d ∈ front, (d != c) = true := by
    intro d hd
    rw [bne_iff_ne]
    rintro rfl
    exact h hd
  rw [List.takeWhile_append_of_pos hfront, List.dropWhile_append_of_pos hfront]
  simp

/-- A printed segment is read as itself. -/
theorem Readable.parse_print (h : s.Readable) : parse s.print = .ok s := by
  cases s with
  | field name =>
    obtain ⟨hname, hdot, hcall⟩ := h
    have hne : name.toList ≠ [] := by simpa using hname
    have hnodot : name.toList.contains '.' = false := by simpa using hdot
    show parse name.toList = _
    rw [parse, if_neg hne, hcall, if_neg Bool.false_ne_true, hnodot, if_neg Bool.false_ne_true,
      String.ofList_toList]
  | call name params =>
    obtain ⟨hname, -, hopening⟩ := h
    have hne : name.toList ≠ [] := by simpa using hname
    have hcall := looksLikeCall_print name params
    have hclosing : ')' ∉ printAll params := fun hmem => (ne_of_mem_printAll hmem).2.2 rfl
    obtain ⟨hbefore, hbehind⟩ := takeWhile_dropWhile_append hopening (printAll params ++ [')'])
    obtain ⟨hinside, -⟩ := takeWhile_dropWhile_append hclosing []
    have hcallName : callName (call name params).print = name.toList := by
      rw [callName, print_call, hbefore]
    have hbody : callBody (call name params).print = printAll params := by
      rw [callBody, print_call, hbehind, List.drop_one, List.tail_cons, hinside]
    have hprint : (call name params).print ≠ [] := by simp [print_call]
    rw [parse, if_neg hprint, if_pos hcall, hcallName, if_neg hne, hbody, parseParams_printAll,
      String.ofList_toList]
    rfl

/-- What a text must be like to be read as a segment. -/
theorem parse_cases (h : parse text = .ok s) :
    (s = field (String.ofList text) ∧ text ≠ [] ∧ '.' ∉ text ∧ looksLikeCall text = false) ∨
    ∃ params, s = call (String.ofList (callName text)) params ∧ callName text ≠ [] := by
  unfold parse at h
  split at h
  · cases h
  · next hne =>
    split at h
    · split at h
      · cases h
      · next hname =>
        obtain ⟨params, -, rfl⟩ := Except.map_eq_ok_iff.1 h
        exact .inr ⟨params, rfl, hname⟩
    · next hcall =>
      split at h
      · cases h
      · next hdot =>
        cases h
        exact .inl ⟨rfl, hne, by simpa using hdot, Bool.eq_false_iff.2 hcall⟩

/-- What is read from a text that is not cut inside can be printed. -/
theorem readable_of_parse {depth : Nat} (h : parse text = .ok s)
    (hopen : Script.openAfter 0 text = some depth) : s.Readable := by
  obtain ⟨rfl, hne, hdot, hcall⟩ | ⟨params, rfl, hname⟩ := parse_cases h
  · exact ⟨by simpa using hne, by simpa using hdot, by simpa using hcall⟩
  · have hopening : '(' ∉ callName text := by
      intro hmem
      simpa using List.mem_takeWhile_imp hmem
    have hdot : '.' ∉ callName text := by
      have huncut : Script.openAfter 0 (callName text ++ text.dropWhile (· != '(')) ≠ none := by
        rw [callName, List.takeWhile_append_dropWhile, hopen]
        exact Option.some_ne_none depth
      exact Script.no_dot_of_openAfter huncut hopening
    exact ⟨by simpa using hname, by simpa using hdot, by simpa using hopening⟩

/-! ### Parentheses in a printed segment -/

open Script (openAfter openAfter_append openAfter_of_plain openAfter_of_no_parentheses)

theorem Readable.print_ne_nil (h : s.Readable) : s.print ≠ [] := by
  cases s with
  | field name => simpa [print] using h.1
  | call name params => simp [print_call]

/-- A name without dots and opening parentheses leaves none open. -/
theorem openAfter_name {name : String} (hdot : '.' ∉ name.toList) (hopening : '(' ∉ name.toList) :
    openAfter 0 name.toList = some 0 := by
  refine openAfter_of_plain fun c hc => ⟨?_, ?_⟩
  · rintro rfl
    exact hdot hc
  · rintro rfl
    exact hopening hc

/-- A call closes its parentheses, also if it has no name. -/
theorem openAfter_call {name : String} (params : List Placeholder) (hdot : '.' ∉ name.toList)
    (hopening : '(' ∉ name.toList) : openAfter 0 (call name params).print = some 0 := by
  have hbody : openAfter 1 (printAll params) = some 1 :=
    openAfter_of_no_parentheses (fun c hc => ne_of_mem_printAll hc) 1
  rw [print_call, openAfter_append, openAfter_name hdot hopening]
  show openAfter 1 (printAll params ++ [')']) = some 0
  rw [openAfter_append, hbody]
  rfl

theorem openAfter_print_call {name : String} {params : List Placeholder}
    (h : (call name params).Readable) : openAfter 0 (call name params).print = some 0 :=
  openAfter_call params h.2.1 h.2.2

/-- No dot cuts a printed segment. -/
theorem Readable.openAfter_print (h : s.Readable) : ∃ depth, openAfter 0 s.print = some depth := by
  cases s with
  | field name => exact Script.openAfter_of_no_dot h.2.1 0
  | call name params => exact ⟨0, openAfter_print_call h⟩

/-- If a text closes its parentheses, then so does the segment read from it. -/
theorem openAfter_print_of_parse (h : parse text = .ok s) (hclosed : openAfter 0 text = some 0) :
    openAfter 0 s.print = some 0 := by
  have hreadable := readable_of_parse h hclosed
  obtain ⟨rfl, -⟩ | ⟨params, rfl, -⟩ := parse_cases h
  · show openAfter 0 (String.ofList text).toList = some 0
    rwa [String.toList_ofList]
  · exact openAfter_print_call hreadable

/-- A segment whose name has neither dots nor opening parentheses can be printed anywhere. -/
theorem readable_of_name (hne : s.name ≠ "") (hdot : '.' ∉ s.name.toList)
    (hopening : '(' ∉ s.name.toList) : s.Readable ∧ openAfter 0 s.print = some 0 := by
  cases s with
  | field name =>
    have hcontains : name.toList.contains '(' = false := by
      simpa using show '(' ∉ name.toList from hopening
    have hcall : looksLikeCall name.toList = false := by
      rw [looksLikeCall, hcontains, Bool.false_and]
    exact ⟨⟨hne, hdot, hcall⟩, openAfter_name hdot hopening⟩
  | call name params =>
    have hreadable : (call name params).Readable := ⟨hne, hdot, hopening⟩
    exact ⟨hreadable, openAfter_print_call hreadable⟩

end Segment

/-! ## Scripts -/

namespace Script

open Text

variable {offset : Nat} {text : List Char} {segments : List Segment} {tiles : List Piece}

/-- Printed one behind the other, the segments can be told apart: each of them can be read, and all
    but the last close their parentheses. -/
inductive Printable : List Segment → Prop
  | last {s : Segment} (hread : s.Readable) : Printable [s]
  | more {s : Segment} {rest : List Segment} (hread : s.Readable)
      (hclosed : openAfter 0 s.print = some 0) (hrest : Printable rest) : Printable (s :: rest)

/-- The segments with their offsets in the text that begins with them at the given offset. -/
def place : Nat → List Segment → List PlacedSegment
  | _, [] => []
  | offset, s :: rest => ⟨offset, s⟩ :: place (offset + byteCount s.print + 1) rest

theorem map_segment_place (offset : Nat) (segments : List Segment) :
    (place offset segments).map (·.segment) = segments := by
  induction segments generalizing offset with
  | nil => rfl
  | cons s rest ih => rw [place, List.map_cons, ih]

/-- The text of a placed segment, at its offset. -/
def pieceOf (placed : PlacedSegment) : Piece := ⟨placed.offset, placed.segment.print⟩

theorem printSegments_cons {s : Segment} {rest : List Segment} (h : rest ≠ []) :
    printSegments (s :: rest) = s.print ++ '.' :: printSegments rest := by
  obtain ⟨next, others, rfl⟩ := List.exists_cons_of_ne_nil h
  simp [printSegments, List.intercalate_cons_cons]

theorem Printable.ne_nil (h : Printable segments) : segments ≠ [] := by
  cases h <;> simp

/-- The printed text consists of the printed segments. -/
theorem Printable.cut (h : Printable segments) (offset : Nat) :
    Cut offset (printSegments segments) ((place offset segments).map pieceOf) := by
  induction h generalizing offset with
  | @last s hread =>
    obtain ⟨depth, hopen⟩ := hread.openAfter_print
    have htext : printSegments [s] = s.print := by simp [printSegments]
    rw [htext]
    exact .last (.inl rfl) hread.print_ne_nil hopen
  | @more s rest hread hclosed hrest ih =>
    rw [printSegments_cons hrest.ne_nil]
    exact .more (.inl rfl) hread.print_ne_nil hclosed (ih _)

theorem Printable.readable (h : Printable segments) : ∀ s ∈ segments, s.Readable := by
  induction h with
  | last hread => simpa using hread
  | more hread _ _ ih => exact List.forall_mem_cons.2 ⟨hread, ih⟩

/-- Printed segments are read as themselves, at the offsets of their texts. -/
theorem Printable.parse_print (h : Printable segments) :
    Script.parse (String.ofList (printSegments segments)) =
      .ok ⟨String.ofList (printSegments segments), place 0 segments⟩ := by
  refine parse_eq_ok_iff.2 ⟨rfl, (place 0 segments).map pieceOf, ?_, ?_⟩
  · rw [String.toList_ofList]
    exact h.cut 0
  · rw [List.forall₂_map_left_iff, List.forall₂_same]
    intro placed hplaced
    have hsegment : placed.segment ∈ segments := by
      rw [← map_segment_place 0 segments]
      exact List.mem_map_of_mem hplaced
    exact ⟨rfl, (h.readable _ hsegment).parse_print⟩

/-- The segments that a text was read as can be printed. -/
theorem Cut.printable {placed : List PlacedSegment} (h : Cut offset text tiles)
    (hread : List.Forall₂ Piece.ReadAs tiles placed) : Printable (placed.map (·.segment)) := by
  induction h generalizing placed with
  | last hlead hne hopen =>
    obtain ⟨first, _, ⟨-, hfirst⟩, hnone, rfl⟩ := List.forall₂_cons_left_iff.1 hread
    rw [List.forall₂_nil_left_iff.1 hnone]
    exact .last (Segment.readable_of_parse hfirst hopen)
  | more hlead hne hclosed hrest ih =>
    obtain ⟨first, rest, ⟨-, hfirst⟩, hothers, rfl⟩ := List.forall₂_cons_left_iff.1 hread
    exact .more (Segment.readable_of_parse hfirst hclosed)
      (Segment.openAfter_print_of_parse hfirst hclosed) (ih hothers)

theorem printable_of_parse {source : String} {script : Script}
    (h : Script.parse source = .ok script) : Printable (script.segments.map (·.segment)) := by
  obtain ⟨-, tiles, hcut, hread⟩ := parse_eq_ok_iff.1 h
  exact hcut.printable hread

/-- The offset of a printed segment: all the texts in front of it, and a dot behind each of them. -/
theorem offset_place {i : Nat} {placed : PlacedSegment}
    (h : (place offset segments)[i]? = some placed) :
    placed.offset = offset + ((segments.take i).map fun s => byteCount s.print).sum + i := by
  induction segments generalizing offset i with
  | nil => simp [place] at h
  | cons s rest ih =>
    cases i with
    | zero =>
      obtain rfl : ⟨offset, s⟩ = placed := by simpa [place] using h
      simp
    | succ i =>
      rw [place, List.getElem?_cons_succ] at h
      rw [ih h, List.take_succ_cons, List.map_cons, List.sum_cons]
      omega

theorem printable_of_names (hne : segments ≠ [])
    (hnames : ∀ s ∈ segments, s.name ≠ "" ∧ '.' ∉ s.name.toList ∧ '(' ∉ s.name.toList) :
    Printable segments := by
  induction segments with
  | nil => exact absurd rfl hne
  | cons s rest ih =>
    obtain ⟨⟨hname, hdot, hopening⟩, hrest⟩ := List.forall_mem_cons.1 hnames
    obtain ⟨hread, hclosed⟩ := Segment.readable_of_name hname hdot hopening
    by_cases hend : rest = []
    · rw [hend]
      exact .last hread
    · exact .more hread hclosed (ih hend hrest)

/-- Segments whose names are not empty and have neither dots nor opening parentheses are read back
    from their printed text, each of them at the total size in bytes of those before it and their
    dots. -/
theorem printed_segments_are_read_back (segments : List Segment) (hne : segments ≠ [])
    (hnames : ∀ s ∈ segments, s.name ≠ "" ∧ '.' ∉ s.name.toList ∧ '(' ∉ s.name.toList) :
    ∃ script, Script.parse (String.ofList (printSegments segments)) = .ok script ∧
      script.segments.map (·.segment) = segments ∧
      ∀ i placed, script.segments[i]? = some placed →
        placed.offset = ((segments.take i).map fun s => s.text.utf8ByteSize).sum + i := by
  have hprintable := printable_of_names hne hnames
  refine ⟨_, hprintable.parse_print, map_segment_place 0 segments, fun i placed hplaced => ?_⟩
  have hoffset := offset_place hplaced
  simp only [byteCount_eq_utf8ByteSize, Nat.zero_add] at hoffset
  exact hoffset

namespace Sample

/-- Segments with strange names and with the greatest placeholder that there is. -/
def strange : List Segment :=
  [.call "put)" [⟨2, by decide, by decide⟩, ⟨18446744073709551615, by decide, by decide⟩],
   .field "größe, %1", .call "%" []]

end Sample

theorem strange_names_are_read_back :
    Sample.strange ≠ [] ∧
    (∀ s ∈ Sample.strange, s.name ≠ "" ∧ '.' ∉ s.name.toList ∧ '(' ∉ s.name.toList) ∧
    ∃ script, Script.parse "put)(%2,%18446744073709551615).größe, %1.%()" = .ok script ∧
      script.segments.map (·.segment) = Sample.strange ∧
      ∀ placed, script.segments[2]? = some placed → placed.offset = 43 := by
  have hne : Sample.strange ≠ [] := by decide
  have hnames : ∀ s ∈ Sample.strange, s.name ≠ "" ∧ '.' ∉ s.name.toList ∧ '(' ∉ s.name.toList := by
    decide +kernel
  have htext : String.ofList (printSegments Sample.strange) =
      "put)(%2,%18446744073709551615).größe, %1.%()" := by decide +kernel
  have hsize : ((Sample.strange.take 2).map fun s => s.text.utf8ByteSize).sum + 2 = 43 := by
    decide +kernel
  obtain ⟨script, hparse, hsegments, hoffsets⟩ :=
    printed_segments_are_read_back Sample.strange hne hnames
  refine ⟨hne, hnames, script, htext ▸ hparse, hsegments, fun placed hplaced => ?_⟩
  rw [hoffsets 2 placed hplaced, hsize]

/-- The text of any script that was read is read as the same segments, and so it is its own text. -/
theorem printed_script_is_canonical {source : String} {script : Script}
    (h : Script.parse source = .ok script) :
    ∃ again, Script.parse script.text = .ok again ∧
      again.segments.map (·.segment) = script.segments.map (·.segment) ∧
      again.text = script.text := by
  have hsegments := map_segment_place 0 (script.segments.map (·.segment))
  refine ⟨_, (printable_of_parse h).parse_print, hsegments, ?_⟩
  rw [text, hsegments, text]

namespace Sample

/-- A script with more dots, blanks and zeros than it needs, with something left over behind the
    placeholders of a call, and with parentheses that are not closed. -/
def untidy : Script where
  source := ".größe)..put( %03 , %2 )(.x).last("
  segments :=
    [⟨1, .field "größe)"⟩, ⟨11, .call "put" [⟨3, by decide, by decide⟩, ⟨2, by decide, by decide⟩]⟩,
     ⟨31, .field "last("⟩]

end Sample

theorem parse_untidy : Script.parse Sample.untidy.source = .ok Sample.untidy := by
  decide +kernel

theorem untidy_script_is_tidied :
    Script.parse Sample.untidy.source = .ok Sample.untidy ∧
    ∃ again, Script.parse "größe).put(%3,%2).last(" = .ok again ∧
      again.segments.map (·.segment) = Sample.untidy.segments.map (·.segment) ∧
      again.text = "größe).put(%3,%2).last(" := by
  have htext : Sample.untidy.text = "größe).put(%3,%2).last(" := by decide +kernel
  refine ⟨parse_untidy, ?_⟩
  rw [← htext]
  exact printed_script_is_canonical parse_untidy

end Script

end ObjectPath
