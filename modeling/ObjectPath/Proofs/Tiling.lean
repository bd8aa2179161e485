import ObjectPath.Proofs.Printing
import Mathlib.Data.List.Chain
import Mathlib.Data.String.Basic

/-!
# Segments tile the source

The offset of a segment is the number of bytes in front of its piece. It is added up on the way:
behind a piece comes the dot that ended it, and then perhaps a dot that is skipped. So the pieces
stand in the source one behind the other, from its first or second byte to its end, with one or two
dots between any two of them and nothing else, however many dots a piece has in parentheses and
however many bytes its characters take.

Results:
* `Text.isSlice_append`: a part of a text as a slice between two byte offsets.
* `Script.Cut.stands`, `Script.Cut.gaps`, `Script.Cut.ends`: where pieces stand, what is between
  them, and where the last one ends.
* `Script.segments_tile_source`: the same for the segments of any script that was read.
-/

namespace ObjectPath

/-! ## Slices -/

namespace Text

variable {offset start stop : Nat} {front part whole : List Char}

/-- The text is what stands in the source between two byte offsets, both of them between
    characters. -/
def IsSlice (source : String) (start stop : Nat) (text : String) : Prop :=
  String.Pos.Raw.IsValid source ⟨start⟩ ∧ String.Pos.Raw.IsValid source ⟨stop⟩ ∧
    stop = start + text.utf8ByteSize ∧ String.Pos.Raw.extract source ⟨start⟩ ⟨stop⟩ = text

theorem isValid_byteCount (front back : List Char) :
    String.Pos.Raw.IsValid (String.ofList (front ++ back)) ⟨byteCount front⟩ := by
  refine String.Pos.Raw.isValid_iff_exists_append.2
    ⟨String.ofList front, String.ofList back, String.ofList_append, ?_⟩
  rw [byteCount_eq_utf8ByteSize]
  rfl

/-- A part of a text is a slice, from the size of what stands in front of it. -/
theorem isSlice_append (front part back : List Char) :
    IsSlice (String.ofList (front ++ part ++ back)) (byteCount front)
      (byteCount front + byteCount part) (String.ofList part) := by
  refine ⟨?_, ?_, ?_, ?_⟩
  · rw [List.append_assoc]
    exact isValid_byteCount front (part ++ back)
  · rw [← byteCount_append]
    exact isValid_byteCount (front ++ part) back
  · rw [byteCount_eq_utf8ByteSize part]
  · have hsize (cs : List Char) : byteCount cs = String.utf8Len cs := by
      rw [byteCount_eq_utf8ByteSize, String.utf8ByteSize_ofList]
    rw [hsize, hsize]
    exact String.extract_of_valid front part back

/-- The part stands in the whole, which starts at the given offset, between two byte offsets. -/
def Stands (offset : Nat) (whole : List Char) (start stop : Nat) (part : List Char) : Prop :=
  ∃ front back, whole = front ++ part ++ back ∧ start = offset + byteCount front ∧
    stop = start + byteCount part

theorem Stands.behind (front : List Char)
    (h : Stands (offset + byteCount front) whole start stop part) :
    Stands offset (front ++ whole) start stop part := by
  obtain ⟨before, back, rfl, rfl, rfl⟩ := h
  refine ⟨front ++ before, back, ?_, ?_, rfl⟩
  · simp only [List.append_assoc]
  · rw [byteCount_append, Nat.add_assoc]

theorem Stands.isSlice {source : String} (h : Stands 0 source.toList start stop part) :
    IsSlice source start stop (String.ofList part) := by
  obtain ⟨front, back, hsource, rfl, rfl⟩ := h
  have hslice := isSlice_append front part back
  rwa [← hsource, String.ofList_toList, ← Nat.zero_add (byteCount front)] at hslice

end Text

namespace Script

open Text

variable {offset start finish : Nat} {text lead rest part : List Char} {tiles : List Piece}

/-- The offset behind the piece. -/
def Piece.stop (p : Piece) : Nat := p.offset + byteCount p.text

/-! ## Where pieces stand -/

/-- What stands behind the first piece and its dot, stands in the text. -/
theorem stands_behind_piece
    (h : Stands (offset + byteCount lead + byteCount text + 1) rest start finish part) :
    Stands offset (lead ++ (text ++ '.' :: rest)) start finish part := by
  have hsize : byteCount (lead ++ (text ++ ['.'])) = byteCount lead + byteCount text + 1 := by
    rw [byteCount_append, byteCount_append, Nat.add_assoc]
    rfl
  have hwhole : lead ++ (text ++ '.' :: rest) = lead ++ (text ++ ['.']) ++ rest := by simp
  rw [hwhole]
  apply Stands.behind
  rwa [hsize, ← Nat.add_assoc, ← Nat.add_assoc]

theorem Cut.stands (h : Cut offset text tiles) :
    ∀ p ∈ tiles, Stands offset text p.offset p.stop p.text := by
  induction h with
  | @last offset depth lead text hlead hne hopen =>
    rw [List.forall_mem_singleton]
    exact ⟨lead, [], (List.append_nil _).symm, rfl, rfl⟩
  | @more offset lead text rest tiles hlead hne hclosed hrest ih =>
    refine List.forall_mem_cons.2 ⟨⟨lead, '.' :: rest, ?_, rfl, rfl⟩, fun p hp => ?_⟩
    · rw [List.append_assoc]
    · exact stands_behind_piece (ih p hp)

/-- The first piece comes behind at most one dot. -/
theorem Cut.begins (h : Cut offset text tiles) :
    ∃ first ∈ tiles.head?, ∃ lead back, IsLead lead ∧ text = lead ++ back ∧
      first.offset = offset + byteCount lead := by
  cases h with
  | @last _ _ lead text hlead => exact ⟨_, rfl, lead, text, hlead, rfl, rfl⟩
  | @more _ lead text rest _ hlead => exact ⟨_, rfl, lead, text ++ '.' :: rest, hlead, rfl, rfl⟩

/-- Between two pieces stand the dot that ends the first one and at most one more. -/
theorem Cut.gaps (h : Cut offset text tiles) :
    tiles.IsChain fun p q => ∃ lead, IsLead lead ∧
      Stands offset text p.stop q.offset ('.' :: lead) := by
  induction h with
  | last => exact List.isChain_singleton _
  | @more offset lead text rest tiles hlead hne hclosed hrest ih =>
    refine List.isChain_cons.2 ⟨fun second hsecond => ?_, ih.imp ?_⟩
    · obtain ⟨first, hfirst, dots, back, hdots, rfl, hoffset⟩ := hrest.begins
      obtain rfl : first = second := Option.mem_unique hfirst hsecond
      refine ⟨dots, hdots, lead ++ text, back, ?_, ?_, ?_⟩
      · simp
      · rw [Piece.stop, byteCount_append, Nat.add_assoc]
      · rw [hoffset, Piece.stop, byteCount_cons, Nat.add_assoc]
        rfl
    · rintro p q ⟨dots, hdots, hstands⟩
      exact ⟨dots, hdots, stands_behind_piece hstands⟩

/-- The last piece ends where the text ends. -/
theorem Cut.ends (h : Cut offset text tiles) :
    ∃ last ∈ tiles.getLast?, last.stop = offset + byteCount text := by
  induction h with
  | @last offset depth lead text hlead hne hopen =>
    refine ⟨⟨offset + byteCount lead, text⟩, rfl, ?_⟩
    rw [Piece.stop, byteCount_append, Nat.add_assoc]
  | @more offset lead text rest tiles hlead hne hclosed hrest ih =>
    obtain ⟨last, hlast, hstop⟩ := ih
    have hne : tiles ≠ [] := by
      rintro rfl
      cases hlast
    refine ⟨last, ?_, ?_⟩
    · rwa [List.getLast?_cons_of_ne_nil hne]
    · have hdot : '.'.utf8Size = 1 := rfl
      rw [hstop, byteCount_append, byteCount_append, byteCount_cons, hdot]
      omega

/-- The segments of a script that was read stand in its source, one behind the other: the first of
    them behind at most one dot, between any two of them one or two dots, and the last one at the
    end. Their names are not empty and have no dots, and names of methods have no opening
    parentheses. -/
theorem segments_tile_source {source : String} {script : Script}
    (h : Script.parse source = .ok script) :
    ∃ tiles : List Piece,
      List.Forall₂ (fun p placed => p.offset = placed.offset ∧
        IsSlice source p.offset p.stop (String.ofList p.text) ∧
        Segment.parse p.text = .ok placed.segment) tiles script.segments ∧
      (∃ first ∈ tiles.head?, ∃ dots ∈ ["", "."], IsSlice source 0 first.offset dots) ∧
      tiles.IsChain (fun p q => ∃ dots ∈ [".", ".."], IsSlice source p.stop q.offset dots) ∧
      (∃ last ∈ tiles.getLast?, last.stop = source.utf8ByteSize) ∧
      script.segments ≠ [] ∧
      ∀ placed ∈ script.segments, placed.segment.name ≠ "" ∧
        '.' ∉ placed.segment.name.toList ∧
        (placed.segment.isCall = true → '(' ∉ placed.segment.name.toList) := by
  have hprintable := printable_of_parse h
  obtain ⟨-, tiles, hcut, hread⟩ := parse_eq_ok_iff.1 h
  refine ⟨tiles, ?tiles, ?first, ?gaps, ?last, ?some, ?names⟩
  case tiles =>
    have hboth := (List.forall₂_and_left _ _).2 ⟨hcut.stands, hread⟩
    exact hboth.imp fun p placed h => ⟨h.2.1.symm, h.1.isSlice, h.2.2⟩
  case first =>
    obtain ⟨first, hfirst, lead, back, hlead, htext, hoffset⟩ := hcut.begins
    have hstands : Stands 0 source.toList 0 first.offset lead := ⟨[], back, htext, rfl, hoffset⟩
    refine ⟨first, hfirst, String.ofList lead, ?_, hstands.isSlice⟩
    rcases hlead with rfl | rfl <;> simp
  case gaps =>
    refine hcut.gaps.imp ?_
    rintro p q ⟨lead, hlead, hstands⟩
    refine ⟨String.ofList ('.' :: lead), ?_, hstands.isSlice⟩
    rcases hlead with rfl | rfl <;> simp
  case last =>
    obtain ⟨last, hlast, hstop⟩ := hcut.ends
    refine ⟨last, hlast, ?_⟩
    rw [hstop, byteCount_eq_utf8ByteSize, String.ofList_toList, Nat.zero_add]
  case some => exact mt List.map_eq_nil_iff.2 hprintable.ne_nil
  case names =>
    intro placed hplaced
    exact (hprintable.readable _ (List.mem_map_of_mem hplaced)).name

/-- The two dots in front of the call belong to no segment, the dot in its parentheses does, and the
    name before it has eight bytes in six characters. -/
theorem untidy_segments_tile_source :
    Script.parse Sample.untidy.source = .ok Sample.untidy ∧
    ∃ field call last : Piece, field.offset = 1 ∧ call.offset = 11 ∧ last.offset = 31 ∧
      IsSlice Sample.untidy.source 1 field.stop (String.ofList field.text) ∧
      (∃ dots ∈ [".", ".."], IsSlice Sample.untidy.source field.stop 11 dots) ∧
      (∃ dots ∈ [".", ".."], IsSlice Sample.untidy.source call.stop 31 dots) ∧
      last.stop = 36 := by
  refine ⟨parse_untidy, ?_⟩
  obtain ⟨tiles, hread, -, hgaps, ⟨last, hlast, hstop⟩, -⟩ := segments_tile_source parse_untidy
  obtain ⟨field, _, ⟨hfield, hslice, -⟩, hafter, rfl⟩ := List.forall₂_cons_right_iff.1 hread
  obtain ⟨call, _, ⟨hcall, -⟩, hbehind, rfl⟩ := List.forall₂_cons_right_iff.1 hafter
  obtain ⟨final, _, ⟨hfinal, -⟩, hnone, rfl⟩ := List.forall₂_cons_right_iff.1 hbehind
  obtain rfl := List.forall₂_nil_right_iff.1 hnone
  obtain ⟨hfirstGap, hlater⟩ := List.isChain_cons_cons.1 hgaps
  obtain ⟨hsecondGap, -⟩ := List.isChain_cons_cons.1 hlater
  obtain rfl : final = last := Option.some.inj hlast
  rw [hfield] at hslice
  rw [hcall] at hfirstGap
  rw [hfinal] at hsecondGap
  exact ⟨field, call, final, hfield, hcall, hfinal, hslice, hfirstGap, hsecondGap, hstop⟩

end Script

end ObjectPath
