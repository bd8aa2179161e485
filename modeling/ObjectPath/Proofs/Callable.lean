import ObjectPath.Proofs.MethodRules
import ObjectPath.Proofs.Paths
import ObjectPath.Proofs.Rejection

/-!
# Calling methods by their names

A script calls a method by its name, with the placeholders of its arguments in parentheses:
`name(%1,%2)`. The characters that the name of a method cannot have are those that would end it
earlier in such a script. A name may begin with blanks, though. A reflector that trims scripts
takes them off together with all other blanks in front of the script, and what it then reads is the
call of another name, or of none. A dot in front of the name keeps the blanks from being trimmed,
and it is skipped when the script is cut.

Blanks at the end of a name are safe, because the parentheses follow.

Results:
* `Text.trim_append_of_no_blank_ends`: only the blanks in front are trimmed from a text with a good
  end.
* `Reflector.readsCall_callScript_iff`: which call is read.
* `MethodBlock.isScriptName_of_table`: the names of all methods of a block are fit for scripts.
* `MethodBlock.methods_are_called_unless_trimmed`: which of the methods of a block are called by
  their names.
-/

namespace ObjectPath

/-! ## Blanks in front of a text -/

namespace Text

/-- The text begins with a blank. -/
def BeginsBlank (s : String) : Prop := ∃ c ∈ s.toList.head?, isBlank c = true

/-- The text without the blanks in front of it. -/
def withoutLead (s : String) : String := String.ofList (s.toList.dropWhile isBlank)

theorem withoutLead_eq_self_iff {s : String} : withoutLead s = s ↔ ¬ BeginsBlank s := by
  rw [← String.toList_inj, withoutLead, String.toList_ofList, BeginsBlank]
  cases s.toList with
  | nil => simp
  | cons c rest => simp [List.dropWhile_eq_self_iff]

instance (s : String) : Decidable (BeginsBlank s) :=
  decidable_of_iff (¬ withoutLead s = s) (by rw [withoutLead_eq_self_iff, not_not])

theorem mem_of_mem_withoutLead {s : String} {c : Char} (h : c ∈ (withoutLead s).toList) :
    c ∈ s.toList := by
  rw [withoutLead, String.toList_ofList] at h
  exact (List.dropWhile_suffix _).subset h

/-- From a text that goes on with something that has no blanks at its ends, only the blanks in front
    are trimmed. -/
theorem trim_append_of_no_blank_ends {first last : Char} (hfirst : isBlank first = false)
    (hlast : isBlank last = false) (front middle : List Char) :
    trim (front ++ first :: (middle ++ [last])) =
      front.dropWhile isBlank ++ first :: (middle ++ [last]) := by
  have hblank : ∀ c ∈ front.takeWhile isBlank, isBlank c = true :=
    fun c hc => List.mem_takeWhile_imp hc
  have htrim := trim_append hblank (List.forall_mem_nil _)
    (front.dropWhile isBlank ++ first :: (middle ++ [last]))
  rw [List.append_nil, ← List.append_assoc, List.takeWhile_append_dropWhile] at htrim
  rw [htrim]
  refine trim_of_no_blank_ends (fun c hc => ?_) fun c hc => ?_
  · -- the front has no blank left at its beginning, or nothing is left of it
    have hkept := List.head?_dropWhile_not isBlank front
    cases hfront : front.dropWhile isBlank with
    | nil =>
      rw [hfront] at hc
      cases hc
      exact hfirst
    | cons d rest =>
      rw [hfront] at hc hkept
      cases hc
      exact hkept
  · rw [← List.cons_append, ← List.append_assoc, List.getLast?_concat] at hc
    cases hc
    exact hlast

end Text

/-! ## The script of a call -/

/-- The placeholders `%1,…,%count`. -/
def countedParams (count : Nat) : String :=
  ",".intercalate ((List.range' 1 count).map fun n => s!"%{n}")

/-- The script that calls a method with the first arguments, as many as are counted:
    `name(%1,…,%count)`. -/
def callScript (name : String) (count : Nat) : String :=
  name ++ "(" ++ countedParams count ++ ")"

variable {name : String} {count : Nat} {params : List Placeholder}

theorem toList_callScript (name : String) (count : Nat) :
    (callScript name count).toList =
      name.toList ++ '(' :: ((countedParams count).toList ++ [')']) := by
  simp [callScript]

theorem toList_countedParams (h : params.map (·.number) = List.range' 1 count) :
    (countedParams count).toList = Placeholder.printAll params := by
  have hprint : ∀ p : Placeholder, s!"%{p.number}".toList = p.print := by
    intro p
    show ("%" ++ p.number.repr).toList = _
    rw [String.toList_append, Nat.toList_repr]
    rfl
  rw [countedParams, ← h, String.toList_intercalate, List.map_map, List.map_map]
  exact congrArg [','].intercalate (List.map_congr_left fun p _ => hprint p)

/-- There are placeholders for all arguments, if they can be counted. -/
theorem exists_params (hcount : count < wordSize) :
    ∃ params : List Placeholder, params.map (·.number) = List.range' 1 count := by
  have hword : ∀ n ∈ List.range' 1 count, 0 < n ∧ n < wordSize := by
    intro n hn
    rw [List.mem_range'_1] at hn
    omega
  refine ⟨(List.range' 1 count).pmap (fun n hn => ⟨n, hn.1, hn.2⟩) hword, ?_⟩
  rw [List.map_pmap, List.pmap_eq_map, List.map_id']

theorem append_callScript (lead name : String) (count : Nat) :
    lead ++ callScript name count = callScript (lead ++ name) count := by
  simp only [callScript, String.append_assoc]

theorem trimmed_callScript (name : String) (count : Nat) :
    Text.trimmed (callScript name count) = callScript (Text.withoutLead name) count := by
  rw [← String.toList_inj, Text.trimmed, String.toList_ofList, toList_callScript,
    toList_callScript, Text.withoutLead, String.toList_ofList,
    Text.trim_append_of_no_blank_ends (by decide) (by decide)]

/-! ## Reading the script -/

/-- A call without a name is not a segment. -/
theorem Segment.parse_nameless (params : List Placeholder) :
    Segment.parse (Segment.call "" params).print = .error (.emptySegment 0) := by
  have hne : (Segment.call "" params).print ≠ [] := by simp [print_call]
  have hname : callName (Segment.call "" params).print = [] := by simp [print_call, callName]
  rw [Segment.parse, if_neg hne, if_pos (looksLikeCall_print "" params), if_pos hname]

namespace Script

/-- The script of a call is read as the call alone, also behind a dot. -/
theorem parse_callScript {lead : List Char} (hlead : IsLead lead) (hname : IsScriptName name)
    (hparams : params.map (·.number) = List.range' 1 count) :
    Script.parse (String.ofList lead ++ callScript name count) =
      .ok ⟨String.ofList lead ++ callScript name count,
        [⟨Text.byteCount lead, .call name params⟩]⟩ := by
  obtain ⟨hne, hstops⟩ := hname
  have hread : (Segment.call name params).Readable :=
    ⟨hne, hstops '.' (by decide), hstops '(' (by decide)⟩
  have htext : (String.ofList lead ++ callScript name count).toList =
      lead ++ (Segment.call name params).print := by
    rw [String.toList_append, String.toList_ofList, toList_callScript,
      toList_countedParams hparams, Segment.print_call]
  refine parse_eq_ok_iff.2 ⟨rfl, [⟨0 + Text.byteCount lead, _⟩], ?_,
    .cons ⟨(Nat.zero_add _).symm, hread.parse_print⟩ .nil⟩
  rw [htext]
  exact .last hlead hread.print_ne_nil (Segment.openAfter_print_call hread)

/-- The script of a call without a name has an empty segment at its beginning. -/
theorem parse_nameless (hparams : params.map (·.number) = List.range' 1 count) :
    Script.parse (callScript "" count) = .error (.emptySegment 0) := by
  have htext : (callScript "" count).toList = (Segment.call "" params).print := by
    rw [toList_callScript, toList_countedParams hparams, Segment.print_call]
  have hskip : skipDot (Segment.call "" params).print = (Segment.call "" params).print := by
    rw [Segment.print_call]
    rfl
  have hopen : openAfter 0 (Segment.call "" params).print = some 0 :=
    Segment.openAfter_call params nofun nofun
  have hsplit := split_of_uncut hopen
  have hend : rest? (Segment.call "" params).print = none := by rw [rest?, hskip, hsplit]
  rw [Script.parse, htext, pieces_of_end hend, Except.map_eq_error_iff,
    Except.mapM_eq_error_iff]
  refine ⟨[], _, [], [], rfl, rfl, ?_⟩
  rw [Piece.parse, piece, hskip, hsplit, Segment.parse_nameless]
  simp

end Script

namespace ScriptOptions

/-- The name as it is read: without the blanks in front of it, if scripts are trimmed. -/
def nameRead (o : ScriptOptions) (name : String) : String :=
  if o.trim then Text.withoutLead name else name

theorem prepare_callScript (o : ScriptOptions) (name : String) (count : Nat) :
    o.prepare (callScript name count) = callScript (o.nameRead name) count := by
  unfold prepare nameRead
  split
  · exact trimmed_callScript name count
  · rfl

theorem nameRead_eq_self_iff {o : ScriptOptions} :
    o.nameRead name = name ↔ ¬ (o.trim = true ∧ Text.BeginsBlank name) := by
  unfold nameRead
  split
  · next htrim => simp [htrim, Text.withoutLead_eq_self_iff]
  · next htrim => simp [htrim]

/-- Nothing is left of a name for scripts, or what is left is a name for scripts again. -/
theorem isScriptName_nameRead (o : ScriptOptions) (h : IsScriptName name)
    (hne : o.nameRead name ≠ "") : IsScriptName (o.nameRead name) := by
  refine ⟨hne, fun c hc hmem => h.2 c hc ?_⟩
  unfold nameRead at hmem
  split at hmem
  · exact Text.mem_of_mem_withoutLead hmem
  · exact hmem

end ScriptOptions

namespace Reflector

variable {R : Reflector} {cls script : String}

/-- The script is read as the call of the name alone, with the placeholders of the first arguments,
    as many as are counted. -/
def ReadsCall (R : Reflector) (cls script name : String) (count : Nat) : Prop :=
  ∃ s params, R.compile cls script = .ok s ∧
    s.segments.map (·.segment) = [.call name params] ∧
    params.map (·.number) = List.range' 1 count

/-- A script is read as the call of only one name. -/
theorem ReadsCall.name_eq {other : String} {n : Nat} (h : R.ReadsCall cls script name count)
    (hother : R.ReadsCall cls script other n) : name = other := by
  obtain ⟨s, params, hread, hsegments, -⟩ := h
  obtain ⟨_, params', hread', hsegments', -⟩ := hother
  cases hread.symm.trans hread'
  cases hsegments.symm.trans hsegments'
  rfl

theorem readsCall_of_prepare {lead : List Char} (hlead : Script.IsLead lead)
    (hprepare : R.options.prepare script = String.ofList lead ++ callScript name count)
    (hname : IsScriptName name) (hcount : count < wordSize) (cls : String) :
    R.ReadsCall cls script name count := by
  obtain ⟨params, hparams⟩ := exists_params hcount
  have hread : R.compile cls script = .ok ⟨String.ofList lead ++ callScript name count,
      [⟨Text.byteCount lead, .call name params⟩]⟩ := by
    rw [compile, hprepare, Script.parse_callScript hlead hname hparams]
    rfl
  exact ⟨_, params, hread, rfl, hparams⟩

/-- What is read is the call of the name as the options leave it. -/
theorem readsCall_nameRead (R : Reflector) (cls name : String)
    (hname : IsScriptName (R.options.nameRead name)) (hcount : count < wordSize) :
    R.ReadsCall cls (callScript name count) (R.options.nameRead name) count :=
  readsCall_of_prepare (.inl rfl) (R.options.prepare_callScript name count) hname hcount cls

/-- If nothing is left of the name, the script is rejected. -/
theorem compile_of_nameRead_eq_empty (R : Reflector) (cls : String)
    (hempty : R.options.nameRead name = "") (hcount : count < wordSize) :
    R.compile cls (callScript name count) =
      .error (.invalidScript cls (callScript name count) (.emptySegment 0)) := by
  obtain ⟨params, hparams⟩ := exists_params hcount
  rw [compile, R.options.prepare_callScript, hempty, Script.parse_nameless hparams]
  rfl

/-- A name is called exactly if it is read as it is. -/
theorem readsCall_callScript_iff (R : Reflector) (cls : String) (hname : IsScriptName name)
    (hcount : count < wordSize) :
    R.ReadsCall cls (callScript name count) name count ↔
      ¬ (R.options.trim = true ∧ Text.BeginsBlank name) := by
  rw [← ScriptOptions.nameRead_eq_self_iff]
  constructor
  · -- one call is read at most, so it is the call of both names
    intro h
    by_cases hempty : R.options.nameRead name = ""
    · obtain ⟨s, -, hread, -⟩ := h
      rw [compile_of_nameRead_eq_empty R cls hempty hcount] at hread
      cases hread
    · exact ReadsCall.name_eq
        (readsCall_nameRead R cls name (R.options.isScriptName_nameRead hname hempty) hcount) h
  · intro h
    have hread := readsCall_nameRead R cls name (by rwa [h]) hcount
    rwa [h] at hread

/-- Behind a dot, a name is always called. -/
theorem readsCall_dot_callScript (R : Reflector) (cls : String) (hname : IsScriptName name)
    (hcount : count < wordSize) : R.ReadsCall cls ("." ++ callScript name count) name count := by
  have hdot : ¬ Text.BeginsBlank ("." ++ name) := by
    have hblank : Text.isBlank '.' = false := by decide
    simp [Text.BeginsBlank, hblank]
  refine readsCall_of_prepare (.inr rfl) ?_ hname hcount cls
  rw [append_callScript, ScriptOptions.prepare_callScript,
    ScriptOptions.nameRead_eq_self_iff.2 fun h => hdot h.2, ← append_callScript]

end Reflector

/-! ## The names of methods -/

namespace FunctionItem

variable {f : FunctionItem} {m : MethodPlan}

theorem isScriptName_of_options {o : FunctionOptions} (h : f.options = .ok o) :
    IsScriptName o.name := by
  obtain ⟨asked, -, h⟩ := Except.bind_eq_ok_iff.1 h
  split at h
  · next hname =>
    cases h
    exact isMethodName_iff.1 hname
  · cases h

theorem name_of_method {name : String} (h : f.method name = .ok m) : m.name = name := by
  simp only [method, Except.ite_error_eq_ok_iff, Except.bind_eq_ok_iff] at h
  obtain ⟨-, -, -, receiver, -, -, -, h⟩ := h
  cases h
  rfl

theorem isScriptName_of_plan (h : f.plan = .ok (some m)) : IsScriptName m.name := by
  obtain ⟨o, hoptions, h⟩ := Except.bind_eq_ok_iff.1 h
  split at h
  · cases h
  · obtain ⟨_, hmethod, hm⟩ := Except.map_eq_ok_iff.1 h
    cases hm
    rw [name_of_method hmethod]
    exact isScriptName_of_options hoptions

end FunctionItem

namespace MethodBlock

variable {b : MethodBlock} {t : MethodTable} {m : MethodPlan}

theorem isScriptName_of_planAll {functions : List FunctionItem} {methods : List MethodPlan}
    (h : planAll functions = .ok methods) : ∀ m ∈ methods, IsScriptName m.name := by
  induction functions generalizing methods with
  | nil =>
    cases h
    exact List.forall_mem_nil _
  | cons f rest ih =>
    obtain ⟨first, hfirst, h⟩ := Except.bind_eq_ok_iff.1 h
    obtain ⟨others, hothers, h⟩ := Except.bind_eq_ok_iff.1 h
    cases h
    rintro m hm
    rcases List.mem_append.1 hm with hm | hm
    · rw [Option.mem_toList.1 hm] at hfirst
      exact FunctionItem.isScriptName_of_plan hfirst
    · exact ih hothers m hm

/-- Scripts can use the names of all methods that a block has. -/
theorem isScriptName_of_table (h : b.table = .ok t) : ∀ m ∈ t.methods, IsScriptName m.name := by
  simp only [table, Except.ite_error_eq_ok_iff, Except.bind_eq_ok_iff] at h
  obtain ⟨crate, -, -, -, methods, hmethods, h⟩ := h
  cases h
  exact isScriptName_of_planAll hmethods

/-- A method of a block is called by its name and the placeholders of all its parameters, unless
    scripts are trimmed and its name begins with blanks. In that case the name without them is
    called, or the script is rejected because nothing is left of the name; and with a dot in front
    the method is called all the same. No method has so many parameters that they cannot be counted
    in a machine word. -/
theorem methods_are_called_unless_trimmed (h : b.table = .ok t) (hm : m ∈ t.methods)
    (hcount : m.params.length < wordSize) (R : Reflector) (cls : String) :
    (R.ReadsCall cls (callScript m.name m.params.length) m.name m.params.length ↔
      ¬ (R.options.trim = true ∧ Text.BeginsBlank m.name)) ∧
    (R.options.trim = true →
      (Text.withoutLead m.name ≠ "" →
        R.ReadsCall cls (callScript m.name m.params.length) (Text.withoutLead m.name)
          m.params.length) ∧
      (Text.withoutLead m.name = "" →
        R.compile cls (callScript m.name m.params.length) =
          .error (.invalidScript cls (callScript m.name m.params.length) (.emptySegment 0)))) ∧
    R.ReadsCall cls ("." ++ callScript m.name m.params.length) m.name m.params.length := by
  have hname := isScriptName_of_table h m hm
  refine ⟨R.readsCall_callScript_iff cls hname hcount, fun htrim => ?_,
    R.readsCall_dot_callScript cls hname hcount⟩
  have hread : R.options.nameRead m.name = Text.withoutLead m.name := by
    rw [ScriptOptions.nameRead, if_pos htrim]
  rw [← hread]
  exact ⟨fun hne =>
      R.readsCall_nameRead cls _ (R.options.isScriptName_nameRead hname hne) hcount,
    fun hempty => R.compile_of_nameRead_eq_empty cls hempty hcount⟩

end MethodBlock

/-! ## A method whose name begins with a blank -/

namespace Sample

/-- A block whose methods have blanks in their names. -/
def padded : MethodBlock :=
  { self := ⟨"Padded"⟩, forTrait := none, generics := [], entries := [],
    items :=
      [.function (plainFunction "pad" (some "&self") [⟨"u8"⟩, ⟨"String"⟩] (some ⟨"String"⟩)
          [.own [⟨"name", some " pad "⟩]]),
        .function (plainFunction "say_hi" none [] none [.own [⟨"name", some "say hi"⟩]])] }

/-- How the first of them is listed. -/
def pad : MethodPlan := ⟨" pad ", .shared, [⟨"u8"⟩, ⟨"String"⟩], false, "pad"⟩

/-- How the second one is listed. -/
def sayHi : MethodPlan := ⟨"say hi", .static, [], false, "say_hi"⟩

theorem table_padded : padded.table = .ok ⟨none, [pad, sayHi]⟩ := by
  decide +kernel

end Sample

/-- The method is listed, and it takes a dot to call it. -/
theorem padded_method_is_called_behind_dot :
    Sample.padded.table = .ok ⟨none, [Sample.pad, Sample.sayHi]⟩ ∧
      Text.BeginsBlank Sample.pad.name ∧
      ¬ galleryReflector.ReadsCall "Padded" " pad (%1,%2)" " pad " 2 ∧
      galleryReflector.ReadsCall "Padded" " pad (%1,%2)" "pad " 2 ∧
      galleryReflector.ReadsCall "Padded" ". pad (%1,%2)" " pad " 2 ∧
      galleryReflector.ReadsCall "Padded" "say hi()" "say hi" 0 := by
  have htext : callScript Sample.pad.name Sample.pad.params.length = " pad (%1,%2)" := by
    decide +kernel
  have hhi : callScript Sample.sayHi.name Sample.sayHi.params.length = "say hi()" := by
    decide +kernel
  have hblank : Text.BeginsBlank Sample.pad.name := by decide +kernel
  have hlead : Text.withoutLead Sample.pad.name = "pad " := by decide +kernel
  obtain ⟨hcalled, htrimmed, hdot⟩ := MethodBlock.methods_are_called_unless_trimmed
    Sample.table_padded List.mem_cons_self (by decide) galleryReflector "Padded"
  obtain ⟨hiff, -⟩ := MethodBlock.methods_are_called_unless_trimmed
    Sample.table_padded (List.mem_cons_of_mem _ List.mem_cons_self) (by decide) galleryReflector
    "Padded"
  rw [htext] at hcalled htrimmed hdot
  rw [hhi] at hiff
  obtain ⟨hother, -⟩ := htrimmed rfl
  rw [hlead] at hother
  exact ⟨Sample.table_padded, hblank, fun hread => hcalled.1 hread ⟨rfl, hblank⟩,
    hother (by decide), hdot, hiff.2 (by decide +kernel)⟩

/-- Not every method that is listed is called by its name: here the call of another name is
    read. -/
theorem padded_method_is_not_called :
    ¬ ∀ (b : MethodBlock) (t : MethodTable) (m : MethodPlan) (R : Reflector) (cls : String),
      b.table = .ok t → m ∈ t.methods → R.options = .standard →
        R.ReadsCall cls (callScript m.name m.params.length) m.name m.params.length := by
  intro h
  have hcount : Sample.pad.params.length < wordSize := by decide
  have hread := galleryReflector.readsCall_nameRead "Padded" Sample.pad.name
    (by decide +kernel) hcount
  have hname := (h _ _ _ galleryReflector "Padded" Sample.table_padded List.mem_cons_self rfl).name_eq
    hread
  exact absurd hname (by decide +kernel)

end ObjectPath
