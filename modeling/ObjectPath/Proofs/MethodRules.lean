import ObjectPath.Declaration.MethodBlock
import ObjectPath.Proofs.ClassRules

/-!
# Rules for blocks that declare methods

Every function of a block must have a name that scripts can use, also one that is skipped. The
functions that are not skipped become methods, so they must be ones that can be called with nothing
but values: plain functions that borrow their receiver, if they have one, and whose parameters and
results are owned. `MethodBlock.KeepsRules` says so without an order, and
`MethodBlock.objections` lists what speaks against a block in the order of its text. The block is
rejected with the first objection.

Whether a function is skipped and what it is called is known when all its entries have been read.
Its signature is looked at behind that, and so only if it is needed.

How an entry is written is not in question here, and neither is the grammar of receivers and types:
a name has a text, a skip has none, and the path to the traits is a path.

Results:
* `Receiver.ofText?_eq`: the receivers that methods can have, among those of the grammar.
* `FunctionItem.plan_heeds`, `MethodBlock.planAll_heeds`: one function, and the functions one after
  the other.
* `FunctionItem.objections_eq_nil_iff`, `MethodBlock.objections_eq_nil_iff`: nothing speaks against
  what keeps the rules.
* `MethodBlock.table_heeds_first_objection`: which blocks are accepted, which methods are listed for
  them, and what is reported of others.
-/

namespace ObjectPath

/-! ## Names -/

/-- The text is not empty and has none of the characters that end a name in a script. -/
def IsScriptName (name : String) : Prop :=
  name ≠ "" ∧ ∀ c ∈ ['.', '(', ')', ','], c ∉ name.toList

theorem isMethodName_iff {name : String} : isMethodName name = true ↔ IsScriptName name := by
  unfold isMethodName IsScriptName
  rw [Bool.and_eq_true, Bool.not_eq_true', ← Bool.not_eq_true, String.isEmpty_iff,
    List.all_eq_true]
  refine and_congr_right fun _ => ⟨fun h c hc hmem => ?_, fun h c hmem => ?_⟩
  · have hnot := h c hmem
    rw [Bool.not_eq_true', ← Bool.not_eq_true, List.contains_iff_mem] at hnot
    exact hnot hc
  · rw [Bool.not_eq_true', ← Bool.not_eq_true, List.contains_iff_mem]
    exact fun hc => h c hc hmem

instance (name : String) : Decidable (IsScriptName name) := decidable_of_iff _ isMethodName_iff

/-! ## Entries of a function -/

namespace Entry

/-- The entry of a function is written as its key wants it: a name with a text, a skip alone. -/
structure WrittenForFunction (e : Entry) : Prop where
  name : e.key = "name" → ∃ text, e.value = some text
  skip : e.key = "skip" → e.value = none

/-- What speaks against the entry of a function. -/
def functionObjection? (e : Entry) : Option DeclarationError :=
  if e.key = "name" ∨ e.key = "skip" then none else some .unknownMethodEntry

theorem functionObjection?_eq_none_iff {e : Entry} :
    e.functionObjection? = none ↔ e.key = "name" ∨ e.key = "skip" :=
  objectionUnless_eq_none_iff

end Entry

namespace FunctionOptions

variable {entries : List Entry} {o o' : FunctionOptions}

theorem apply_cases {e : Entry} (h : e.WrittenForFunction) (o : FunctionOptions) :
    (∃ err, e.functionObjection? = some err ∧ o.apply e = .error err) ∨
      (e.functionObjection? = none ∧ ∃ o', o.apply e = .ok o') := by
  unfold apply
  split
  · next hkey =>
    obtain ⟨text, hvalue⟩ := h.name hkey
    rw [Entry.setting_eq_ok hvalue]
    exact .inr ⟨Entry.functionObjection?_eq_none_iff.2 (.inl hkey), _, rfl⟩
  · next hkey =>
    rw [Entry.flag_eq_ok (h.skip hkey)]
    exact .inr ⟨Entry.functionObjection?_eq_none_iff.2 (.inr hkey), _, rfl⟩
  · next hname hskip =>
    left
    refine ⟨.unknownMethodEntry, ?_, rfl⟩
    rw [Entry.functionObjection?, if_neg (not_or.2 ⟨hname, hskip⟩)]

/-- One more entry replaces the name or skips the function. -/
theorem of_apply {e : Entry} (h : o.apply e = .ok o') :
    some o'.name = (if e.key = "name" then e.value else some o.name) ∧
      o'.skip = (o.skip || e.key == "skip") := by
  unfold apply at h
  split at h
  · next hkey =>
    cases hvalue : e.value with
    | none =>
      rw [Entry.setting, hvalue] at h
      cases h
    | some text =>
      rw [Entry.setting_eq_ok hvalue] at h
      cases h
      simp [hkey]
  · next hkey =>
    rw [Entry.of_flag h]
    simp [hkey]
  · cases h

/-- The last name stands, and any entry can skip the function. -/
theorem of_entries {name : String} (h : entries.foldlM apply ⟨name, false⟩ = .ok o) :
    o = ⟨(lastMeaning? "name" Entry.value entries).getD name, entries.any (·.key == "skip")⟩ := by
  have hname := Except.foldlM_aspect (fun o => some o.name)
    (fun asked e => if e.key = "name" then e.value else asked)
    (fun _ _ _ hstep => (of_apply hstep).1) h
  have hskip := Except.foldlM_aspect skip (fun asked e => asked || e.key == "skip")
    (fun _ _ _ hstep => (of_apply hstep).2) h
  rw [foldl_eq_elim] at hname
  rw [foldl_or_eq_any, Bool.false_or] at hskip
  have hlast : o.name = (lastMeaning? "name" Entry.value entries).getD name := by
    rw [lastMeaning?]
    cases hfind : entries.reverse.find? (·.key == "name") with
    | none =>
      rw [hfind] at hname
      exact Option.some.inj hname
    | some e =>
      rw [hfind] at hname
      change some o.name = e.value at hname
      rw [Option.bind_some, ← hname]
      rfl
  rw [← hlast, ← hskip]

end FunctionOptions

/-! ## Receivers -/

/-- How a receiver is taken that is spelled by the tokens behind a `&`. -/
def borrowing? : List SourceToken → Option Receiver
  | [.name "self"] | [.lifetime _, .name "self"] => some .shared
  | [.name "mut", .name "self"] | [.lifetime _, .name "mut", .name "self"] => some .mutable
  | _ => none

/-- How a receiver is taken that is plain `&self` or `&mut self`, perhaps with a lifetime. -/
def plainReceiver? : List SourceToken → Option Receiver
  | .mark '&' _ :: rest => borrowing? rest
  | _ => none

/-- The tokens are a receiver by the grammar: a plain one, or one taken by value or with a type. -/
def IsReceiver (tokens : List SourceToken) : Prop :=
  (plainReceiver? tokens).isSome = true ∨ tokens.head? = some (.name "self") ∨
    [.name "mut", .name "self"] <+: tokens

instance (tokens : List SourceToken) : Decidable (IsReceiver tokens) :=
  inferInstanceAs (Decidable (_ ∨ _ ∨ _))

theorem ofText?_of_borrowing {text : String} {joint : Bool} {rest : List SourceToken} {r : Receiver}
    (hread : SourceToken.ofText? text = some (.mark '&' joint :: rest))
    (h : borrowing? rest = some r) : Receiver.ofText? text = some r := by
  unfold Receiver.ofText?
  rw [hread]
  unfold borrowing? at h
  split at h <;> cases h <;> simp [SourceToken.nextMark]

/-- Among the receivers of the grammar, methods can have exactly the plain ones. -/
theorem Receiver.ofText?_eq {text : String} {tokens : List SourceToken}
    (hread : SourceToken.ofText? text = some tokens) (h : IsReceiver tokens) :
    Receiver.ofText? text = plainReceiver? tokens := by
  rcases h with h | h | ⟨rest, rfl⟩
  · obtain ⟨r, hr⟩ := Option.isSome_iff_exists.1 h
    rw [hr]
    unfold plainReceiver? at hr
    split at hr
    · exact ofText?_of_borrowing hread hr
    · cases hr
  · cases tokens with
    | nil => cases h
    | cons first rest =>
      cases h
      rw [ofText?, hread]
      rfl
  · rw [ofText?, hread]
    rfl

/-! ## Signatures -/

/-- The type is not a reference, the type of some implementer, a trait object or inferred. -/
def SourceType.IsOwned (t : SourceType) : Prop :=
  t.form ≠ .reference ∧ t.form ≠ .implementer ∧ t.form ≠ .traitObject ∧ t.form ≠ .inferred

theorem SourceType.isBorrowed_eq_false_iff {t : SourceType} :
    t.isBorrowed = false ↔ t.IsOwned := by
  unfold isBorrowed IsOwned
  cases t.form <;> simp

namespace FunctionItem

variable {f : FunctionItem}

/-- The name that the last entry with a name gives to the function, or else its own. -/
def scriptName (f : FunctionItem) : String :=
  (lastMeaning? "name" Entry.value (entriesOf f.attributes)).getD f.name

/-- An entry skips the function. -/
def Skipped (f : FunctionItem) : Prop := ∃ e ∈ entriesOf f.attributes, e.key = "skip"

instance (f : FunctionItem) : Decidable f.Skipped :=
  inferInstanceAs (Decidable (∃ e ∈ entriesOf f.attributes, e.key = "skip"))

/-- How the function takes its receiver, if that is one of the ways in which methods can. -/
def taking? (f : FunctionItem) : Option Receiver :=
  match f.receiver with
  | none => some .static
  | some text => (SourceToken.ofText? text).bind plainReceiver?

/-- The entries of the function are written as their keys want it, and its receiver is one. -/
structure WrittenWell (f : FunctionItem) : Prop where
  entries : ∀ e ∈ entriesOf f.attributes, e.WrittenForFunction
  receiver : ∀ text ∈ f.receiver, ∃ tokens, SourceToken.ofText? text = some tokens ∧
    IsReceiver tokens

/-- The function has the signature of a method. -/
structure FitsMethod (f : FunctionItem) : Prop where
  plain : f.generics = []
  notAsync : f.isAsync = false
  notUnsafe : f.isUnsafe = false
  receiver : ∃ r, f.taking? = some r
  params : ∀ t ∈ f.params, t.IsOwned
  result : ∀ t ∈ f.result, t.IsOwned

/-- The function keeps the rules: its entries are known, scripts can use its name, and if it is not
    skipped, it has the signature of a method. -/
structure KeepsRules (f : FunctionItem) : Prop where
  entries : ∀ e ∈ entriesOf f.attributes, e.key = "name" ∨ e.key = "skip"
  name : IsScriptName f.scriptName
  signature : ¬ f.Skipped → f.FitsMethod

/-- The method is the function under the name for scripts: it calls the function, takes its receiver
    in the same way and its parameters in the same order, and can fail exactly if the last name in
    the type of its result is `Result`. -/
structure ListedAs (f : FunctionItem) (m : MethodPlan) : Prop where
  name : m.name = f.scriptName
  calls : m.calls = f.name
  receiver : f.taking? = some m.receiver
  params : m.params = f.params
  fallible : m.fallible = true ↔ ∃ t ∈ f.result, t.form = .path "Result"

/-- The method that the function is listed as. -/
def listed (f : FunctionItem) (r : Receiver) : MethodPlan :=
  ⟨f.scriptName, r, f.params, f.result.any SourceType.isResult, f.name⟩

theorem listedAs_listed {r : Receiver} (h : f.taking? = some r) : f.ListedAs (f.listed r) where
  name := rfl
  calls := rfl
  receiver := h
  params := rfl
  fallible := by simp [listed, SourceType.isResult, Option.any_eq_true]

/-- What speaks against the signature of the function. -/
def signatureObjections (f : FunctionItem) : List DeclarationError :=
  (if f.generics ≠ [] then [.genericMethod] else []) ++
    ((if f.isAsync = true then [.asyncMethod] else []) ++
      ((if f.isUnsafe = true then [.unsafeMethod] else []) ++
        ((if f.taking? = none then [.badReceiver] else []) ++
          ((if f.params.any SourceType.isBorrowed = true then [.badParameter] else []) ++
            if f.result.any SourceType.isBorrowed = true then [.badResult] else []))))

/-- What speaks against the function: its entries, its name, and its signature if it is needed. -/
def objections (f : FunctionItem) : List DeclarationError :=
  (entriesOf f.attributes).filterMap Entry.functionObjection? ++
    ((if ¬ IsScriptName f.scriptName then [.badMethodName] else []) ++
      if f.Skipped then [] else f.signatureObjections)

theorem signatureObjections_eq_nil_iff : f.signatureObjections = [] ↔ f.FitsMethod := by
  have hparams : f.params.any SourceType.isBorrowed = false ↔ ∀ t ∈ f.params, t.IsOwned := by
    simp only [List.any_eq_false, Bool.not_eq_true, SourceType.isBorrowed_eq_false_iff]
  have hresult : f.result.any SourceType.isBorrowed = false ↔ ∀ t ∈ f.result, t.IsOwned := by
    cases f.result <;> simp [SourceType.isBorrowed_eq_false_iff]
  rw [signatureObjections]
  simp only [List.append_eq_nil_iff, objectionIf_eq_nil_iff, not_not, Bool.not_eq_true, hparams,
    hresult, ← ne_eq, Option.ne_none_iff_exists']
  exact ⟨fun ⟨hplain, hasync, hunsafe, hreceiver, hparams, hresult⟩ =>
      ⟨hplain, hasync, hunsafe, hreceiver, hparams, hresult⟩,
    fun ⟨hplain, hasync, hunsafe, hreceiver, hparams, hresult⟩ =>
      ⟨hplain, hasync, hunsafe, hreceiver, hparams, hresult⟩⟩

theorem objections_eq_nil_iff : f.objections = [] ↔ f.KeepsRules := by
  have hsignature : (if f.Skipped then [] else f.signatureObjections) = [] ↔
      (¬ f.Skipped → f.FitsMethod) := by
    rw [← signatureObjections_eq_nil_iff]
    by_cases hskip : f.Skipped
    · simp [hskip]
    · simp [hskip]
  rw [objections, List.append_eq_nil_iff, List.append_eq_nil_iff, List.filterMap_eq_nil_iff,
    objectionIf_eq_nil_iff, not_not, hsignature]
  simp only [Entry.functionObjection?_eq_none_iff]
  exact ⟨fun ⟨hentries, hname, hsignature⟩ => ⟨hentries, hname, hsignature⟩,
    fun ⟨hentries, hname, hsignature⟩ => ⟨hentries, hname, hsignature⟩⟩

/-! ## One function -/

/-- The entries of the function give it its name and tell whether it is skipped. -/
theorem entries_heed (h : f.WrittenWell) :
    ((entriesOf f.attributes).foldlM FunctionOptions.apply ⟨f.name, false⟩).Heeds
      ((entriesOf f.attributes).filterMap Entry.functionObjection?)
      (· = ⟨f.scriptName, decide f.Skipped⟩) := by
  have hskip : (entriesOf f.attributes).any (·.key == "skip") = decide f.Skipped := by
    rw [Bool.eq_iff_iff, List.any_eq_true, decide_eq_true_eq]
    simp only [beq_iff_eq]
    rfl
  refine Except.foldlM_heeds (fun e he o => FunctionOptions.apply_cases (h.entries e he) o) ?_
  intro o hreads
  rw [FunctionOptions.of_entries hreads, hskip]
  rfl

theorem options_heed (h : f.WrittenWell) :
    f.options.Heeds ((entriesOf f.attributes).filterMap Entry.functionObjection? ++
      if ¬ IsScriptName f.scriptName then [.badMethodName] else [])
      (· = ⟨f.scriptName, decide f.Skipped⟩) := by
  refine (entries_heed h).bind ?_
  rintro _ rfl
  rw [← ite_not]
  exact .lastCheck (not_congr isMethodName_iff) fun _ => rfl

theorem receiverKind_eq (h : f.WrittenWell) :
    f.receiverKind = (f.taking?).elim (.error .badReceiver) .ok := by
  unfold receiverKind taking?
  cases hreceiver : f.receiver with
  | none => rfl
  | some text =>
    obtain ⟨tokens, hread, hgrammar⟩ := h.receiver text hreceiver
    dsimp only
    rw [Receiver.ofText?_eq hread hgrammar, hread, Option.bind_some]
    cases plainReceiver? tokens <;> rfl

theorem receiverKind_heeds (h : f.WrittenWell) :
    f.receiverKind.Heeds (if f.taking? = none then [.badReceiver] else [])
      fun r => f.taking? = some r := by
  rw [receiverKind_eq h]
  cases f.taking? with
  | none => exact .inl ⟨_, _, rfl, rfl⟩
  | some r => exact .ok rfl

theorem method_heeds (h : f.WrittenWell) :
    (f.method f.scriptName).Heeds f.signatureObjections f.ListedAs :=
  .check .rfl fun _ => .check .rfl fun _ => .check .rfl fun _ =>
    (receiverKind_heeds h).bind fun _ htaking =>
      .check .rfl fun _ => .lastCheck .rfl fun _ => listedAs_listed htaking

/-- The methods that the function becomes: none or one. -/
def Becomes (f : FunctionItem) (methods : List MethodPlan) : Prop :=
  List.Forall₂ ListedAs (if f.Skipped then [] else [f]) methods

/-- A function is rejected with the first objection, or is skipped or listed. Its signature does not
    matter if it is skipped. -/
theorem plan_heeds (h : f.WrittenWell) : f.plan.Heeds f.objections fun m => f.Becomes m.toList := by
  rw [objections, ← List.append_assoc]
  refine (options_heed h).bind ?_
  rintro _ rfl
  unfold Becomes
  by_cases hskip : f.Skipped
  · rw [if_pos hskip, if_pos hskip]
    dsimp only
    rw [if_pos (decide_eq_true hskip)]
    exact .ok .nil
  · rw [if_neg hskip, if_neg hskip]
    dsimp only
    rw [if_neg (by simpa using hskip)]
    exact (method_heeds h).map fun m hm => .cons hm .nil

end FunctionItem

/-! ## Blocks -/

namespace Entry

/-- The entry of a block is written as its key wants it: with a text that is a path in the
    source. -/
def WrittenForBlock (e : Entry) : Prop :=
  e.key = "crate_path" → ∃ text, e.value = some text ∧ ∃ path, SourcePath.read text = .ok path

/-- What speaks against the entry of a block. -/
def blockObjection? (e : Entry) : Option DeclarationError :=
  if e.key = "crate_path" then none else some .unknownBlockEntry

theorem blockObjection?_eq_none_iff {e : Entry} :
    e.blockObjection? = none ↔ e.key = "crate_path" :=
  objectionUnless_eq_none_iff

theorem applyBlockEntry_cases {e : Entry} (h : e.WrittenForBlock) (o : Option SourcePath) :
    (∃ err, e.blockObjection? = some err ∧ applyBlockEntry o e = .error err) ∨
      (e.blockObjection? = none ∧ ∃ o', applyBlockEntry o e = .ok o') := by
  unfold applyBlockEntry
  split
  · next hkey =>
    obtain ⟨text, hvalue, path, hpath⟩ := h hkey
    rw [Entry.setting_eq_ok hvalue]
    refine .inr ⟨blockObjection?_eq_none_iff.2 hkey, some path, ?_⟩
    show (SourcePath.read text >>= _) = _
    rw [hpath]
    rfl
  · next hkey =>
    left
    refine ⟨.unknownBlockEntry, ?_, rfl⟩
    rw [blockObjection?, if_neg hkey]

end Entry

namespace MethodBlock

variable {b : MethodBlock}

/-- The entries of the block and of its functions are written as their keys want it, and the
    receivers of its functions are receivers. -/
structure WrittenWell (b : MethodBlock) : Prop where
  entries : ∀ e ∈ b.entries, e.WrittenForBlock
  functions : ∀ f ∈ b.functions, f.WrittenWell

/-- The block keeps the rules: it implements no trait, it has no parameters, and its functions keep
    the rules. -/
structure KeepsRules (b : MethodBlock) : Prop where
  inherent : b.forTrait = none
  plain : b.generics = []
  functions : ∀ f ∈ b.functions, f.KeepsRules

/-- All that speaks against the block, in the order of its text. -/
def objections (b : MethodBlock) : List DeclarationError :=
  b.entries.filterMap Entry.blockObjection? ++
    ((if b.forTrait ≠ none then [.blockOfTrait] else []) ++
      ((if b.generics ≠ [] then [.genericBlock] else []) ++
        b.functions.flatMap FunctionItem.objections))

theorem objections_eq_nil_iff :
    b.objections = [] ↔ (∀ e ∈ b.entries, e.key = "crate_path") ∧ b.KeepsRules := by
  rw [objections]
  simp only [List.append_eq_nil_iff, List.filterMap_eq_nil_iff, objectionIf_eq_nil_iff, not_not,
    List.flatMap_eq_nil_iff, Entry.blockObjection?_eq_none_iff, FunctionItem.objections_eq_nil_iff]
  exact ⟨fun ⟨hentries, hinherent, hplain, hfunctions⟩ =>
      ⟨hentries, hinherent, hplain, hfunctions⟩,
    fun ⟨hentries, hinherent, hplain, hfunctions⟩ => ⟨hentries, hinherent, hplain, hfunctions⟩⟩

/-- The functions are rejected with the first objection to one of them, or those that are not
    skipped are listed. -/
theorem planAll_heeds {functions : List FunctionItem} (h : ∀ f ∈ functions, f.WrittenWell) :
    (planAll functions).Heeds (functions.flatMap FunctionItem.objections)
      (List.Forall₂ FunctionItem.ListedAs (functions.filter fun f => ¬ f.Skipped)) := by
  induction functions with
  | nil => exact .ok .nil
  | cons f rest ih =>
    obtain ⟨hf, hrest⟩ := List.forall_mem_cons.1 h
    have hkept : ((f :: rest).filter fun f => ¬ f.Skipped) =
        (if f.Skipped then [] else [f]) ++ rest.filter fun f => ¬ f.Skipped := by
      by_cases hskip : f.Skipped <;> simp [hskip]
    rw [List.flatMap_cons, hkept]
    exact (FunctionItem.plan_heeds hf).bind fun m hm =>
      (ih hrest).bind_ok fun others hothers => List.rel_append hm hothers

theorem entries_heed (h : ∀ e ∈ b.entries, e.WrittenForBlock) :
    (b.entries.foldlM applyBlockEntry none).Heeds (b.entries.filterMap Entry.blockObjection?)
      fun _ => True :=
  Except.foldlM_heeds (fun e he o => Entry.applyBlockEntry_cases (h e he) o) fun _ _ => trivial

/-- A block is rejected with the first objection, or has the table of its functions. -/
theorem table_heeds (h : b.WrittenWell) :
    b.table.Heeds b.objections fun t =>
      List.Forall₂ FunctionItem.ListedAs (b.functions.filter fun f => ¬ f.Skipped) t.methods :=
  (entries_heed h.entries).bind fun _ _ => .check Option.isSome_iff_ne_none fun _ =>
    .check .rfl fun _ => (planAll_heeds h.functions).bind_ok fun _ hlisted => hlisted

/-- A block has a table if and only if it keeps the rules; its own entries are only for the path to
    the traits. The table lists the functions that are not skipped, in order, each under its last
    name, with its receiver, its parameters and whether it can fail; and the method that is made for
    it counts, takes and describes the same parameters. If the block breaks some of the rules, the
    first objection is reported: to an entry of the block, to its trait, to its parameters, or to a
    function, and there to one of its entries, to its name, or to its signature from left to
    right, which is not looked at if the function is skipped. -/
theorem table_heeds_first_objection (h : b.WrittenWell) :
    ((∃ t, b.table = .ok t) ↔ (∀ e ∈ b.entries, e.key = "crate_path") ∧ b.KeepsRules) ∧
    (∀ t, b.table = .ok t →
      List.Forall₂ FunctionItem.ListedAs (b.functions.filter fun f => ¬ f.Skipped) t.methods ∧
      ∀ m ∈ t.methods, ∀ self tyOf run,
        (m.declare self tyOf run).name = m.name ∧
        (m.declare self tyOf run).receiver = m.receiver ∧
        (m.declare self tyOf run).arity = m.params.length ∧
        (m.declare self tyOf run).takes = m.params.map tyOf ∧
        (m.declare self tyOf run).params = m.params.map tyOf) ∧
    ∀ e, b.table = .error e ↔ b.objections.head? = some e := by
  have hheeds := table_heeds h
  rw [← objections_eq_nil_iff]
  refine ⟨hheeds.exists_ok_iff, fun t ht => ⟨hheeds.of_eq_ok ht, ?_⟩, fun e => hheeds.eq_error_iff⟩
  intro m _ self tyOf run
  refine ⟨rfl, ?_, ?_, rfl, rfl⟩
  · exact MethodPlan.receiver_bodyOf run m.receiver
  · exact List.length_map tyOf

end MethodBlock

/-! ## A greeter, and one with a wrong name -/

namespace Sample

/-- A function that asks for nothing special. -/
def plainFunction (name : String) (receiver : Option String) (params : List SourceType)
    (result : Option SourceType) (attributes : List Attribute) : FunctionItem :=
  { name, receiver, params, result, generics := [], isAsync := false, isUnsafe := false, attributes }

/-- A function that only its being skipped makes acceptable. -/
def helper (attributes : List Attribute) : FunctionItem :=
  { plainFunction "helper" (some "self: Box<Self>") [⟨"&T"⟩] none attributes with
    generics := ["T"], isUnsafe := true }

/-- A block with two methods of one name, a skipped function and a constant. -/
def greeter : MethodBlock :=
  { self := ⟨"Greeter"⟩, forTrait := none, generics := [],
    entries := [⟨"crate_path", some "::refpath::reflect"⟩],
    items :=
      [.function (plainFunction "greet" (some "&self") [] (some ⟨"String"⟩) []), .other "LIMIT",
        .function (helper [.own [⟨"skip", none⟩]]),
        .function (plainFunction "greet_named" (some "&'_ mut self") [⟨"String"⟩, ⟨"Vec<u8>"⟩]
          (some ⟨"io::Result<String>"⟩)
          [.own [⟨"name", some "hello"⟩], .other "inline", .own [⟨"name", some "greet"⟩]])] }

/-- The block with a skipped function of an impossible name, and with a function behind it that has
    three faults of its own. -/
def misnamedGreeter : MethodBlock :=
  { greeter with
    items :=
      [.function (helper [.own [⟨"skip", none⟩, ⟨"name", some "a.b"⟩]]),
        .function { plainFunction "late" (some "mut self") [⟨"u8"⟩, ⟨"&str"⟩] none [] with
          isAsync := true }] }

theorem entries_greeter_written : ∀ e ∈ greeter.entries, e.WrittenForBlock := by
  have hread : SourcePath.read "::refpath::reflect" = .ok ⟨"::refpath::reflect"⟩ := by
    decide +kernel
  show ∀ e ∈ [_], _
  rw [List.forall_mem_singleton]
  exact fun _ => ⟨_, rfl, _, hread⟩

theorem written_name (text : String) : (Entry.mk "name" (some text)).WrittenForFunction :=
  ⟨fun _ => ⟨text, rfl⟩, fun hskip => absurd hskip (by decide : "name" ≠ "skip")⟩

theorem written_skip : (Entry.mk "skip" none).WrittenForFunction :=
  ⟨fun hname => absurd hname (by decide), fun _ => rfl⟩

/-- A receiver that can be read as one, by its tokens. -/
theorem written_receiver {text : String}
    (h : ((SourceToken.ofText? text).any fun tokens => decide (IsReceiver tokens)) = true) :
    ∀ other ∈ some text, ∃ tokens, SourceToken.ofText? other = some tokens ∧ IsReceiver tokens := by
  rintro _ ⟨⟩
  obtain ⟨tokens, hread, hreceiver⟩ := (Option.any_eq_true _ _).1 h
  exact ⟨tokens, hread, of_decide_eq_true hreceiver⟩

theorem greeter_written : greeter.WrittenWell := by
  refine ⟨entries_greeter_written, ?_⟩
  show ∀ f ∈ [_, _, _], _
  simp only [List.forall_mem_cons]
  refine ⟨⟨nofun, written_receiver (by decide +kernel)⟩,
    ⟨?_, written_receiver (by decide +kernel)⟩, ⟨?_, written_receiver (by decide +kernel)⟩, nofun⟩
  · show ∀ e ∈ [_], _
    simp only [List.forall_mem_cons]
    exact ⟨written_skip, nofun⟩
  · show ∀ e ∈ [_, _], _
    simp only [List.forall_mem_cons]
    exact ⟨written_name _, written_name _, nofun⟩

theorem misnamedGreeter_written : misnamedGreeter.WrittenWell := by
  refine ⟨entries_greeter_written, ?_⟩
  show ∀ f ∈ [_, _], _
  simp only [List.forall_mem_cons]
  refine ⟨⟨?_, written_receiver (by decide +kernel)⟩,
    ⟨nofun, written_receiver (by decide +kernel)⟩, nofun⟩
  show ∀ e ∈ [_, _], _
  simp only [List.forall_mem_cons]
  exact ⟨written_skip, written_name _, nofun⟩

/-- The second method of the greeter goes by its last name and can fail. In the other block, the
    name of the skipped function is reported, although the function behind it has more faults. -/
theorem misnamed_greeter_is_rejected :
    greeter.WrittenWell ∧ greeter.KeepsRules ∧
      (∃ t first second, greeter.table = .ok t ∧ t.methods = [first, second] ∧
        first.name = "greet" ∧ first.receiver = .shared ∧ first.fallible = false ∧
        second.name = "greet" ∧ second.receiver = .mutable ∧ second.fallible = true ∧
        second.params.map (·.text) = ["String", "Vec<u8>"]) ∧
    misnamedGreeter.WrittenWell ∧
      misnamedGreeter.objections = [.badMethodName, .asyncMethod, .badReceiver, .badParameter] ∧
      misnamedGreeter.table = .error .badMethodName := by
  have hlist : misnamedGreeter.objections =
      [.badMethodName, .asyncMethod, .badReceiver, .badParameter] := by decide +kernel
  have hrules : (∀ e ∈ greeter.entries, e.key = "crate_path") ∧ greeter.KeepsRules :=
    MethodBlock.objections_eq_nil_iff.1 (by decide +kernel)
  have hkept : (greeter.functions.filter fun f => ¬ f.Skipped) =
      [plainFunction "greet" (some "&self") [] (some ⟨"String"⟩) [],
        plainFunction "greet_named" (some "&'_ mut self") [⟨"String"⟩, ⟨"Vec<u8>"⟩]
          (some ⟨"io::Result<String>"⟩)
          [.own [⟨"name", some "hello"⟩], .other "inline", .own [⟨"name", some "greet"⟩]]] := by
    decide +kernel
  obtain ⟨hiff, hlists, -⟩ := MethodBlock.table_heeds_first_objection greeter_written
  obtain ⟨-, -, hfirst⟩ := MethodBlock.table_heeds_first_objection misnamedGreeter_written
  obtain ⟨t, ht⟩ := hiff.2 hrules
  obtain ⟨hlisted, -⟩ := hlists t ht
  rw [hkept] at hlisted
  obtain ⟨first, rest, hone, hrest, hmethods⟩ := List.forall₂_cons_left_iff.1 hlisted
  obtain ⟨second, none, htwo, hnone, rfl⟩ := List.forall₂_cons_left_iff.1 hrest
  obtain rfl := List.forall₂_nil_left_iff.1 hnone
  refine ⟨greeter_written, hrules.2, ⟨t, first, second, ht, hmethods, ?_, ?_, ?_, ?_, ?_, ?_, ?_⟩,
    misnamedGreeter_written, hlist, (hfirst _).2 ?_⟩
  · rw [hone.name]
    decide
  · exact Option.some.inj (hone.receiver.symm.trans (by decide +kernel))
  · rw [Bool.eq_false_iff, ne_eq, hone.fallible]
    decide +kernel
  · rw [htwo.name]
    decide
  · exact Option.some.inj (htwo.receiver.symm.trans (by decide +kernel))
  · rw [htwo.fallible]
    decide +kernel
  · rw [htwo.params]
    rfl
  · rw [hlist]
    rfl

end Sample

end ObjectPath
