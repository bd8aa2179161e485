import ObjectPath.Declaration.SourceExpression

/-!
# The grammar of types and paths

Readers for the types and paths of source texts, with the arguments that their names may have.
Only the outermost shape of what was read is kept; the rest is checked.

A path is a chain of names joined by `::`. In a type the last name may also be called like a
function, with the types of parameters and of a result.
-/

namespace ObjectPath

/-! ## Shapes -/

/-- The arguments of a name. -/
inductive ArgumentShape where
  | absent
  | angled (isEmpty : Bool)
  | called
deriving DecidableEq

/-- There are no arguments in front of which others may stand. -/
def ArgumentShape.isEmpty : ArgumentShape → Bool
  | absent => true
  | angled isEmpty => isEmpty
  | called => false

/-- The shape of a path. -/
structure PathShape where
  /-- The path begins with a type between angle brackets. -/
  qualified : Bool
  /-- The path is one name without `::` in front. -/
  single : Bool
  lastName : String
  /-- The arguments of the last name. -/
  arguments : ArgumentShape
  /-- No name has arguments. -/
  plain : Bool
deriving DecidableEq

/-- The shape of a type. -/
inductive TypeShape where
  | path (shape : PathShape)
  /-- Bounds joined by `+`: whether they stand without `dyn`, and whether there is only one. -/
  | bounds (bare single : Bool)
  | reference
  | implementer
  | inferred
  | other
deriving DecidableEq

namespace SourceToken

/-! ## Words -/

/-- Keywords that are names in a path. They take no arguments. -/
def bareNames : List String := ["super", "self", "crate", "try"]

/-- The other keywords, which are no names. -/
def keywords : List String :=
  ["_", "abstract", "as", "async", "await", "become", "box", "break", "const", "continue", "do",
   "dyn", "else", "enum", "extern", "false", "final", "fn", "for", "if", "impl", "in", "let",
   "loop", "macro", "match", "mod", "move", "mut", "override", "priv", "pub", "ref", "return",
   "static", "struct", "trait", "true", "type", "typeof", "unsafe", "unsized", "use", "virtual",
   "where", "while", "yield"]

/-- The word is a name of its own and not a keyword. -/
def isFreeName (word : String) : Bool :=
  !keywords.contains word && !bareNames.contains word && word != "Self"

/-- The word can begin the path of a type. -/
def beginsPath (word : String) : Bool := !keywords.contains word && word != "try"

/-- The words that begin the type of a function pointer. -/
def pointerWords : List String := ["fn", "unsafe", "extern"]

/-- The `<` before these tokens is a bracket and not the beginning of another operator; `joint`
    tells that a mark follows it at once. -/
def opensArguments (joint : Bool) (rest : List SourceToken) : Bool :=
  match joint, rest with
  | true, .mark '=' _ :: _ | true, .mark '<' true :: .mark '=' _ :: _ => false
  | _, _ => true

/-- The parameters of a called name come next, perhaps after `::`. -/
def nextCall (tokens : List SourceToken) : Bool :=
  nextOpening .parenthesis tokens ||
    nextSeparator tokens && nextOpening .parenthesis (tokens.drop 2)

/-- `::` comes next, and not the parameters of a called name. -/
def nextJoint (tokens : List SourceToken) : Bool :=
  nextSeparator tokens && !nextOpening .parenthesis (tokens.drop 2)

/-- What comes next can begin a bound behind a `+`. -/
def nextBound (tokens : List SourceToken) : Bool :=
  match tokens with
  | .name _ :: _ | .lifetime _ :: _ | .opening .parenthesis :: _ | .mark '?' _ :: _ => true
  | _ => nextSeparator tokens

/-- An arrow comes next. -/
def nextArrow : List SourceToken → Bool
  | .mark '-' true :: .mark '>' _ :: _ => true
  | _ => false

/-- A call of a macro comes behind a path. -/
def nextMacro : List SourceToken → Bool
  | .mark '!' true :: .mark '=' _ :: _ => false
  | tokens => nextMark '!' tokens

/-- A name with a colon comes next, as for a parameter. -/
def nextLabel : List SourceToken → Bool
  | .name word :: .mark ':' joint :: rest =>
    (isFreeName word || word == "_" || word == "self") && !(joint && nextMark ':' rest)
  | _ => false

/-- Three dots come next, perhaps with a name and a colon in front. -/
def nextDots : List SourceToken → Bool
  | .name word :: .mark ':' _ :: .mark '.' true :: .mark '.' true :: .mark '.' _ :: _ =>
    isFreeName word || word == "_"
  | .mark '.' true :: .mark '.' true :: .mark '.' _ :: _ => true
  | _ => false

end SourceToken

namespace Reading

open SourceToken

/-! ## Binders -/

/-- The lifetimes that a lifetime outlives, joined by `+`. -/
def outlived : Nat → Reading Unit
  | 0 => throw .tooDeep
  | n + 1 => do
    unless (← next atEnd) || (← next (nextMark ',')) || (← next (nextMark '>')) do
      unless ← lifetime? do missing .lifetime
      if ← mark? '+' then outlived n

/-- The parameters of a binder, up to its closing bracket. -/
def parameters : Nat → Reading Unit
  | 0 => throw .tooDeep
  | n + 1 => do
    unless ← mark? '>' do
      if ← lifetime? then
        if ← mark? ':' then outlived n
      else
        match ← rest with
        | .name word :: _ => if isFreeName word then skip 1 else missing .parameter
        | _ => missing .parameter
      unless ← mark? '>' do
        mark ','
        parameters n

/-- A binder such as `for<'a>`, if it comes next. -/
def binder? (n : Nat) : Reading Bool := do
  if ← word? "for" then
    mark '<'
    parameters n
    return true
  else return false

/-! ## Types -/

mutual

/-- A type; bounds joined by `+` are one type only if `plus` holds. -/
def type (plus : Bool) : Nat → Reading TypeShape
  | 0 => throw .tooDeep
  | n + 1 => do
    if ← binder? n then
      match ← rest with
      | .name word :: _ =>
        if pointerWords.contains word then pointer n
        else if beginsPath word then boundPath plus true n
        else missing .boundOfAll
      | _ => missing .boundOfAll
    else
      match ← rest with
      | .opening .parenthesis :: _ => parenthesized plus n
      | .opening .square :: _ =>
        skip 1
        discard (type true n)
        if ← mark? ';' then expression n
        close .square
        return .other
      | .name word :: _ =>
        if pointerWords.contains word then pointer n
        else if word = "dyn" then
          skip 1
          discard (mark? '*')
          let (single, hasTrait) ← bounds plus n
          unless hasTrait do throw .objectWithoutTrait
          return .bounds false single
        else if word = "impl" then
          skip 1
          let (_, hasTrait) ← bounds plus n
          unless hasTrait do throw .implementerWithoutTrait
          return .implementer
        else if word = "_" then
          skip 1
          return .inferred
        else if beginsPath word then boundPath plus false n
        else missing .type
      | .lifetime _ :: _ => lifetimeBounds n
      | .mark '*' _ :: _ =>
        skip 1
        unless (← word? "const") || (← word? "mut") do missing .pointerKind
        discard (type false n)
        return .other
      | .mark '&' _ :: _ =>
        skip 1
        discard lifetime?
        discard (word? "mut")
        discard (type false n)
        return .reference
      | .mark '!' _ :: _ =>
        skip 1
        return .other
      | tokens =>
        if nextSeparator tokens || nextMark '<' tokens then boundPath plus false n
        else missing .type

/-- Bounds that begin with a lifetime. -/
def lifetimeBounds : Nat → Reading TypeShape
  | 0 => throw .tooDeep
  | n + 1 => do
    let (single, hasTrait) ← bounds true n
    unless hasTrait do throw .objectWithoutTrait
    return .bounds true single

/-- A type that begins with a path: the path, the call of a macro, or bounds. `bound` tells that
    a binder stands in front. -/
def boundPath (plus bound : Bool) : Nat → Reading TypeShape
  | 0 => throw .tooDeep
  | n + 1 => do
    let shape ← typePath n
    if shape.qualified then return .path shape
    else if shape.plain && (← next nextMacro) then
      skip 1
      match ← rest with
      | .opening _ :: _ =>
        skipGroup
        return .other
      | _ => missing .delimiter
    else if bound || plus && (← next (nextMark '+')) then
      return .bounds true (← moreBounds plus true n).1
    else return .path shape

/-- A type or several in parentheses. -/
def parenthesized (plus : Bool) : Nat → Reading TypeShape
  | 0 => throw .tooDeep
  | n + 1 => do
    skip 1
    match ← rest with
    | .closing _ :: _ =>
      close .parenthesis
      return .other
    | .lifetime _ :: _ =>
      discard (lifetimeBounds n)
      close .parenthesis
      return .other
    | .mark '?' _ :: _ =>
      trait n
      close .parenthesis
      return .bounds true (← addedBounds n)
    | _ =>
      let first ← type true n
      if ← next (nextMark ',') then
        skip 1
        types n
        close .parenthesis
        return .other
      else
        close .parenthesis
        let opens := match first with
          | .path shape => !shape.qualified
          | .bounds bare single => bare && single
          | _ => false
        if plus && opens && (← next (nextMark '+')) then return .bounds true (← addedBounds n)
        else return .other

/-- Types separated by commas, up to the closing bracket. -/
def types : Nat → Reading Unit
  | 0 => throw .tooDeep
  | n + 1 => do
    unless ← next atEnd do
      discard (type true n)
      unless ← next atEnd do
        mark ','
        types n

/-- A function pointer. -/
def pointer : Nat → Reading TypeShape
  | 0 => throw .tooDeep
  | n + 1 => do
    discard (word? "unsafe")
    if ← word? "extern" then
      match ← rest with
      | .literal _ :: _ => skip 1
      | _ => pure ()
    unless ← word? "fn" do missing (.keyword "fn")
    unless ← next (nextOpening .parenthesis) do missing .parentheses
    skip 1
    labelledTypes n
    close .parenthesis
    result n
    return .other

/-- The parameters of a function pointer, which may have names, and the three dots that stand for
    others. -/
def labelledTypes : Nat → Reading Unit
  | 0 => throw .tooDeep
  | n + 1 => do
    unless ← next atEnd do
      if ← next nextDots then
        unless ← next (nextMark '.') do skip 2
        skip 3
        discard (mark? ',')
      else
        if ← next nextLabel then skip 2
        discard (type true n)
        unless ← next atEnd do
          mark ','
          labelledTypes n

/-- The result behind an arrow, if there is one. -/
def result : Nat → Reading Unit
  | 0 => throw .tooDeep
  | n + 1 => do
    if ← next nextArrow then
      skip 2
      discard (type false n)

/-- Bounds joined by `+`, of which only the first is read unless `plus` holds: whether there is
    only one, and whether a trait is among them. -/
def bounds (plus : Bool) : Nat → Reading (Bool × Bool)
  | 0 => throw .tooDeep
  | n + 1 => do
    let isTrait ← bound n
    let (single, others) ← moreBounds plus isTrait n
    return (single, others)

/-- The bounds behind a first one, and whether there are none, and whether a trait is among all
    of them. -/
def moreBounds (plus hasTrait : Bool) : Nat → Reading (Bool × Bool)
  | 0 => throw .tooDeep
  | n + 1 => do
    if plus && (← next (nextMark '+')) then
      skip 1
      if ← next nextBound then
        let isTrait ← bound n
        let (_, others) ← moreBounds plus (hasTrait || isTrait) n
        return (false, others)
      else return (false, hasTrait)
    else return (true, hasTrait)

/-- The bounds behind parentheses, each of which must be there; whether there are none. -/
def addedBounds : Nat → Reading Bool
  | 0 => throw .tooDeep
  | n + 1 => do
    if ← mark? '+' then
      discard (bound n)
      discard (addedBounds n)
      return false
    else return true

/-- A bound, and whether it is a trait and not a lifetime. -/
def bound : Nat → Reading Bool
  | 0 => throw .tooDeep
  | n + 1 => do
    if ← lifetime? then return false
    else if ← next (nextOpening .parenthesis) then
      skip 1
      trait n
      close .parenthesis
      return true
    else
      trait n
      return true

/-- A trait as a bound. -/
def trait : Nat → Reading Unit
  | 0 => throw .tooDeep
  | n + 1 => do
    let hasBinder ← binder? n
    if ← mark? '?' then
      unless hasBinder do discard (binder? n)
    let shape ← path n
    if shape.arguments.isEmpty && (← next nextCall) then call n

/-- A path without calls. -/
def path : Nat → Reading PathShape
  | 0 => throw .tooDeep
  | n + 1 => do
    let leading ← separator?
    let (word, arguments) ← segment n
    names nextJoint ⟨false, !leading, word, arguments, arguments = .absent⟩ n

/-- The names behind the beginning of a path, as long as the test finds `::`. -/
def names (test : List SourceToken → Bool) (shape : PathShape) : Nat → Reading PathShape
  | 0 => throw .tooDeep
  | n + 1 => do
    if ← next test then
      skip 2
      let (word, arguments) ← segment n
      names test
        { shape with
          single := false
          lastName := word
          arguments := arguments
          plain := shape.plain && arguments = .absent } n
    else return shape

/-- The path of a type, with calls. -/
def typePath : Nat → Reading PathShape
  | 0 => throw .tooDeep
  | n + 1 => do
    if ← next (nextMark '<') then
      skip 1
      discard (type true n)
      if ← word? "as" then discard (path n)
      mark '>'
      unless ← separator? do throw (.markExpected "::")
      let (word, arguments) ← segment n
      let shape ← names nextSeparator ⟨true, false, word, arguments, false⟩ n
      calls shape n
    else
      let shape ← path n
      calls shape n

/-- The calls behind a path, and the names behind them. -/
def calls (shape : PathShape) : Nat → Reading PathShape
  | 0 => throw .tooDeep
  | n + 1 => do
    if shape.arguments.isEmpty && (← next nextCall) then
      call n
      let longer ← names nextJoint { shape with arguments := .called, plain := false } n
      calls longer n
    else return shape

/-- The parameters and the result of a called name. -/
def call : Nat → Reading Unit
  | 0 => throw .tooDeep
  | n + 1 => do
    discard separator?
    skip 1
    types n
    close .parenthesis
    result n

/-- A name of a path, with its arguments. -/
def segment : Nat → Reading (String × ArgumentShape)
  | 0 => throw .tooDeep
  | n + 1 => do
    match ← rest with
    | .name word :: _ =>
      if keywords.contains word then throw (.keywordFound word)
      skip 1
      if bareNames.contains word then return (word, .absent)
      else
        match ← rest with
        | .mark '<' joint :: others =>
          if opensArguments joint others then return (word, ← angled n)
          else return (word, .absent)
        | .mark ':' true :: .mark ':' _ :: .mark '<' _ :: _ =>
          skip 2
          return (word, ← angled n)
        | _ => return (word, .absent)
    | _ => missing .name

/-- The arguments of a name, between angle brackets. -/
def angled : Nat → Reading ArgumentShape
  | 0 => throw .tooDeep
  | n + 1 => do
    mark '<'
    let isEmpty ← next (nextMark '>')
    argumentList n
    return .angled isEmpty

/-- Arguments separated by commas, up to the closing bracket. -/
def argumentList : Nat → Reading Unit
  | 0 => throw .tooDeep
  | n + 1 => do
    unless ← mark? '>' do
      argument n
      unless ← mark? '>' do
        mark ','
        argumentList n

/-- An argument: a lifetime, a constant, a type, or what a member of a trait is or is bounded
    by. -/
def argument : Nat → Reading Unit
  | 0 => throw .tooDeep
  | n + 1 => do
    let isLifetime ← next fun
      | .lifetime _ :: others => !nextMark '+' others
      | _ => false
    if isLifetime then skip 1
    else if ← next nextConstant then constant n
    else
      match ← type true n with
      | .path shape =>
        if shape.single && !shape.qualified && shape.arguments ≠ .called then
          if ← mark? '=' then
            if ← next nextConstant then constant n
            else discard (type true n)
          else if ← mark? ':' then memberBounds n
      | _ => pure ()

/-- The bounds of a member. -/
def memberBounds : Nat → Reading Unit
  | 0 => throw .tooDeep
  | n + 1 => do
    unless (← next (nextMark ',')) || (← next (nextMark '>')) do
      discard (bound n)
      if ← mark? '+' then memberBounds n

end

end Reading

end ObjectPath
