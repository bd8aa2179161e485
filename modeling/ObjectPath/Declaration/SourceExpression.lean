import ObjectPath.Declaration.SourceReader

/-!
# Constants in source texts

The length of an array and some arguments of names are constants: literals, or expressions. Of
expressions the operands and operators are told apart, so that a missing operand or operator is
found; control structures, closures, ranges and blocks of several statements are taken whole.
-/

namespace ObjectPath

namespace SourceToken

/-- A literal comes next, which may be a negative number or a truth value. -/
def nextLiteral : List SourceToken → Bool
  | .literal _ :: _ | .name "true" :: _ | .name "false" :: _ => true
  | .mark '-' _ :: .literal text :: _ => text.toList.head?.any Char.isDigit
  | _ => false

/-- A literal or a block comes next. -/
def nextConstant (tokens : List SourceToken) : Bool :=
  nextLiteral tokens || nextOpening .curly tokens

/-- Words that begin an expression or a statement which is taken whole. -/
def statementWords : List String :=
  ["if", "match", "loop", "while", "for", "unsafe", "async", "const", "move", "return", "break",
   "continue", "let", "static", "fn", "struct", "enum", "use", "type", "impl", "mod", "trait",
   "yield", "extern", "pub", "macro"]

/-- The other keywords that no expression begins with. -/
def operatorWords : List String :=
  ["as", "else", "in", "where", "mut", "ref", "dyn", "abstract", "final", "override", "priv",
   "typeof", "unsized", "virtual", "become", "box", "do", "await"]

/-- Marks that stand in front of an operand. -/
def signs : List Char := ['-', '!', '*', '&']

/-- Marks that begin an expression which is taken whole. -/
def wholeMarks : List Char := ['|', '<', '#', '.']

/-- The operators of several marks. -/
def longOperators : List (List Char) :=
  ["<<=", ">>=", "&&", "||", "==", "!=", "<=", ">=", "<<", ">>", "+=", "-=", "*=", "/=", "%=",
   "^=", "&=", "|="].map String.toList

/-- The operators of one mark. -/
def shortOperators : List Char := ['+', '-', '*', '/', '%', '^', '&', '|', '<', '>', '=']

/-- The marks in front of the tokens, up to one that is not joint. -/
def frontMarks : List SourceToken → List Char
  | .mark c true :: rest => c :: frontMarks rest
  | .mark c false :: _ => [c]
  | _ => []

/-- The length of the operator in front of the tokens; none if there is no operator. -/
def operatorLength (tokens : List SourceToken) : Nat :=
  let marks := frontMarks tokens
  match longOperators.find? (·.isPrefixOf marks) with
  | some operator => operator.length
  | none => if marks.head?.any shortOperators.contains then 1 else 0

end SourceToken

namespace Reading

open SourceToken

mutual

/-- An expression: operands joined by operators. -/
def expression : Nat → Reading Unit
  | 0 => throw .tooDeep
  | n + 1 => do
    match ← rest with
    | .literal _ :: _ =>
      skip 1
      operandEnd n
    | .name word :: _ =>
      if statementWords.contains word then skipContents
      else if operatorWords.contains word then missing .expression
      else
        skip 1
        operandEnd n
    | .opening _ :: _ =>
      skipGroup
      operandEnd n
    | .lifetime _ :: _ => skipContents
    | .mark c joint :: _ =>
      if c = ':' ∧ joint then
        skip 2
        expression n
      else if signs.contains c then
        skip 1
        discard (word? "mut")
        expression n
      else if wholeMarks.contains c then skipContents
      else missing .expression
    | _ => missing .expression

/-- What may follow the beginning of an operand, and the operators and operands behind it. -/
def operandEnd : Nat → Reading Unit
  | 0 => throw .tooDeep
  | n + 1 => do
    match ← rest with
    | .opening _ :: _ =>
      skipGroup
      operandEnd n
    | .mark '!' _ :: .opening _ :: _ =>
      skip 1
      skipGroup
      operandEnd n
    | .mark ':' true :: .mark ':' _ :: .name _ :: _ =>
      skip 3
      operandEnd n
    | .mark ':' true :: .mark ':' _ :: .mark '<' _ :: _ | .mark '.' true :: _
    | .name "as" :: _ => skipContents
    | .mark '.' _ :: .name _ :: _ | .mark '.' _ :: .literal _ :: _ =>
      skip 2
      operandEnd n
    | .mark '?' _ :: _ =>
      skip 1
      operandEnd n
    | tokens =>
      let length := operatorLength tokens
      if length ≠ 0 then
        skip length
        expression n

end

/-- A block between curly brackets. -/
def block (n : Nat) : Reading Unit := do
  skip 1
  unless ← next atEnd do
    expression n
    if ← next (nextMark ';') then skipContents
    unless ← next atEnd do throw .statementContinues
  close .curly

/-- A constant that comes next. -/
def constant (n : Nat) : Reading Unit := do
  if ← next (nextOpening .curly) then block n
  else if ← mark? '-' then skip 1
  else skip 1

end Reading

end ObjectPath
