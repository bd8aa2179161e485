import ObjectPath.Declaration.SourceToken

/-!
# Attributes of source items

A class can be declared by an annotated source item, and its methods by an annotated block of
functions. The annotations are attributes with entries: a flag is a key alone, a setting is a
key with a text. Attributes of other tools stand among them and are left alone.

`DeclarationError` lists what can be wrong with an item and its entries.
-/

namespace ObjectPath

/-- What is missing at a place of a source text. -/
inductive Wanted where
  | name
  | lifetime
  | keyword (word : String)
  | parentheses
  | delimiter
  | expression
  | pointerKind
  | parameter
  | boundOfAll
  | type
deriving DecidableEq

/-- How the message of an error calls it. -/
def Wanted.text : Wanted → String
  | name => "identifier"
  | lifetime => "lifetime"
  | keyword word => "`" ++ word ++ "`"
  | parentheses => "parentheses"
  | delimiter => "delimiter"
  | expression => "an expression"
  | pointerKind => "`const` or `mut`"
  | parameter => "one of: identifier, lifetime, `const`"
  | boundOfAll =>
    "one of: identifier, `fn`, `unsafe`, `extern`, `super`, `self`, `Self`, `crate`"
  | type =>
    "one of: `for`, parentheses, `fn`, `unsafe`, `extern`, identifier, `::`, `<`, `dyn`, " ++
      "square brackets, `*`, `&`, `!`, `impl`, `_`, lifetime"

/-- Why an annotated item is rejected. -/
inductive DeclarationError where
  /-- The mark does not come next. -/
  | markExpected (mark : String)
  /-- The text cannot be cut into tokens. -/
  | unreadable
  /-- Something else comes next, or nothing. -/
  | expected (what : Wanted) (atEnd : Bool)
  | keywordFound (word : String)
  /-- Something follows what should be the last thing, inside the brackets if there are any. -/
  | unexpected (inside : Option SourceBracket)
  | statementContinues
  | objectWithoutTrait
  | implementerWithoutTrait
  /-- The text is nested more deeply than it is long, which does not happen. -/
  | tooDeep
  | badTypePath
  | unknownClassEntry
  | genericClass
  | notARecord
  | unknownFieldEntry
  | ignoredBase
  | secondBase
  | unknownBlockEntry
  | blockOfTrait
  | genericBlock
  | unknownMethodEntry
  | badMethodName
  | genericMethod
  | asyncMethod
  | unsafeMethod
  | badReceiver
  | badParameter
  | badResult
deriving DecidableEq

/-- The text of the error. -/
def DeclarationError.message : DeclarationError → String
  | markExpected mark => "expected `" ++ mark ++ "`"
  | unreadable => "cannot parse string into token stream"
  | expected what atEnd =>
    (if atEnd then "unexpected end of input, " else "") ++ "expected " ++ what.text
  | keywordFound word => "expected identifier, found keyword `" ++ word ++ "`"
  | unexpected none => "unexpected token"
  | unexpected (some bracket) =>
    "unexpected token, expected `" ++ bracket.ends.2.toString ++ "`"
  | statementContinues => "unexpected token, expected `;`"
  | objectWithoutTrait => "at least one trait is required for an object type"
  | implementerWithoutTrait => "at least one trait must be specified"
  | tooDeep => "the text is nested too deeply"
  | badTypePath => "`type_path` must be a path like \"module::Name\""
  | unknownClassEntry =>
    "unsupported reflect attribute, expected one of " ++
      "`type_path`, `methods`, `auto_register`, `clone`, `crate_path`"
  | genericClass => "#[derive(Reflect)] does not support generic types"
  | notARecord => "#[derive(Reflect)] only supports structs with named fields"
  | unknownFieldEntry => "unsupported field attribute, expected `extends` or `ignore`"
  | ignoredBase => "a base class field cannot be ignored"
  | secondBase => "a class can extend only one base class"
  | unknownBlockEntry => "unsupported argument, expected `crate_path`"
  | blockOfTrait => "#[reflect_methods] only applies to inherent impl blocks"
  | genericBlock => "#[reflect_methods] does not support generic impl blocks"
  | unknownMethodEntry => "unsupported method attribute, expected `name` or `skip`"
  | badMethodName =>
    "a reflected method name cannot be empty or contain `.`, `(`, `)` or `,`"
  | genericMethod => "generic methods cannot be reflected, mark them `#[reflect(skip)]`"
  | asyncMethod => "async methods cannot be reflected"
  | unsafeMethod => "unsafe methods cannot be reflected"
  | badReceiver => "reflected methods take `&self`, `&mut self` or no receiver"
  | badParameter => "reflected parameters must be an owned, named type"
  | badResult => "reflected return values must be an owned, named type"

/-- An entry of an attribute: a key, alone or with a text. -/
structure Entry where
  key : String
  value : Option String
deriving DecidableEq

namespace Entry

/-- What a flag stands for; a flag has no text. -/
def flag {α : Type} (e : Entry) (meaning : α) : Except DeclarationError α :=
  if e.value.isSome then .error (.markExpected ",") else .ok meaning

/-- The text of a setting, which must have one. -/
def setting (e : Entry) : Except DeclarationError String :=
  match e.value with
  | some text => .ok text
  | none => .error (.markExpected "=")

end Entry

/-- An attribute of an item: entries for declarations, or the text of some other tool's. -/
inductive Attribute where
  | own (entries : List Entry)
  | other (text : String)
deriving DecidableEq

/-- The entries of an item, in the order in which `parse_attrs` reads them; it does not matter how
    they are grouped. -/
def entriesOf (attributes : List Attribute) : List Entry :=
  attributes.flatMap fun
    | .own entries => entries
    | .other _ => []

/-- The attributes of other tools. -/
def othersOf (attributes : List Attribute) : List String :=
  attributes.filterMap fun
    | .own _ => none
    | .other text => some text

/-- An identifier without the mark of a raw one. -/
def plainName (name : String) : String :=
  match name.toList with
  | 'r' :: '#' :: rest => String.ofList rest
  | _ => name

end ObjectPath
