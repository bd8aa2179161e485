import ObjectPath.Decimal.Notation
import ObjectPath.Doc
import ObjectPath.Schema

/-!
# Values as texts

Two texts of a value: `Value.display?` for reading, which only scalars have, and the structured
`Schema.doc` for inspection, which shows texts in quotes, optional values as `Some` or `None`,
and objects by short class name with the base object first.
-/

namespace ObjectPath

/-- The text of a scalar for reading. -/
def Value.display? : Value → Option String
  | .bool b => some (if b then "true" else "false")
  | .char c => some (String.singleton c)
  | .int _ n => some (toString n)
  | .float k bits => some (Decimal.Style.display.write (k.format.number bits))
  | .string s => some s
  | _ => none

namespace ClassDecl

/-- Model of `struct_debug`: the object with its slots written out. -/
def objectDoc (c : ClassDecl) (docs : List Doc) : Doc :=
  if c.isSealed then .atom ("Opaque(" ++ c.id.path ++ ")")
  else
    let cells := c.slots.zip docs
    let base := match c.base with
      | none => []
      | some member =>
        (cells.filter fun cell => cell.1.role = .base).map fun cell => (member.name, cell.2)
    let declared := (cells.filter fun cell => cell.1.role = .declared).map fun cell =>
      (cell.1.name, cell.2)
    .fields (Ty.object c.id).name (base ++ declared)

end ClassDecl

namespace Schema

mutual

/-- Model of `reflect_debug`: the value for inspection. -/
def doc (S : Schema) : Value → Doc
  | .unit => .atom "()"
  | .null => .atom "Null"
  | .bool b => .atom (if b then "true" else "false")
  | .char c => .atom (Text.quotedChar c)
  | .int _ n => .atom (toString n)
  | .float k bits => .atom (Decimal.Style.debug.write (k.format.number bits))
  | .string s => .quote s
  | .absent _ => .option none
  | .present payload => .option (some (doc S payload))
  | .vector _ items => .group .list "" (docEach S items)
  | .object id slots => (S.decl id).objectDoc (docEach S slots)

/-- The values for inspection, one by one. -/
def docEach (S : Schema) : List Value → List Doc
  | [] => []
  | v :: rest => doc S v :: docEach S rest

end

end Schema

end ObjectPath
