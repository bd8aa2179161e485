import ObjectPath.Gallery.Declare

/-!
# Classes that share names

Classes with the same short name in different modules, one in no module at all, one with the
short name of a built-in type, and two with the same full path.
-/

namespace ObjectPath.Gallery

/-- An item with a number. -/
def shopItem : ClassDecl := .named "shop::Item" [.plain "id" (.int .u32)]

/-- The identity of `depot::Item`. -/
def depotItemId : ClassId := ⟨"depot::Item", ""⟩

/-- An item with a label. -/
def depotItem : ClassDecl :=
  ClassDecl.of depotItemId [.plain "label" .string]
  |>.method "fresh" [] (.makes fun _ => .object depotItemId [.string "fresh"])

/-- An item with a tag. -/
def yardItem : ClassDecl := .named "yard::deep::Item" [.plain "tag" .char]

/-- The identity of `Item`. -/
def bareItemId : ClassId := ⟨"Item", ""⟩

/-- An item in no module. -/
def bareItem : ClassDecl :=
  ClassDecl.of bareItemId [.plain "n" (.int .i8)]
  |>.method "fresh" [] (.makes fun _ => .object bareItemId [.int .i8 1])

/-- A class with the short name of the built-in texts. -/
def fakeString : ClassDecl :=
  ClassDecl.named "fake::String" [.plain "s" .string]
  |>.method "len" [] (.makes fun _ => .int .i32 (-1))

/-- One of two classes with the same path. -/
def twin (variant field : String) : ClassDecl :=
  ClassDecl.of ⟨"dup::Twin", variant⟩ [.plain field (.int .i32)]
  |>.method "which" [] (.makes fun _ => .string variant)

/-- A class that registers itself, with an item inside another item. -/
def plain : ClassDecl :=
  let bare := ClassDecl.named "oracle_driver::fixture::plain::Plain"
    [.embedding "item" shopItem, .plain "next" (.optional depotItem.objects)]
  { bare with autoRegister := true }

/-- The classes of this module, bases first. -/
def names : List ClassDecl :=
  [shopItem, depotItem, yardItem, bareItem, fakeString, twin "A" "a", twin "B" "b", plain]

end ObjectPath.Gallery
