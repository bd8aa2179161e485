import ObjectPath.Declaration.SourceGrammar

/-!
# Paths in source texts

`SourcePath.read` takes a whole text as a path, or tells what is wrong with it first.
-/

namespace ObjectPath

/-- A path, as the text of its tokens without blanks. -/
structure SourcePath where
  text : String
deriving DecidableEq

/-- Reads a text as a path. -/
def SourcePath.read (text : String) : Except DeclarationError SourcePath :=
  (Reading.whole Reading.path text).map fun read => ⟨SourceToken.compact read.2⟩

end ObjectPath
