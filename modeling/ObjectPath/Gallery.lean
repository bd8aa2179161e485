import ObjectPath.Gallery.Names
import ObjectPath.Gallery.Odd
import ObjectPath.Gallery.Over
import ObjectPath.Gallery.Prim
import ObjectPath.Gallery.Sys

/-!
# The gallery

A schema of sample classes that between them have everything a schema can have.
-/

namespace ObjectPath

/-- The sample classes. -/
def gallery : Schema where
  classes := Gallery.zoo ++ Gallery.overloads ++ Gallery.prim ++ Gallery.odd ++ Gallery.names ++
    Gallery.sys
  bases_first := by decide +kernel

end ObjectPath
