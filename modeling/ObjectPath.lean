import ObjectPath.Declaration.MethodBlock
import ObjectPath.Equality
import ObjectPath.Gallery
import ObjectPath.Part
import ObjectPath.Reflector
import ObjectPath.Text.Pad
import ObjectPath.Proofs.Conversion
import ObjectPath.Proofs.Soundness
import ObjectPath.Proofs.Invocation
import ObjectPath.Proofs.CallSafety
import ObjectPath.Proofs.Assignment
import ObjectPath.Proofs.Rejection
import ObjectPath.Proofs.Undo
import ObjectPath.Proofs.Separation
import ObjectPath.Proofs.Composition
import ObjectPath.Proofs.Conformity
import ObjectPath.Proofs.Keeping
import ObjectPath.Proofs.Preservation
import ObjectPath.Proofs.Delegation
import ObjectPath.Proofs.Transparency
import ObjectPath.Proofs.Declared
import ObjectPath.Proofs.Writing
import ObjectPath.Proofs.StaticEntry
import ObjectPath.Proofs.Registration
import ObjectPath.Proofs.Indexing
import ObjectPath.Proofs.Cutting
import ObjectPath.Proofs.Printing
import ObjectPath.Proofs.Tiling
import ObjectPath.Proofs.Peeling
import ObjectPath.Proofs.CallForm
import ObjectPath.Proofs.Numerals
import ObjectPath.Proofs.Offsets
import ObjectPath.Proofs.NameOnly
import ObjectPath.Proofs.Renumbering
import ObjectPath.Proofs.Equivalence
import ObjectPath.Proofs.Wrapping
import ObjectPath.Proofs.WriteBack
import ObjectPath.Proofs.Binding
import ObjectPath.Proofs.Tracing
import ObjectPath.Proofs.Agreement
import ObjectPath.Proofs.Overloading
import ObjectPath.Proofs.Objections
import ObjectPath.Proofs.Components
import ObjectPath.Proofs.CloneFailure
import ObjectPath.Proofs.Cloning
import ObjectPath.Proofs.ClassRules
import ObjectPath.Proofs.ClassPaths
import ObjectPath.Proofs.FieldRoles
import ObjectPath.Proofs.ScriptedVectors
import ObjectPath.Proofs.Intake
import ObjectPath.Proofs.TypePaths
import ObjectPath.Proofs.MethodRules
import ObjectPath.Proofs.Callable
