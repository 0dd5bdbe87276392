import Shex.Wellformed.Cycles
import Shex.Wellformed.Extension
import Shex.Wellformed.Patterns
import Shex.Wellformed.References
import Shex.Wellformed.Stratification

/-!
# Well-formed schemas

The checks that a schema has to pass before anything is validated against it. The first that fails
gives the fault.
-/

namespace Shex.Schema

/-- Checks that a schema is well-formed: labels are distinct, references resolve, definitions are
not circular, negation is stratified, extension is well-formed, and patterns compile. -/
def analyze (s : Schema) (R : Readers := .standard) : Except SchemaFault Unit := do
  s.checkDistinctLabels
  s.checkReferences
  s.checkDirectCycles
  s.checkStratification
  s.checkExtension
  s.checkPatterns R

end Shex.Schema
