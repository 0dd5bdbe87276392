import Shex.Closure
import Shex.Schema

/-!
# The hierarchy of shapes

Which shapes extend which others. The labels that a declaration extends are those of its main shape.
Ancestors are met breadth-first, beginning with the label itself; descendants are in the order of
the schema. A hierarchy is defined for every schema, also if labels are undeclared or extend each
other in a circle.
-/

namespace Shex

/-- The labels that extend something, in the order of the schema, with what they extend. -/
structure Hierarchy where
  parents : List (Label × List Label)
deriving Inhabited

namespace Hierarchy

/-- The hierarchy of a schema. -/
def ofSchema (s : Schema) : Hierarchy where
  parents := s.shapes.entries.filterMap fun (l, d) =>
    let parents := d.expr.extendable?.elim [] (·.shape.header.parents)
    if parents.isEmpty then none else some (l, parents)

/-- The labels that a label extends directly. -/
def parentsOf (h : Hierarchy) (l : Label) : List Label := (h.parents.lookup l).getD []

/-- Whether a label extends anything. -/
def hasParents (h : Hierarchy) (l : Label) : Bool := (h.parents.lookup l).isSome

/-- The pairs of a label and one that it extends. -/
def edges (h : Hierarchy) : List (Label × Label) :=
  h.parents.flatMap fun (child, ps) => ps.map (child, ·)

/-- The label, what it extends, what that extends, and so on. -/
def ancestors (h : Hierarchy) (l : Label) : List Label :=
  closure h.parentsOf h.edges.length [l]

/-- The other labels that have a label among their ancestors. -/
def descendants (h : Hierarchy) (l : Label) : List Label :=
  (h.parents.map Prod.fst).filter fun child => (h.ancestors child).tail.contains l

end Hierarchy

end Shex
