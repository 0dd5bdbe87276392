import Shex.Inheritance.Hierarchy
import Shex.Sorbe.Normalize
import Shex.Wellformed.Extension

/-!
# Plans for extending shapes

A shape that extends others is matched together with them: the triple expressions of its main shape
and of those of its ancestors are joined, and the joined expression is matched once. Which of the
shapes a triple belongs to is read off the constraint it was assigned to: it is the first whose
expression contains the constraint, behind references too. Every shape then checks its other
conjuncts against the triples that belong to no other.
-/

namespace Shex

/-- A declaration that takes part in matching an extending shape: its main shape, the other
conjuncts, and the identities of the triple constraints of the main shape. -/
structure Part where
  label : Label
  main : ShapeExpr
  shape : Shape
  constraints : List ShapeExpr
  owned : List ExprId
deriving Inhabited

/-- The part of a label. -/
def Part.ofLabel (s : Schema) (l : Label) : Except ValidationFault Part :=
  match s.shape? l with
  | none => .error (.danglingReference l)
  | some d =>
    match d.expr.extendable? with
    | none => .error (.internal (.notExtendable l))
    | some form => .ok
      { label := l
        main := form.main
        shape := form.shape
        constraints := form.constraints
        owned := form.shape.expression.elim [] fun e =>
          (s.reachableConstraints e).map TripleConstraint.id }

/-- The parts of an extending shape, its own first and then those of its ancestors, and the form of
the joined expressions. -/
structure Plan where
  parts : List Part
  form : Form
deriving Inhabited

namespace Plan

/-- The parts for a label. -/
def partsOf (s : Schema) (h : Hierarchy) (l : Label) : Except ValidationFault (List Part) :=
  (h.ancestors l).mapM (Part.ofLabel s)

/-- The triple expressions of the main shapes. -/
def expressions (parts : List Part) : List TripleExpr := parts.filterMap (·.shape.expression)

/-- Whether the shape is closed. It is its own main shape that says so. -/
def isClosed (p : Plan) : Bool := p.parts.head?.any (·.shape.header.closed)

/-- The extra predicates of all parts. -/
def extra (p : Plan) : List Iri := p.parts.flatMap (·.shape.header.extra)

/-- The position of the part that a constraint of the form belongs to. -/
def ownerOf (p : Plan) (c : TripleConstraint) : Option Nat :=
  p.parts.findIdx? fun part => part.owned.contains c.mark.source.id

/-- The position of the part that the constraint with an identity belongs to. -/
def ownerOfId (p : Plan) (id : ExprId) : Option Nat := (p.form.constraint? id).bind p.ownerOf

end Plan

end Shex
