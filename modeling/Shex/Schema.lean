import Shex.Expr.Nested
import Shex.Table

/-!
# Schemas

A schema declares shape expressions and triple expressions under labels, in an order that answers
show. A label that is declared again keeps its place and takes the new declaration. A schema may
name an expression to start from, actions to run first, and other schemas to import; imports are
recorded and not followed.
-/

namespace Shex

/-- A labelled shape expression. An abstract one holds only through the shapes that extend it. -/
structure ShapeDecl where
  isAbstract : Bool
  expr : ShapeExpr
deriving Inhabited

/-- A schema. -/
structure Schema where
  shapes : Table Label ShapeDecl
  tripleExprs : Table Label TripleExpr
  start : Option ShapeExpr
  startActions : List SemanticAction
  imports : List Iri
deriving Inhabited

namespace Schema

/-- The schema that declares nothing. -/
def empty : Schema := ⟨.empty, .empty, none, [], []⟩

/-- Declares a shape expression. -/
def addShape (s : Schema) (l : Label) (d : ShapeDecl) : Schema :=
  { s with shapes := s.shapes.insert l d }

/-- Declares a triple expression. -/
def addTripleExpr (s : Schema) (l : Label) (e : TripleExpr) : Schema :=
  { s with tripleExprs := s.tripleExprs.insert l e }

/-- The declaration of a shape label. -/
def shape? (s : Schema) (l : Label) : Option ShapeDecl := s.shapes.get? l

/-- The triple expression declared under a label. -/
def tripleExpr? (s : Schema) (l : Label) : Option TripleExpr := s.tripleExprs.get? l

/-- The labels of the shapes, in order of first declaration. -/
def labels (s : Schema) : List Label := s.shapes.keys

/-- An identity that is later than all identities in the schema. -/
def freshId (s : Schema) : ExprId :=
  let shapes := (s.shapes.values.map fun d => d.expr.maxId).foldl max 0
  let triples := (s.tripleExprs.values.map TripleExpr.maxId).foldl max 0
  let start := s.start.elim 0 ShapeExpr.maxId
  ⟨max (max shapes triples) start + 1⟩

end Schema

end Shex
