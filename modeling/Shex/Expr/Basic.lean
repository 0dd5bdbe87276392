import Shex.Cardinality
import Shex.NodeConstraint
import Shex.Rdf.Graph

/-!
# Shape expressions and triple expressions

The two kinds of expressions of a schema, which contain each other: a shape holds a triple
expression, and a triple constraint holds a shape expression for the node at the other end of the
triple. Every node of an expression carries a mark with its identity. A node that is used in several
places of a schema has the same identity in all of them, and two nodes that were written separately
have different ones even if they look alike.

A node of a normalized triple expression is a copy of a node of the schema, its source. Copies have
identities of their own and carry no semantic actions; their mark refers to the mark of the source.
-/

namespace Shex

/-- The identity of a node. -/
structure ExprId where
  index : Nat
deriving DecidableEq, Inhabited, Repr

/-- The identity after this one. -/
def ExprId.next (id : ExprId) : ExprId := ⟨id.index + 1⟩

/-- The number of an identity. -/
def ExprId.print (id : ExprId) : String := "#" ++ toString id.index

/-- A semantic action: the name of the handler to be called, and a text for it. -/
structure SemanticAction where
  name : Iri
  code : Option String
deriving DecidableEq, Inhabited, Repr

/-- The identity of a node and the semantic actions attached to it. -/
structure Mark where
  id : ExprId
  actions : List SemanticAction
deriving DecidableEq, Inhabited, Repr

/-- The mark of a node of a triple expression. `origin` is the mark of the node it is a copy of,
if it is a copy. -/
structure TripleMark extends Mark where
  origin : Option Mark
deriving DecidableEq, Inhabited, Repr

namespace TripleMark

/-- The mark of a node that is no copy. -/
def written (m : Mark) : TripleMark := ⟨m, none⟩

/-- The mark of the schema node behind a node: of what it is a copy of, or its own. -/
def source (m : TripleMark) : Mark := m.origin.getD m.toMark

/-- The mark of a copy under a new identity. The copy of a copy has the same source. -/
def copy (m : TripleMark) (id : ExprId) : TripleMark := ⟨⟨id, []⟩, some m.source⟩

/-- A copy stands for what its original stands for, which is a node of the schema also where the
original is a copy itself. -/
@[simp] theorem source_copy (m : TripleMark) (id : ExprId) : (m.copy id).source = m.source := rfl

/-- A node that was written stands for itself. -/
@[simp] theorem source_written (m : Mark) : (written m).source = m := rfl

end TripleMark

/-- What a shape says beside its triple expression: whether it admits no other outgoing triples
(`closed`), the predicates that may have triples left unmatched (`extra`), and the labels of the
shapes it extends (`parents`). -/
structure ShapeHeader where
  closed : Bool
  extra : List Iri
  parents : List Label
deriving DecidableEq, Inhabited, Repr

mutual

/-- A condition on a node. -/
inductive ShapeExpr where
  /-- All operands hold. -/
  | and (mark : Mark) (operands : List ShapeExpr)
  /-- Some operand holds. -/
  | or (mark : Mark) (operands : List ShapeExpr)
  /-- The operand does not hold. -/
  | not (mark : Mark) (operand : ShapeExpr)
  /-- The expression declared under a label holds. -/
  | ref (mark : Mark) (label : Label)
  /-- The triples around the node match the triple expression. Without one, only a node that has
  nothing to match is asked for. -/
  | shape (mark : Mark) (header : ShapeHeader) (expression : Option TripleExpr)
  /-- The node itself meets a constraint. -/
  | nodeConstraint (mark : Mark) (constraint : NodeConstraint)
  /-- A condition that is defined elsewhere. -/
  | external (mark : Mark)

/-- A condition on a bag of triples around a node. -/
inductive TripleExpr where
  /-- The bag is divided among all operands. -/
  | eachOf (mark : TripleMark) (operands : List TripleExpr)
  /-- The bag matches one of the operands. -/
  | oneOf (mark : TripleMark) (operands : List TripleExpr)
  /-- The bag is divided into parts that match the operand, as many as the cardinality admits. -/
  | repeated (mark : TripleMark) (operand : TripleExpr) (cardinality : Cardinality)
  /-- The bag is one triple with the arc, and the node at its other end meets the condition. -/
  | constraint (mark : TripleMark) (arc : Arc) (value : Option ShapeExpr)
  /-- The expression declared under a label. -/
  | ref (mark : TripleMark) (label : Label)
  /-- The bag is empty. -/
  | empty (mark : TripleMark)

end

instance : Inhabited ShapeExpr := ⟨.external default⟩
instance : Inhabited TripleExpr := ⟨.empty default⟩

/-- A shape: its header and its triple expression. -/
structure Shape where
  header : ShapeHeader
  expression : Option TripleExpr
deriving Inhabited

/-- A triple constraint: its mark, its arc and the condition on the other end. -/
structure TripleConstraint where
  mark : TripleMark
  arc : Arc
  value : Option ShapeExpr
deriving Inhabited

/-- The identity of a triple constraint. -/
def TripleConstraint.id (c : TripleConstraint) : ExprId := c.mark.id

namespace ShapeExpr

/-- The mark of the outermost node. -/
def mark : ShapeExpr → Mark
  | and m _ | or m _ | not m _ | ref m _ | shape m _ _ | nodeConstraint m _ | external m => m

/-- The identity of the outermost node. -/
def id (e : ShapeExpr) : ExprId := e.mark.id

/-- The semantic actions of the outermost node. -/
def actions (e : ShapeExpr) : List SemanticAction := e.mark.actions

/-- The shape, if the expression is one. -/
def shape? : ShapeExpr → Option Shape
  | shape _ h t => some ⟨h, t⟩
  | _ => none

end ShapeExpr

namespace TripleExpr

/-- The mark of the outermost node. -/
def mark : TripleExpr → TripleMark
  | eachOf m _ | oneOf m _ | repeated m _ _ | constraint m _ _ | ref m _ | empty m => m

/-- The identity of the outermost node. -/
def id (e : TripleExpr) : ExprId := e.mark.id

/-- The mark of the schema node behind the outermost node. -/
def source (e : TripleExpr) : Mark := e.mark.source

/-- Whether the expression is a triple constraint. -/
def isConstraint : TripleExpr → Bool
  | constraint _ _ _ => true
  | _ => false

end TripleExpr

/-- The header of a shape that is open, has no extra predicates and extends nothing. -/
def ShapeHeader.plain : ShapeHeader := ⟨false, [], []⟩

/-- Whether triples with the predicate may be left unmatched. -/
def Shape.isExtra (s : Shape) (p : Iri) : Bool := s.header.extra.contains p

/-- The parts of an expression that can be extended: a shape, or a conjunction that begins with
one. `main` is the shape's node and `constraints` are the other conjuncts. -/
structure Extendable where
  main : ShapeExpr
  shape : Shape
  constraints : List ShapeExpr
deriving Inhabited

/-- The extendable form of an expression, if it has one. -/
def ShapeExpr.extendable? (e : ShapeExpr) : Option Extendable :=
  match e with
  | .shape _ h t => some ⟨e, ⟨h, t⟩, []⟩
  | .and _ (main :: constraints) => main.shape?.map (⟨main, ·, constraints⟩)
  | _ => none

end Shex
