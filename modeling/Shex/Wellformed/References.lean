import Shex.Fault
import Shex.Schema

/-!
# References resolve

No label may be declared both for a shape expression and for a triple expression, and every label
that an expression refers to or extends must be declared for the kind of expression that is meant.
-/

namespace Shex.Schema

/-- Refuses a label that is declared twice over. -/
def checkDistinctLabels (s : Schema) : Except SchemaFault Unit :=
  s.tripleExprs.keys.forM fun l =>
    if s.shapes.contains l then .error (.duplicateLabel l) else .ok ()

/-- Demands that a label is declared for a shape expression. -/
def requireShape (s : Schema) (l : Label) : Except SchemaFault Unit :=
  if s.shapes.contains l then .ok () else .error (.undefinedReference l)

/-- Demands that a label is declared for a triple expression. -/
def requireTripleExpr (s : Schema) (l : Label) : Except SchemaFault Unit :=
  if s.tripleExprs.contains l then .ok () else .error (.undefinedReference l)

/-- Checks the references of a triple expression outside its value expressions. -/
def checkTripleRefs (s : Schema) (e : TripleExpr) : Except SchemaFault Unit :=
  e.refs.forM s.requireTripleExpr

/-- Checks what one node of a shape expression refers to. -/
def checkNodeRefs (s : Schema) : ShapeExpr → Except SchemaFault Unit
  | .ref _ l => s.requireShape l
  | .shape _ h t => do
    h.parents.forM s.requireShape
    t.toList.forM s.checkTripleRefs
  | _ => .ok ()

/-- Checks all references in a shape expression. -/
def checkShapeRefs (s : Schema) (e : ShapeExpr) : Except SchemaFault Unit :=
  e.nested.forM s.checkNodeRefs

/-- Checks all references of a schema: those of the shapes, of the start expression, and of the
labelled triple expressions. -/
def checkReferences (s : Schema) : Except SchemaFault Unit := do
  s.shapes.values.forM fun d => s.checkShapeRefs d.expr
  s.start.toList.forM s.checkShapeRefs
  s.tripleExprs.values.forM fun e => do
    s.checkTripleRefs e
    e.values.forM s.checkShapeRefs

end Shex.Schema
