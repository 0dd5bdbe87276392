import Shex.Fault
import Shex.Readers
import Shex.Schema

/-!
# Patterns are regular expressions

Every pattern facet of a schema compiles.
-/

namespace Shex.Schema

/-- Refuses a facet with a pattern that is not accepted. -/
def checkPattern (R : Readers) : StringFacet → Except SchemaFault Unit
  | .pattern p flags =>
    match R.checkPattern p flags with
    | .ok () => .ok ()
    | .error flaw => .error (.invalidPattern p flaw)
  | _ => .ok ()

/-- Checks the patterns of one node of a shape expression. -/
def checkNodePatterns (R : Readers) : ShapeExpr → Except SchemaFault Unit
  | .nodeConstraint _ c => c.stringFacets.forM (checkPattern R)
  | _ => .ok ()

/-- Checks the patterns of the shapes, of the start expression, and of the labelled triple
expressions. -/
def checkPatterns (s : Schema) (R : Readers) : Except SchemaFault Unit := do
  s.shapes.values.forM fun d => d.expr.nested.forM (checkNodePatterns R)
  s.start.toList.forM fun e => e.nested.forM (checkNodePatterns R)
  s.tripleExprs.values.forM fun e => e.nested.forM (checkNodePatterns R)

end Shex.Schema
