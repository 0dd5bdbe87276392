import Shex.Fault
import Shex.LabelGraph
import Shex.Schema

/-!
# No circular definitions

A shape must not be defined by itself without a step along a triple, and a labelled triple
expression must not contain itself outside its value expressions.
-/

namespace Shex.Schema

/-- Which shapes refer to which others without a step along a triple. -/
def directShapeGraph (s : Schema) : LabelGraph :=
  s.shapes.entries.foldl
    (fun g (l, d) => g.addDependencies l (d.expr.directRefs.map (·, .positive))) .empty

/-- Which labelled triple expressions contain which others. -/
def directTripleGraph (s : Schema) : LabelGraph :=
  s.tripleExprs.entries.foldl
    (fun g (l, e) => g.addDependencies l (e.refs.map (·, .positive))) .empty

/-- Refuses a graph with a cycle. -/
def rejectCycles (g : LabelGraph) : Except SchemaFault Unit :=
  match g.firstCycle? with
  | some ls => .error (.cyclicReference ls)
  | none => .ok ()

/-- Refuses circular definitions, of shapes first. -/
def checkDirectCycles (s : Schema) : Except SchemaFault Unit := do
  rejectCycles s.directShapeGraph
  rejectCycles s.directTripleGraph

end Shex.Schema
