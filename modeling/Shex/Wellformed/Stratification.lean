import Shex.Fault
import Shex.LabelGraph
import Shex.Schema

/-!
# Stratified negation

The labels that a shape depends on, each with the sign of the dependency. Negation turns the sign.
So does a value expression on an extra predicate: a triple that is left unmatched must not satisfy
it. A schema is refused if a label depends on itself through a negative dependency.

Labelled triple expressions are entered where they are referred to, except from inside themselves.
-/

namespace Shex

/-- Labels that are depended on, with signs. -/
abbrev Dependencies := List (Label × Polarity)

mutual

/-- The dependencies of a shape expression in a context of the given sign. `enter` gives those of a
labelled triple expression in a shape with the given extra predicates. -/
def ShapeExpr.dependencies (enter : List Iri → Polarity → Label → Dependencies) (p : Polarity) :
    ShapeExpr → Dependencies
  | .and _ es => ShapeExpr.dependenciesIn enter p es
  | .or _ es => ShapeExpr.dependenciesIn enter p es
  | .not _ e => e.dependencies enter p.flip
  | .ref _ l => [(l, p)]
  | .shape _ h none => h.parents.map (·, p)
  | .shape _ h (some t) => h.parents.map (·, p) ++ t.dependencies enter h.extra p
  | .nodeConstraint _ _ => []
  | .external _ => []

/-- The dependencies of the shape expressions of a list. -/
def ShapeExpr.dependenciesIn (enter : List Iri → Polarity → Label → Dependencies) (p : Polarity) :
    List ShapeExpr → Dependencies
  | [] => []
  | e :: es => e.dependencies enter p ++ ShapeExpr.dependenciesIn enter p es

/-- The dependencies of a triple expression in a shape with the given extra predicates. -/
def TripleExpr.dependencies (enter : List Iri → Polarity → Label → Dependencies)
    (extra : List Iri) (p : Polarity) : TripleExpr → Dependencies
  | .eachOf _ es => TripleExpr.dependenciesIn enter extra p es
  | .oneOf _ es => TripleExpr.dependenciesIn enter extra p es
  | .repeated _ e _ => e.dependencies enter extra p
  | .constraint _ _ none => []
  | .constraint _ a (some v) =>
    v.dependencies enter (if extra.contains a.predicate then p.flip else p)
  | .ref _ l => enter extra p l
  | .empty _ => []

/-- The dependencies of the triple expressions of a list. -/
def TripleExpr.dependenciesIn (enter : List Iri → Polarity → Label → Dependencies)
    (extra : List Iri) (p : Polarity) : List TripleExpr → Dependencies
  | [] => []
  | e :: es => e.dependencies enter extra p ++ TripleExpr.dependenciesIn enter extra p es

end

namespace Schema

/-- The dependencies of a labelled triple expression, entered from inside those of `path`. `depth`
bounds how many more labels may be entered; there are no more than the schema declares. -/
def enterTripleExpr (s : Schema) :
    Nat → List Label → List Iri → Polarity → Label → Dependencies
  | 0, _, _, _, _ => []
  | depth + 1, path, extra, p, l =>
    if path.contains l then []
    else
      match s.tripleExpr? l with
      | none => []
      | some e => e.dependencies (s.enterTripleExpr depth (l :: path)) extra p

/-- The dependencies of a shape expression of the schema. -/
def dependencies (s : Schema) (e : ShapeExpr) : Dependencies :=
  e.dependencies (s.enterTripleExpr s.tripleExprs.size []) .positive

/-- Which shapes depend on which others. -/
def dependencyGraph (s : Schema) : LabelGraph :=
  s.shapes.entries.foldl (fun g (l, d) => g.addDependencies l (s.dependencies d.expr)) .empty

/-- Refuses a negative dependency that is part of a circle. -/
def checkStratification (s : Schema) : Except SchemaFault Unit :=
  match s.dependencyGraph.negativeCycle? with
  | some (a, b) => .error (.unstratifiedNegation a b)
  | none => .ok ()

end Schema

end Shex
