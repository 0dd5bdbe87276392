import Shex.Expr.Basic

/-!
# What an expression contains

The parts of an expression that are written in it, without a look behind references: the shape
expressions nested in a shape expression (`ShapeExpr.nested`), the value expressions of a triple
expression (`TripleExpr.values`), its triple constraints (`TripleExpr.constraints`) and the labels
it refers to. All are given in the order of the text, from left to right and outside in.
-/

namespace Shex

mutual

/-- The expression and every shape expression in it, those in value expressions included. -/
def ShapeExpr.nested : ShapeExpr → List ShapeExpr
  | .and m es => .and m es :: ShapeExpr.nestedIn es
  | .or m es => .or m es :: ShapeExpr.nestedIn es
  | .not m e => .not m e :: e.nested
  | .shape m h (some t) => .shape m h (some t) :: t.nested
  | e => [e]

/-- The shape expressions in a list of shape expressions. -/
def ShapeExpr.nestedIn : List ShapeExpr → List ShapeExpr
  | [] => []
  | e :: es => e.nested ++ ShapeExpr.nestedIn es

/-- The value expressions of a triple expression with every shape expression in them. -/
def TripleExpr.nested : TripleExpr → List ShapeExpr
  | .eachOf _ es => TripleExpr.nestedIn es
  | .oneOf _ es => TripleExpr.nestedIn es
  | .repeated _ e _ => e.nested
  | .constraint _ _ (some v) => v.nested
  | _ => []

/-- The shape expressions in a list of triple expressions. -/
def TripleExpr.nestedIn : List TripleExpr → List ShapeExpr
  | [] => []
  | e :: es => e.nested ++ TripleExpr.nestedIn es

end

namespace TripleExpr

mutual

/-- The triple constraints of an expression. -/
def constraints : TripleExpr → List TripleConstraint
  | .eachOf _ es => constraintsIn es
  | .oneOf _ es => constraintsIn es
  | .repeated _ e _ => e.constraints
  | .constraint m a v => [⟨m, a, v⟩]
  | .ref _ _ => []
  | .empty _ => []

/-- The triple constraints of a list of expressions. -/
def constraintsIn : List TripleExpr → List TripleConstraint
  | [] => []
  | e :: es => e.constraints ++ constraintsIn es

end

mutual

/-- The labels that an expression refers to outside its value expressions. -/
def refs : TripleExpr → List Label
  | .eachOf _ es => refsIn es
  | .oneOf _ es => refsIn es
  | .repeated _ e _ => e.refs
  | .constraint _ _ _ => []
  | .ref _ l => [l]
  | .empty _ => []

/-- The labels that a list of expressions refers to. -/
def refsIn : List TripleExpr → List Label
  | [] => []
  | e :: es => e.refs ++ refsIn es

end

/-- The value expressions of the triple constraints. -/
def values (e : TripleExpr) : List ShapeExpr := e.constraints.filterMap TripleConstraint.value

/-- The identities of the triple constraints, one for each occurrence. -/
def constraintIds (e : TripleExpr) : List ExprId := e.constraints.map TripleConstraint.id

end TripleExpr

namespace ShapeExpr

mutual

/-- The labels that an expression refers to through conjunctions, disjunctions and negations
alone. -/
def directRefs : ShapeExpr → List Label
  | .and _ es => directRefsIn es
  | .or _ es => directRefsIn es
  | .not _ e => e.directRefs
  | .ref _ l => [l]
  | .shape _ _ _ => []
  | .nodeConstraint _ _ => []
  | .external _ => []

/-- The labels that a list of expressions refers to directly. -/
def directRefsIn : List ShapeExpr → List Label
  | [] => []
  | e :: es => e.directRefs ++ directRefsIn es

end

end ShapeExpr

mutual

/-- The greatest identity number in a shape expression. -/
def ShapeExpr.maxId : ShapeExpr → Nat
  | .and m es => max m.id.index (ShapeExpr.maxIdIn es)
  | .or m es => max m.id.index (ShapeExpr.maxIdIn es)
  | .not m e => max m.id.index e.maxId
  | .shape m _ (some t) => max m.id.index t.maxId
  | e => e.id.index

/-- The greatest identity number in a list of shape expressions. -/
def ShapeExpr.maxIdIn : List ShapeExpr → Nat
  | [] => 0
  | e :: es => max e.maxId (ShapeExpr.maxIdIn es)

/-- The greatest identity number in a triple expression, that of the sources included. -/
def TripleExpr.maxId : TripleExpr → Nat
  | .eachOf m es => max (max m.id.index m.source.id.index) (TripleExpr.maxIdIn es)
  | .oneOf m es => max (max m.id.index m.source.id.index) (TripleExpr.maxIdIn es)
  | .repeated m e _ => max (max m.id.index m.source.id.index) e.maxId
  | .constraint m _ (some v) => max (max m.id.index m.source.id.index) v.maxId
  | e => max e.id.index e.source.id.index

/-- The greatest identity number in a list of triple expressions. -/
def TripleExpr.maxIdIn : List TripleExpr → Nat
  | [] => 0
  | e :: es => max e.maxId (TripleExpr.maxIdIn es)

end

end Shex
