import Shex.Fault
import Shex.Inheritance.Hierarchy
import Shex.LabelGraph

/-!
# Extension is well-formed

Only the main shape of a declaration may extend others, extension must not be circular, and every
shape that extends or is extended must have a main shape, whose predicates are not those of the
constraints beside it.
-/

namespace Shex.Schema

/-- The triple constraints of an expression and of the labelled expressions that it refers to,
directly or through others. -/
def reachableConstraints (s : Schema) (e : TripleExpr) : List TripleConstraint :=
  let refsOf (l : Label) : List Label := (s.tripleExpr? l).elim [] TripleExpr.refs
  let size := (s.tripleExprs.values.flatMap TripleExpr.refs).length
  let labels := closure refsOf size e.refs
  e.constraints ++ labels.flatMap fun l => (s.tripleExpr? l).elim [] TripleExpr.constraints

/-- The predicates of the triple constraints of an expression, behind references too. -/
def predicates (s : Schema) (e : TripleExpr) : List Iri :=
  (s.reachableConstraints e).map (·.arc.predicate)

/-- The predicates of the triple expressions in a shape expression. -/
def nestedPredicates (s : Schema) (e : ShapeExpr) : List Iri :=
  e.nested.flatMap fun x => (x.shape?.bind Shape.expression).elim [] s.predicates

/-- What a shape in an expression extends, where the node with identity `main` is left out. -/
def parentsBeside (main : Option ExprId) (e : ShapeExpr) : List Label :=
  e.nested.flatMap fun x =>
    if some x.id = main then [] else x.shape?.elim [] (·.header.parents)

/-- Refuses a declaration with a shape beside the main one that extends others. -/
def checkExtensionPlaces (s : Schema) : Except SchemaFault Unit :=
  s.shapes.entries.forM fun (l, d) =>
    let main := d.expr.extendable?.map (·.main.id)
    if (parentsBeside main d.expr).isEmpty then .ok ()
    else .error (.illFormedExtension l .misplaced)

/-- Refuses a start expression with a shape that extends others. -/
def checkStartExtension (s : Schema) : Except SchemaFault Unit :=
  match (s.start.toList.flatMap (parentsBeside none)).head? with
  | some l => .error (.illFormedExtension l .inStart)
  | none => .ok ()

/-- Refuses circular extension. The labels of the circle are sorted by their printed form, and the
first of them is blamed. -/
def checkExtensionCycles (h : Hierarchy) : Except SchemaFault Unit :=
  let g := h.edges.foldl (fun g (child, parent) => g.addEdge child parent .positive)
    LabelGraph.empty
  match g.firstCycle? with
  | none => .ok ()
  | some ls =>
    match ls.mergeSort fun a b => a.print ≤ b.print with
    | [] => .ok ()
    | l :: rest => .error (.illFormedExtension l (.cyclic (l :: rest)))

/-- Checks the form of a declaration that extends or is extended. -/
def checkExtendable (s : Schema) (l : Label) (d : ShapeDecl) : Except SchemaFault Unit :=
  match d.expr.extendable? with
  | none => .error (.illFormedExtension l .notExtendable)
  | some form =>
    let own := form.shape.expression.elim [] s.predicates
    form.constraints.forM fun c =>
      match (s.nestedPredicates c).find? own.contains with
      | some p => .error (.illFormedExtension l (.sharedPredicate p))
      | none => .ok ()

/-- Checks all that concerns extension. -/
def checkExtension (s : Schema) : Except SchemaFault Unit := do
  s.checkExtensionPlaces
  s.checkStartExtension
  let h := Hierarchy.ofSchema s
  checkExtensionCycles h
  let touched := h.edges.flatMap fun (child, parent) => [child, parent]
  s.shapes.entries.forM fun (l, d) =>
    if touched.contains l then s.checkExtendable l d else .ok ()

end Shex.Schema
