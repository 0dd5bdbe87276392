import Shex.Sorbe.Basic

/-!
# Forms

What matching needs of a triple expression: a single-occurrence expression, and for every node of
the schema with semantic actions the triple constraints that stand for it. Actions belong to schema
nodes while matching assigns triples to the constraints of the form, and one node may have many
copies there.
-/

namespace Shex

/-- The mark of a schema node with semantic actions, and the identities of the constraints of a form
that come from it. The list is read as a set. -/
structure Annotated where
  source : Mark
  constraints : List ExprId
deriving DecidableEq, Inhabited

/-- Adds constraints to the entry of a schema node, or a new entry at the end. -/
def Annotated.extend (source : Mark) (ids : List ExprId) : List Annotated → List Annotated
  | [] => [⟨source, ids⟩]
  | a :: rest =>
    if a.source.id = source.id then { a with constraints := ids ++ a.constraints } :: rest
    else a :: extend source ids rest

/-- Records that the constraints of `e` come from the schema node with the mark `source`. Nodes
without semantic actions are not recorded. -/
def Annotated.record (source : Mark) (e : TripleExpr) (as : List Annotated) : List Annotated :=
  if source.actions.isEmpty then as else extend source e.constraintIds as

mutual

/-- Records every node of an expression, inner nodes first. -/
def TripleExpr.annotate : TripleExpr → List Annotated → List Annotated
  | .eachOf m es, as => Annotated.record m.source (.eachOf m es) (TripleExpr.annotateIn es as)
  | .oneOf m es, as => Annotated.record m.source (.oneOf m es) (TripleExpr.annotateIn es as)
  | .repeated m e c, as => Annotated.record m.source (.repeated m e c) (e.annotate as)
  | .constraint m a v, as => Annotated.record m.source (.constraint m a v) as
  | .ref m l, as => Annotated.record m.source (.ref m l) as
  | .empty m, as => Annotated.record m.source (.empty m) as

/-- Records every node of the expressions of a list. -/
def TripleExpr.annotateIn : List TripleExpr → List Annotated → List Annotated
  | [], as => as
  | e :: es, as => TripleExpr.annotateIn es (e.annotate as)

end

/-- A form: the expression that is matched, and the schema nodes with semantic actions, inner nodes
first. -/
structure Form where
  expr : TripleExpr
  annotated : List Annotated
deriving Inhabited

namespace Form

/-- The form of a shape without triple expression. -/
def empty (id : ExprId) : Form := ⟨.empty (.written ⟨id, []⟩), []⟩

/-- The form of an expression that can be matched as it stands. -/
def ofSorbe (e : TripleExpr) : Form := ⟨e, e.annotate []⟩

/-- The triple constraints, in the order of the expression. -/
def constraints (f : Form) : List TripleConstraint := f.expr.constraints

/-- The triple constraint with an identity. -/
def constraint? (f : Form) (id : ExprId) : Option TripleConstraint :=
  f.constraints.find? (·.id = id)

/-- The predicates of the constraints in one direction. The list is read as a set. -/
def predicates (f : Form) (inverse : Bool) : List Iri :=
  (f.constraints.filter (·.arc.inverse = inverse)).map (·.arc.predicate)

end Form

end Shex
