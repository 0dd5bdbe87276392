import Shex.Fault

/-!
# Building expressions

Expressions are built from a supply of identities. Every node takes the next identity, so two nodes
built separately are told apart; a node is shared by using it twice. A group that has too few
operands is refused.
-/

namespace Shex

/-- Building with a supply of identities. The state is the next identity to be used. -/
abbrev Build := StateT ExprId (Except SchemaFault)

namespace Build

/-- Takes an identity from the supply. -/
def freshId : Build ExprId := fun id => .ok (id, id.next)

/-- A mark with a new identity. -/
def mark (actions : List SemanticAction) : Build Mark := return ⟨← freshId, actions⟩

/-- A new node of a shape expression. -/
def shape (make : Mark → ShapeExpr) (actions : List SemanticAction) : Build ShapeExpr :=
  return make (← mark actions)

/-- A new node of a triple expression that is no group. -/
def triple (make : TripleMark → TripleExpr) (actions : List SemanticAction) : Build TripleExpr :=
  return make (.written (← mark actions))

/-- A new group of triple expressions. -/
def group (kind : GroupKind) (operands : List TripleExpr) (actions : List SemanticAction) :
    Build TripleExpr :=
  if operands.length < kind.minOperands then throw (.tooFewOperands kind operands.length)
  else
    match kind with
    | .eachOf => triple (.eachOf · operands) actions
    | .oneOf => triple (.oneOf · operands) actions

end Build

end Shex
