import Shex.Expr.Nested

/-!
# Single-occurrence bag expressions

The triple expressions that can be matched by counting (SORBE, single-occurrence regular bag
expressions): every triple constraint occurs once, references are resolved, and a group is repeated
only with a cardinality that counting can deal with. A triple constraint itself may be repeated with
any cardinality. `+` must not be applied to a group that matches the empty bag, because it means the
same as `*` there.
-/

namespace Shex

namespace TripleExpr

mutual

/-- Whether the empty bag matches. A reference is taken not to. -/
def matchesEmpty : TripleExpr → Bool
  | .eachOf _ es => allMatchEmpty es
  | .oneOf _ es => anyMatchesEmpty es
  | .repeated _ e c => !c.isEmpty && (c.min = 0 || e.matchesEmpty)
  | .constraint _ _ _ => false
  | .ref _ _ => false
  | .empty _ => true

/-- Whether the empty bag matches every expression of a list. -/
def allMatchEmpty : List TripleExpr → Bool
  | [] => true
  | e :: es => e.matchesEmpty && allMatchEmpty es

/-- Whether the empty bag matches some expression of a list. -/
def anyMatchesEmpty : List TripleExpr → Bool
  | [] => false
  | e :: es => e.matchesEmpty || anyMatchesEmpty es

end

mutual

/-- Whether there is no reference and every repetition of a group can be matched by counting. -/
def isCountable : TripleExpr → Bool
  | .eachOf _ es => allCountable es
  | .oneOf _ es => allCountable es
  | .repeated _ e c =>
    e.isConstraint ||
      ((c.isStandard || c.isEmpty) && e.isCountable && !(c = .plus && e.matchesEmpty))
  | .constraint _ _ _ => true
  | .ref _ _ => false
  | .empty _ => true

/-- Whether every expression of a list is countable. -/
def allCountable : List TripleExpr → Bool
  | [] => true
  | e :: es => e.isCountable && allCountable es

end

/-- Whether the expression is a single-occurrence bag expression. -/
def isSorbe (e : TripleExpr) : Bool := e.isCountable && decide e.constraintIds.Nodup

end TripleExpr

end Shex
