import Shex.Fault
import Shex.Sorbe.Basic

/-!
# Counting repetitions

How often a single-occurrence expression can be repeated to match a bag of triple constraints. The
answer is a cardinality, and it is computed from the counts of the constraints in the bag, without
any search. The bag matches the expression itself if once is among the answers.
-/

namespace Shex

/-- A bag of triple constraints: the identity of a constraint stands in it as often as the
constraint is used. -/
abbrev Bag := List ExprId

namespace Bag

/-- How often a constraint is in a bag, as a word. -/
def amount (b : Bag) (id : ExprId) : UInt32 := UInt32.ofNat (b.count id)

end Bag

namespace TripleExpr

/-- Whether none of the constraints of an expression is in a bag. -/
def isAbsent (b : Bag) (e : TripleExpr) : Bool := e.constraintIds.all fun id => !b.contains id

mutual

/-- The numbers of repetitions of the expression that match the bag, restricted to the constraints
of the expression. -/
def interval (b : Bag) : TripleExpr → Except MalformedForm Cardinality
  | .eachOf _ es => intervalOfAll b .star es
  | .oneOf _ es => intervalOfAny b .zero es
  | .repeated m e c =>
    if e.isConstraint then .ok (.quot (b.amount e.id) c)
    else if c.isEmpty then .ok .empty
    else if c = .zero then .ok (if e.isAbsent b then .star else .empty)
    else if c = .star then
      if e.isAbsent b then .ok .star
      else do
        let i ← e.interval b
        return if i.isEmpty then .empty else .plus
    else if c = .plus then
      if e.isAbsent b then .ok .zero
      else do
        let i ← e.interval b
        return if i.isEmpty then .empty else .ofBounds 1 i.max
    else if c = .optional then
      if e.isAbsent b then .ok .star
      else do
        let i ← e.interval b
        return if i.isEmpty then .empty else .atLeast (max i.min 1)
    else .error (.repeatedGroup c m.id)
  | .constraint m _ _ => .ok (.exactly (b.amount m.id))
  | .ref _ l => .error (.unresolvedReference l)
  | .empty _ => .ok .star

/-- The counts in `acc` that all expressions of a list admit. -/
def intervalOfAll (b : Bag) (acc : Cardinality) :
    List TripleExpr → Except MalformedForm Cardinality
  | [] => .ok acc
  | e :: es => do intervalOfAll b (acc.inter (← e.interval b)) es

/-- The sums of a count in `acc` and one for each expression of a list. -/
def intervalOfAny (b : Bag) (acc : Cardinality) :
    List TripleExpr → Except MalformedForm Cardinality
  | [] => .ok acc
  | e :: es => do intervalOfAny b (acc + (← e.interval b)) es

end

/-- Whether a bag matches the expression. -/
def matchesBag (b : Bag) (e : TripleExpr) : Except MalformedForm Bool :=
  return (← e.interval b).contains 1

end TripleExpr

end Shex
