import Shex.Fault
import Shex.Schema
import Shex.Sorbe.Form

/-!
# Normalization

Every triple expression has a form: an expression that is single-occurrence already is kept as it
stands, and any other is copied. The copy has the references replaced by what they refer to, and
repetitions of groups written out where counting cannot deal with them: `{m,n}` becomes `m` copies
followed by `n - m` optional ones, and `{m,}` becomes `m - 1` copies followed by one under `+`. Each
copy has constraints of its own.

The number of nodes that are copied is limited. Labelled expressions may refer to each other, and
one that contains itself is a fault.
-/

namespace Shex

/-- The state of normalization: the next identity to be used, the number of nodes that may still be
copied, and the schema nodes with semantic actions met so far. -/
structure Normalizing where
  next : ExprId
  remaining : Nat
  annotated : List Annotated

/-- Computations that copy triple expressions. -/
abbrev Normalize := StateT Normalizing (Except ValidationFault)

namespace Normalize

/-- Counts one node against the limit. -/
def reserve (limit : Nat) : Normalize Unit := fun s =>
  match s.remaining with
  | 0 => .error (.limit (.expansion limit))
  | n + 1 => .ok ((), { s with remaining := n })

/-- Makes a copy of the node with the mark `m`, under a new identity. -/
def copy (m : TripleMark) (make : TripleMark → TripleExpr) : Normalize TripleExpr := fun s =>
  .ok (make (m.copy s.next), { s with next := s.next.next })

/-- Records that an expression stands for the schema node with the mark `source`. -/
def record (source : Mark) (e : TripleExpr) : Normalize Unit := fun s =>
  .ok ((), { s with annotated := Annotated.record source e s.annotated })

/-- Runs a computation `n` times, for the results in reverse order in front of `acc`. -/
def replicate (make : Normalize TripleExpr) : Nat → List TripleExpr → Normalize (List TripleExpr)
  | 0, acc => return acc
  | n + 1, acc => do replicate make n ((← make) :: acc)

/-- Puts each of the expressions under a cardinality, as a copy of the node with the mark `m`. -/
def wrapAll (m : TripleMark) (c : Cardinality) : List TripleExpr → Normalize (List TripleExpr)
  | [] => return []
  | e :: es => do
    let e ← copy m (.repeated · e c)
    return e :: (← wrapAll m c es)

/-- How often a group is copied without and with a cardinality of its own when a repetition is
written out. -/
def copies (c : Cardinality) : Nat × Nat :=
  match c.max with
  | some m => (c.min.toNat, m.toNat - c.min.toNat)
  | none => (c.min.toNat - 1, 1)

/-- The repetition of an expression that is normalized by `make`, for a node with the mark `m`. -/
def unroll (limit : Nat) (m : TripleMark) (make : Normalize TripleExpr) (c : Cardinality) :
    Normalize TripleExpr := do
  let first ← make
  if first.isConstraint || c.isEmpty || c.isStandard then
    copy m (.repeated · first (if c = .plus && first.matchesEmpty then .star else c))
  else if c = .one then return first
  else
    let (plain, tail) := copies c
    let further := plain + tail - 1
    if (← get).remaining < further then throw (.limit (.expansion limit))
    else
      let pieces := (← replicate make further [first]).reverse
      let inner :=
        match c.max with
        | some _ => .optional
        | none => if first.matchesEmpty then .star else .plus
      let wrapped ← wrapAll m inner (pieces.drop plain)
      copy m (.eachOf · (pieces.take plain ++ wrapped))

mutual

/-- A copy of an expression with its references replaced by what `resolve` gives for them. -/
def expr (limit : Nat) (resolve : Label → Normalize TripleExpr) :
    TripleExpr → Normalize TripleExpr
  | .eachOf m es => do
    reserve limit
    let es ← exprs limit resolve es
    let e ← copy m (.eachOf · es)
    record m.source e
    return e
  | .oneOf m es => do
    reserve limit
    let es ← exprs limit resolve es
    let e ← copy m (.oneOf · es)
    record m.source e
    return e
  | .repeated m e c => do
    reserve limit
    let e ← unroll limit m (expr limit resolve e) c
    record m.source e
    return e
  | .constraint m a v => do
    reserve limit
    let e ← copy m (.constraint · a v)
    record m.source e
    return e
  | .ref m l => do
    let e ← resolve l
    record m.source e
    return e
  | .empty m => do
    reserve limit
    let e ← copy m .empty
    record m.source e
    return e

/-- Copies of the expressions of a list. -/
def exprs (limit : Nat) (resolve : Label → Normalize TripleExpr) :
    List TripleExpr → Normalize (List TripleExpr)
  | [] => return []
  | e :: es => do
    let e ← expr limit resolve e
    return e :: (← exprs limit resolve es)

end

/-- A copy of the triple expression declared under a label. `path` has the labels that are being
resolved, and `depth` bounds how many more may be; a path without repetitions is never longer than
the number of labels. -/
def resolve (schema : Schema) (limit : Nat) : Nat → List Label → Label → Normalize TripleExpr
  | depth, path, l =>
    if path.contains l then throw (.malformed (.selfReference l))
    else
      match schema.tripleExpr? l, depth with
      | none, _ => throw (.danglingReference l)
      | some _, 0 => throw (.malformed (.selfReference l))
      | some e, depth + 1 => expr limit (resolve schema limit depth (l :: path)) e

end Normalize

/-- The form of a triple expression. `limit` bounds the number of copied nodes, and `fresh` is the
first identity that copies may use. -/
def TripleExpr.normalize (schema : Schema) (limit : Nat) (fresh : ExprId) (e : TripleExpr) :
    Except ValidationFault Form :=
  if e.isSorbe then .ok (.ofSorbe e)
  else
    (Normalize.expr limit (Normalize.resolve schema limit schema.tripleExprs.size []) e).run
        ⟨fresh, limit, []⟩ |>.map fun (e, s) => ⟨e, s.annotated⟩

end Shex
