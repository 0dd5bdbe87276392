import Shex.Matching.Choice
import Shex.Matching.Interval
import Shex.Report
import Shex.Sorbe.Form
import Shex.Table

/-!
# Assigning triples to constraints

A neighbourhood matches a form if its edges can be assigned to the triple constraints of the form.
An edge goes to a constraint with its arc whose value expression the opposite node meets; an edge
that has constraints with its arc but none that accepts it must be on an extra predicate, and an
extra edge may also be left out. Edges whose arc has no constraint do not count. An assignment is
accepted if the bag of constraints matches the expression and the semantic actions accept the
triples that were assigned to them.

What depends on the rest of validation is asked of a `Referee`.
-/

namespace Shex

/-- The answer for a node and an expression, with the reasons if the node does not conform. -/
inductive Verdict where
  | conforms
  | fails (reasons : List Diagnostic)
deriving DecidableEq, Inhabited

/-- What matching asks of the rest of validation. -/
structure Referee (m : Type → Type) where
  /-- Whether a node meets a value expression. -/
  verdict : Term → ShapeExpr → m Verdict
  /-- Whether semantic actions accept triples. -/
  accepts : List SemanticAction → List Triple → m Bool
  /-- Is called for every assignment that is tried. -/
  tick : m Unit

/-- Edges with the constraints they are assigned to, and edges left out. -/
structure Assignment where
  matched : List (Edge × ExprId)
  extras : List Edge
deriving DecidableEq, Inhabited

/-- The assigned triples. -/
def Assignment.triples (a : Assignment) : List Triple := a.matched.map (·.1.triple)

/-- Why there is no assignment. -/
inductive MatchFailure where
  /-- No constraint accepts the edge, for the given reasons. -/
  | unmatched (edge : Edge) (reasons : List Diagnostic)
  /-- All assignments were tried. -/
  | noAssignment (tried : Nat)
deriving DecidableEq, Inhabited

/-- The outcome of matching. -/
inductive Matching where
  | matched (a : Assignment)
  | failed (failures : List MatchFailure)
deriving Inhabited

/-- The answers of a referee for value expressions so far, by node and identity. -/
abbrev Verdicts := Table (Term × ExprId) Verdict

/-- What the constraints with the arc of an edge said about it. -/
structure Candidacy where
  accepting : List ExprId
  reasons : List Diagnostic
  verdicts : Verdicts

/-- Adds the diagnostics that are not in a list yet. -/
def addNew (ds : List Diagnostic) (more : List Diagnostic) : List Diagnostic :=
  more.foldl (fun ds d => if ds.contains d then ds else ds ++ [d]) ds

/-- The edges that have constraints with their arc: those to be assigned with their choices, `none`
being to leave the edge out; those that must be left out; and those that cannot be. -/
structure Sorting where
  choices : List (Edge × List (Option ExprId))
  extras : List Edge
  failures : List MatchFailure
  verdicts : Verdicts

section

variable {m : Type → Type} [Monad m]

/-- The verdict on a node and a value expression, which the referee is asked for only once. -/
def Referee.judge (r : Referee m) (vs : Verdicts) (t : Term) (e : ShapeExpr) :
    m (Verdict × Verdicts) :=
  match vs.get? (t, e.id) with
  | some v => return (v, vs)
  | none => do
    let v ← r.verdict t e
    return (v, vs.insert (t, e.id) v)

/-- Asks a constraint whether it accepts an edge to the node `t`. -/
def Candidacy.ask (r : Referee m) (t : Term) (k : Candidacy) (c : TripleConstraint) :
    m Candidacy :=
  match c.value with
  | none => return { k with accepting := k.accepting ++ [c.id] }
  | some e => do
    match ← r.judge k.verdicts t e with
    | (.conforms, verdicts) => return { k with accepting := k.accepting ++ [c.id], verdicts }
    | (.fails reasons, verdicts) => return { k with reasons := addNew k.reasons reasons, verdicts }

/-- Sorts one edge. -/
def Sorting.place (r : Referee m) (constraints : List TripleConstraint) (extra : List Iri)
    (s : Sorting) (e : Edge) : m Sorting :=
  match constraints.filter (·.arc = e.arc) with
  | [] => return s
  | cs => do
    let k ← cs.foldlM (Candidacy.ask r e.opposite) ⟨[], [], s.verdicts⟩
    let s := { s with verdicts := k.verdicts }
    let isExtra := extra.contains e.predicate
    if k.accepting.isEmpty then
      if isExtra then return { s with extras := s.extras ++ [e] }
      else return { s with failures := s.failures ++ [.unmatched e k.reasons] }
    else
      let options := k.accepting.map some ++ if isExtra then [none] else []
      return { s with choices := s.choices ++ [(e, options)] }

/-- Whether all semantic actions of a form accept the triples assigned to their constraints. -/
def Referee.acceptsAll (r : Referee m) (matched : List (Edge × ExprId)) : List Annotated → m Bool
  | [] => return true
  | a :: rest => do
    let triples := (matched.filter fun x => a.constraints.contains x.2).map (·.1.triple)
    if ← r.accepts a.source.actions triples then acceptsAll r matched rest else return false

/-- The assignment that a combination of choices makes. -/
def Assignment.ofChoices (extras : List Edge) (chosen : List (Edge × Option ExprId)) :
    Assignment where
  matched := chosen.filterMap fun (e, c) => c.map (e, ·)
  extras := extras ++ chosen.filterMap fun (e, c) => if c.isNone then some e else none

variable [MonadExceptOf ValidationFault m]

/-- Tries a combination of choices. -/
def Referee.accept (r : Referee m) (form : Form) (extras : List Edge)
    (chosen : List (Edge × Option ExprId)) : m (Option Assignment) := do
  r.tick
  match form.expr.matchesBag (chosen.filterMap Prod.snd) with
  | .error fault => throw (.malformed fault)
  | .ok false => return none
  | .ok true =>
    let a := Assignment.ofChoices extras chosen
    if ← r.acceptsAll a.matched form.annotated then return some a else return none

/-- The first assignment of edges to the constraints of a form that is accepted, or why there is
none. -/
def findAssignment (r : Referee m) (form : Form) (extra : List Iri) (edges : List Edge) :
    m Matching := do
  let s ← edges.foldlM (Sorting.place r form.constraints extra) ⟨[], [], [], .empty⟩
  if !s.failures.isEmpty then return .failed s.failures
  else
    match ← searchChoices (r.accept form s.extras) s.choices [] 0 with
    | (_, some a) => return .matched a
    | (tried, none) => return .failed [.noAssignment tried]

end

end Shex
