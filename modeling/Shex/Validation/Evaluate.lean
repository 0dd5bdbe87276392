import Shex.NodeConstraint.Check
import Shex.Validation.Run

/-!
# Evaluation

Whether a node satisfies a shape expression. Each rule is a definition of its own that is given the
evaluation of value expressions, at the other ends of triples, and that of the expressions nested
otherwise as arguments; `Setting.satisfies` ties the knot, with the number of nested evaluations
that are still allowed.

References are followed with the pairs of nodes and labels that are being checked in mind: a pair
that is met again inside its own check is taken to conform. An expression that fails comes with the
diagnostics that say why, and there is at least one.
-/

namespace Shex

/-- A result, or the diagnostics that say why there is none. -/
abbrev Judged (α : Type) := Except (List Diagnostic) α

namespace Setting

variable {σ : Type}

/-- The evaluation of expressions. -/
abbrev Evaluator (σ : Type) := Scope → Term → ShapeExpr → Run σ Verdict

variable (st : Setting σ) (values nested : Evaluator σ)

/-- The verdict on a node that satisfies an expression with the given semantic actions, about the
given triples: the actions may still reject it. -/
def judgeActions (scope : Scope) (node : Term) (acts : List SemanticAction)
    (triples : List Triple) : Run σ Verdict := do
  if acts.isEmpty then return .conforms
  else if ← st.runActions acts triples then return .conforms
  else
    return .fails [scope.diagnostic node .semanticAction
      ("A semantic action rejected node " ++ node.print)]

/-- The verdict of the first check that fails, and no reason to fail if none does. -/
def allConform {α : Type} (check : α → Run σ Verdict) : List α → Run σ Verdict
  | [] => return .conforms
  | a :: rest => do
    match ← check a with
    | .conforms => allConform check rest
    | .fails reasons => return .fails reasons

/-- Whether a check succeeds. If none does, the reasons of all are given after `reasons`. -/
def anyConforms {α : Type} (check : α → Run σ Verdict) (reasons : List Diagnostic) :
    List α → Run σ Verdict
  | [] => return .fails reasons
  | a :: rest => do
    match ← check a with
    | .conforms => return .conforms
    | .fails more => anyConforms check (reasons ++ more) rest

/-- What matching asks of evaluation. Value expressions are evaluated with nothing hidden. -/
def referee (scope : Scope) : Referee (Run σ) where
  verdict node e := values scope.showAll node e
  accepts := st.runActions
  tick := st.tick

/-- The diagnostics of a failure to match the neighbourhood of a node. -/
def explain (scope : Scope) (node : Term) : MatchFailure → List Diagnostic
  | .unmatched e [] =>
    [{ scope.diagnostic node .unmatchedTriple
        ("Triple " ++ e.triple.print ++ " matches no triple constraint") with
      predicate := some e.predicate
      value := some e.opposite }]
  | .unmatched _ reasons => reasons
  | .noAssignment tried =>
    [scope.diagnostic node .noMatchingAssignment
      ("The neighbourhood of " ++ node.print ++ " does not match the triple expression (" ++
        toString tried ++ " assignments tried)")]

/-- Matches the neighbourhood of a node with a form. -/
def matchForm (scope : Scope) (node : Term) (n : Neighbourhood) (form : Form) (extra : List Iri) :
    Run σ (Judged Assignment) := do
  match ← findAssignment (st.referee values scope) form extra n.edges with
  | .matched a => return .ok a
  | .failed failures => return .error (failures.flatMap (explain scope node))

/-- One diagnostic for each outgoing triple whose predicate is neither that of a constraint nor
extra. -/
def closedFailures (scope : Scope) (node : Term) (n : Neighbourhood) (form : Form)
    (extra : List Iri) : List Diagnostic :=
  let known := form.predicates false
  (n.outgoing.filter fun t => !(known.contains t.predicate || extra.contains t.predicate)).map
    fun t =>
      { scope.diagnostic node .closed
          ("Closed shape violation: unexpected predicate " ++ t.predicate.print) with
        predicate := some t.predicate
        value := some t.object }

/-- Matches the neighbourhood of a node with a form, for a shape that may be closed. -/
def matchAround (scope : Scope) (node : Term) (form : Form) (closed : Bool) (extra : List Iri) :
    Run σ (Judged Assignment) := do
  let n := scope.neighbourhood st.graph node (form.predicates true)
  let failures := if closed then closedFailures scope node n form extra else []
  if failures.isEmpty then st.matchForm values scope node n form extra
  else return .error failures

/-- Evaluates a shape, for the triples it matches. -/
def satisfiesShape (scope : Scope) (node : Term) (s : Shape) : Run σ (Judged (List Triple)) := do
  let form ← match s.expression with
    | some e => st.formOf e
    | none => pure (.empty (st.validator.numbering .bare))
  return (← st.matchAround values scope node form s.header.closed s.header.extra).map
    Assignment.triples

/-- The parts that the matched edges belong to. -/
def ownersOf (plan : Plan) (l : Label) :
    List (Edge × ExprId) → Except ValidationFault (List (Edge × Nat))
  | [] => .ok []
  | (e, id) :: rest => do
    match plan.ownerOfId id with
    | none => .error (.internal (.unowned id l))
    | some i => return (e, i) :: (← ownersOf plan l rest)

/-- Checks the parts of an extending shape, each with its position: the semantic actions of the main
shape with the part's own triples, then the other conjuncts with the triples of the other parts
hidden. -/
def satisfiesParts (scope : Scope) (node : Term) (owners : List (Edge × Nat)) :
    List (Part × Nat) → Run σ Verdict
  | [] => return .conforms
  | (p, i) :: rest => do
    let own := (owners.filter (·.2 = i)).map (·.1.triple)
    let others := (owners.filter (·.2 ≠ i)).map Prod.fst
    match ← st.judgeActions scope node p.main.actions own with
    | .fails reasons => return .fails reasons
    | .conforms =>
      match ← allConform (nested (scope.hide node others) node) p.constraints with
      | .fails reasons => return .fails reasons
      | .conforms => satisfiesParts scope node owners rest

/-- Evaluates the declaration of a shape that extends others. The semantic actions of the declared
expression come last, if it is more than its main shape. -/
def satisfiesExtending (scope : Scope) (node : Term) (l : Label) (declared : ShapeExpr) :
    Run σ Verdict := do
  let plan ← st.planOf l
  match ← st.matchAround values scope node plan.form plan.isClosed plan.extra with
  | .error reasons => return .fails reasons
  | .ok a =>
    match ownersOf plan l a.matched with
    | .error fault => throw fault
    | .ok owners =>
      match ← st.satisfiesParts nested scope node owners plan.parts.zipIdx with
      | .fails reasons => return .fails reasons
      | .conforms =>
        if plan.parts.head?.map (·.main.id) = some declared.id then return .conforms
        else st.judgeActions scope node declared.actions a.triples

/-- Evaluates the declaration of a label that is not abstract. -/
def satisfiesConcrete (scope : Scope) (node : Term) (l : Label) (d : ShapeDecl) :
    Run σ Verdict :=
  if scope.isActive node l then return .conforms
  else
    let scope := scope.enter node l
    if st.validator.hierarchy.hasParents l then
      st.satisfiesExtending values nested scope node l d.expr
    else nested scope node d.expr

/-- The labels that are not abstract and extend a label, with their declarations. -/
def concreteSubtypes (v : Validator) (l : Label) : List (Label × ShapeDecl) :=
  (v.hierarchy.descendants l).filterMap fun child =>
    match v.schema.shape? child with
    | some d => if d.isAbstract then none else some (child, d)
    | none => none

/-- Evaluates the declaration of a label. An abstract one holds if one of those that extend it and
are not abstract does. -/
def satisfiesLabel (scope : Scope) (node : Term) (l : Label) : Run σ Verdict :=
  match st.validator.schema.shape? l with
  | none => throw (.danglingReference l)
  | some d =>
    if !d.isAbstract then st.satisfiesConcrete values nested scope node l d
    else if scope.isActive node l then return .conforms
    else do
      let scope := scope.enter node l
      match ← anyConforms
          (fun (child, d) => st.satisfiesConcrete values nested scope node child d) []
          (concreteSubtypes st.validator l) with
      | .conforms => return .conforms
      | .fails reasons =>
        return .fails (reasons ++ [scope.diagnostic node .abstractShape
          ("Node " ++ node.print ++ " does not match any concrete shape extending " ++ l.print)])

/-- Evaluates an expression without its semantic actions, for the triples they are about: those that
a shape matches. -/
def evaluate (scope : Scope) (node : Term) : ShapeExpr → Run σ (Judged (List Triple))
  | .and _ es => do
    match ← allConform (nested scope node) es with
    | .conforms => return .ok []
    | .fails reasons => return .error reasons
  | .or _ es => do
    match ← anyConforms (nested scope node) [] es with
    | .conforms => return .ok []
    | .fails reasons =>
      return .error (reasons ++ [scope.diagnostic node .or
        ("Node " ++ node.print ++ " does not match any of the " ++ toString es.length ++
          " alternatives")])
  | .not _ e => do
    match ← nested scope node e with
    | .conforms =>
      return .error [scope.diagnostic node .not
        ("Node " ++ node.print ++ " matches the negated shape expression")]
    | .fails _ => return .ok []
  | .ref _ l => do
    match ← st.satisfiesLabel values nested scope node l with
    | .conforms => return .ok []
    | .fails reasons => return .error reasons
  | .shape _ h t => st.satisfiesShape values scope node ⟨h, t⟩
  | .nodeConstraint _ c => do
    match c.failures st.validator.readers st.limits.patternLength node with
    | .error fault => throw fault
    | .ok [] => return .ok []
    | .ok failures => return .error (failures.map fun f => scope.diagnostic node f.kind f.message)
  | .external _ =>
    return .error [scope.diagnostic node .external
      "External shapes are not available to this validator"]

/-- Whether a node satisfies an expression, where `depth` evaluations may be nested. -/
def satisfies : Nat → Evaluator σ
  | 0, _, _, _ => throw (.limit (.depth st.limits.depth))
  | depth + 1, scope, node, e => do
    match ← st.evaluate (satisfies depth) (satisfies depth) scope node e with
    | .error reasons => return .fails reasons
    | .ok triples => st.judgeActions scope node e.actions triples

end Setting

end Shex
