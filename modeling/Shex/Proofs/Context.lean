import Shex.Validation

/-!
# Evaluation in a context

Evaluation as it can be carried out with one mutable context: the scope is part of the state and has
to be restored by whoever changes it, the reasons of a failure are left in an accumulator instead of
being returned, and the number of nested evaluations is counted up to the limit. `Walk` is the monad
of such computations. There is one definition for each one in `Setting`, and it makes the same
checks in the same order; `Shex.Proofs.Excuses` compares the two.
-/

namespace Shex

/-- Where evaluation stands, what it has found wrong so far, and how deeply it is nested. -/
structure Context extends Scope where
  diagnostics : List Diagnostic
  depth : Nat
deriving Inhabited

namespace Context

/-- The context of a run that has checked nothing yet. -/
def idle : Context := ⟨.outermost, [], 0⟩

/-- The context with another scope. -/
def within (c : Context) (s : Scope) : Context := { c with toScope := s }

/-- The context with more diagnostics. -/
def after (c : Context) (reasons : List Diagnostic) : Context :=
  { c with diagnostics := c.diagnostics ++ reasons }

/-- The context with an empty accumulator. -/
def cleared (c : Context) : Context := { c with diagnostics := [] }

end Context

/-- Computations of a run with a context. -/
abbrev Walk (σ : Type) := StateT Context (Run σ)

namespace Walk

variable {σ α : Type}

/-! ## Changing the context -/

/-- Adds diagnostics to the accumulator. -/
def promote (ds : List Diagnostic) : Walk σ Unit := modify (·.after ds)

/-- Adds a diagnostic for the innermost label. -/
def report (node : Term) (kind : DiagnosticKind) (message : String) : Walk σ Unit := do
  promote [(← get).diagnostic node kind message]

/-- Runs a computation with an empty accumulator, for what it leaves there. -/
def collecting (x : Walk σ α) : Walk σ (α × List Diagnostic) := do
  let outer := (← get).diagnostics
  modify Context.cleared
  let a ← x
  let inner := (← get).diagnostics
  modify fun c => { c with diagnostics := outer }
  return (a, inner)

/-- Runs a computation with edges hidden from a node. -/
def withHidden (node : Term) (edges : List Edge) (x : Walk σ α) : Walk σ α := do
  modify fun c => c.within (c.hide node edges)
  let a ← x
  modify fun c => { c with hidden := c.hidden.tail }
  return a

/-- Runs the check of a node against a label. If it is being carried out already, it is taken to
succeed. -/
def entering (node : Term) (l : Label) (x : Walk σ Bool) : Walk σ Bool := do
  let c ← get
  if c.isActive node l then return true
  else
    set (c.within (c.enter node l))
    let conforms ← x
    modify fun c' => { c' with label := c.label, active := c'.active.erase (node, l) }
    return conforms

/-- Runs a computation one level deeper. -/
def nesting (limit : Nat) (x : Walk σ α) : Walk σ α := do
  modify fun c => { c with depth := c.depth + 1 }
  if limit < (← get).depth then throw (.limit (.depth limit))
  else
    let a ← x
    modify fun c => { c with depth := c.depth - 1 }
    return a

/-! ## Evaluating -/

/-- Whether all checks succeed. What the first one that fails leaves behind is kept. -/
def all (check : α → Walk σ (Bool × List Diagnostic)) : List α → Walk σ Bool
  | [] => return true
  | a :: rest => do
    let (conforms, reasons) ← check a
    if conforms then all check rest
    else
      promote reasons
      return false

/-- Whether a check succeeds. If none does, what they leave behind is kept. -/
def any (check : α → Walk σ (Bool × List Diagnostic)) (failures : List Diagnostic) :
    List α → Walk σ Bool
  | [] => do
    promote failures
    return false
  | a :: rest => do
    let (conforms, reasons) ← check a
    if conforms then return true else any check (failures ++ reasons) rest

section
variable (st : Setting σ) (nested : Term → ShapeExpr → Walk σ Bool)

/-- Whether semantic actions accept the triples of a node that satisfies an expression. -/
def judgeActions (node : Term) (acts : List SemanticAction) (triples : List Triple) :
    Walk σ Bool := do
  if acts.isEmpty then return true
  else if ← st.runActions acts triples then return true
  else
    report node .semanticAction ("A semantic action rejected node " ++ node.print)
    return false

/-- The verdict on a value expression, with nothing hidden. -/
def valueConforms (node : Term) (e : ShapeExpr) : Walk σ Verdict := do
  let hidden := (← get).hidden
  modify fun c => c.within c.showAll
  let (conforms, reasons) ← collecting (nested node e)
  modify fun c => { c with hidden }
  return if conforms then .conforms else .fails reasons

/-- What matching asks of evaluation. -/
def referee : Referee (Walk σ) where
  verdict := valueConforms nested
  accepts acts triples := st.runActions acts triples
  tick := st.tick

/-- Adds the diagnostics of a failure to match the neighbourhood of a node. -/
def tell (node : Term) (f : MatchFailure) : Walk σ Unit := do
  promote (Setting.explain (← get).toScope node f)

/-- Matches the neighbourhood of a node with a form. -/
def matchForm (node : Term) (n : Neighbourhood) (form : Form) (extra : List Iri) :
    Walk σ (Option Assignment) := do
  match ← findAssignment (referee st nested) form extra n.edges with
  | .matched a => return some a
  | .failed failures =>
    forM failures (tell node)
    return none

/-- The diagnostic of a triple that a closed shape does not admit. -/
def closedFailure (scope : Scope) (node : Term) (t : Triple) : Diagnostic :=
  { scope.diagnostic node .closed
      ("Closed shape violation: unexpected predicate " ++ t.predicate.print) with
    predicate := some t.predicate
    value := some t.object }

/-- Whether the predicate of each outgoing triple is that of a constraint or extra. -/
def isClosed (node : Term) (form : Form) (extra : List Iri) : List Triple → Walk σ Bool
  | [] => return true
  | t :: rest => do
    if (form.predicates false).contains t.predicate || extra.contains t.predicate then
      isClosed node form extra rest
    else
      promote [closedFailure (← get).toScope node t]
      let _ ← isClosed node form extra rest
      return false

/-- Matches the neighbourhood of a node with a form, for a shape that may be closed. -/
def matchAround (node : Term) (form : Form) (closed : Bool) (extra : List Iri) :
    Walk σ (Option Assignment) := do
  let n := (← get).neighbourhood st.graph node (form.predicates true)
  if closed then
    if ← isClosed node form extra n.outgoing then matchForm st nested node n form extra
    else return none
  else matchForm st nested node n form extra

/-- Evaluates a shape, for the triples it matches. -/
def satisfiesShape (node : Term) (s : Shape) : Walk σ (Option (List Triple)) := do
  let form ← match s.expression with
    | some e => liftM (st.formOf e)
    | none => pure (.empty (st.validator.numbering .bare))
  return (← matchAround st nested node form s.header.closed s.header.extra).map Assignment.triples

/-- Checks the parts of an extending shape. -/
def satisfiesParts (node : Term) (owners : List (Edge × Nat)) : List (Part × Nat) → Walk σ Bool
  | [] => return true
  | (p, i) :: rest => do
    let own := (owners.filter (·.2 = i)).map (·.1.triple)
    let others := (owners.filter (·.2 ≠ i)).map Prod.fst
    if ← judgeActions st node p.main.actions own then
      if ← all (fun e => withHidden node others (collecting (nested node e))) p.constraints then
        satisfiesParts node owners rest
      else return false
    else return false

/-- Evaluates the declaration of a shape that extends others. -/
def satisfiesExtending (node : Term) (l : Label) (declared : ShapeExpr) : Walk σ Bool := do
  let plan ← st.planOf l
  match ← matchAround st nested node plan.form plan.isClosed plan.extra with
  | none => return false
  | some a =>
    match Setting.ownersOf plan l a.matched with
    | .error fault => throw fault
    | .ok owners =>
      if ← satisfiesParts st nested node owners plan.parts.zipIdx then
        if plan.parts.head?.map (·.main.id) = some declared.id then return true
        else judgeActions st node declared.actions a.triples
      else return false

/-- Evaluates the declaration of a label that is not abstract. -/
def satisfiesConcrete (node : Term) (l : Label) (d : ShapeDecl) : Walk σ Bool :=
  entering node l
    (if st.validator.hierarchy.hasParents l then satisfiesExtending st nested node l d.expr
    else nested node d.expr)

/-- Evaluates an abstract declaration. -/
def satisfiesSubtype (node : Term) (l : Label) : Walk σ Bool := do
  if ← any (fun (child, d) => collecting (satisfiesConcrete st nested node child d)) []
      (Setting.concreteSubtypes st.validator l) then return true
  else
    report node .abstractShape
      ("Node " ++ node.print ++ " does not match any concrete shape extending " ++ l.print)
    return false

/-- Evaluates the declaration of a label. -/
def satisfiesLabel (node : Term) (l : Label) : Walk σ Bool :=
  match st.validator.schema.shape? l with
  | none => throw (.danglingReference l)
  | some d =>
    if d.isAbstract then entering node l (satisfiesSubtype st nested node l)
    else satisfiesConcrete st nested node l d

/-- Evaluates an expression without its semantic actions. -/
def evaluate (node : Term) : ShapeExpr → Walk σ (Option (List Triple))
  | .and _ es => do
    if ← all (fun e => collecting (nested node e)) es then return some [] else return none
  | .or _ es => do
    if ← any (fun e => collecting (nested node e)) [] es then return some []
    else
      report node .or
        ("Node " ++ node.print ++ " does not match any of the " ++ toString es.length ++
          " alternatives")
      return none
  | .not _ e => do
    let (conforms, _) ← collecting (nested node e)
    if conforms then
      report node .not ("Node " ++ node.print ++ " matches the negated shape expression")
      return none
    else return some []
  | .ref _ l => do
    if ← satisfiesLabel st nested node l then return some [] else return none
  | .shape _ h t => satisfiesShape st nested node ⟨h, t⟩
  | .nodeConstraint _ c => do
    match c.failures st.validator.readers st.limits.patternLength node with
    | .error fault => throw fault
    | .ok [] => return some []
    | .ok failures =>
      forM failures fun f => report node f.kind f.message
      return none
  | .external _ => do
    report node .external "External shapes are not available to this validator"
    return none

/-- Whether a node satisfies an expression. The number bounds the recursion; it is not reached where
the limit of nested evaluations is. -/
def satisfiesWithin : Nat → Term → ShapeExpr → Walk σ Bool
  | 0, _, _ => throw (.limit (.depth st.limits.depth))
  | fuel + 1, node, e => do
    match ← nesting st.limits.depth (evaluate st (satisfiesWithin fuel) node e) with
    | none => return false
    | some triples => judgeActions st node e.actions triples

/-- Whether a node satisfies an expression. -/
def satisfies (node : Term) (e : ShapeExpr) : Walk σ Bool :=
  satisfiesWithin st st.limits.depth node e

end

/-! ## Validating -/

section
variable (st : Setting σ)

/-- Whether a node satisfies what is selected. -/
def checkSelected (node : Term) : Selector → Walk σ Bool
  | .label l => satisfiesLabel st (satisfies st) node l
  | .start =>
    match st.validator.schema.start with
    | none => throw .missingStart
    | some e => do
      modify fun c => { c with label := none }
      satisfies st node e

/-- Whether a node satisfies what is selected, after start actions that accepted or not. -/
def checkStarted (started : Bool) (node : Term) (selector : Selector) : Walk σ Bool :=
  if started then checkSelected st node selector
  else do
    report node .semanticAction "A start semantic action rejected the validation"
    return false

/-- Checks a pair, for its entry. -/
def check (started : Bool) (node : Term) (selector : Selector) : Walk σ Entry := do
  modify Context.cleared
  let conforms ← checkStarted st started node selector
  let reasons := (← get).diagnostics
  modify Context.cleared
  return if conforms then ⟨node, selector, .conformant, []⟩
    else ⟨node, selector, .nonconformant, reasons⟩

/-- Checks pairs one after the other, in the same context. -/
def checkAll (started : Bool) : List (Term × Selector) → Walk σ (List Entry)
  | [] => return []
  | (node, selector) :: rest => do
    let entry ← check st started node selector
    return entry :: (← checkAll started rest)

end

end Walk

end Shex
