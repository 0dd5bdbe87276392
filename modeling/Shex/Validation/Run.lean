import Shex.Action
import Shex.Inheritance.Plan
import Shex.Limits
import Shex.Matching.Assignment
import Shex.Wellformed

/-!
# Runs

What evaluation has at hand. A `Validator` is a well-formed schema with its hierarchy. A `Setting`
adds what one run is about: limits, handlers and a graph. A run has a state: the forms and plans
computed so far, which outlive it, the number of assignments tried, and the state of the handlers.
Computations are in the monad `Run`, in which the state survives a fault.

Where evaluation stands is no state but an argument, the `Scope`: which nodes are being checked
against which labels, the innermost of these labels, and the triples hidden from a node.
-/

namespace Shex

/-- What a form is made for. -/
inductive FormUse where
  /-- A shape without triple expression. -/
  | bare
  /-- The triple expression with an identity. -/
  | expr (id : ExprId)
  /-- The joined expressions of the parts of a label. -/
  | label (l : Label)
deriving DecidableEq

/-- From which identity on the nodes of a form are numbered. One counter numbers all nodes that a
process makes, also those of other schemas and of other validators, so where it stands when a form
is made is not for the validator to say. A form that was made is kept, and therefore a number for
each form is all that there is to know about the counter. -/
abbrev Numbering := FormUse → ExprId

/-- A schema that can be validated against, with the numbers that the nodes of its forms get and the
readers of its patterns and literals. -/
structure Validator where
  schema : Schema
  hierarchy : Hierarchy
  numbering : Numbering
  readers : Readers
deriving Inhabited

/-- The validator of a schema, if the schema is well-formed. All new nodes are numbered after those
of the schema; `Validator.renumber` gives them other numbers. -/
def Validator.ofSchema (s : Schema) (R : Readers := .standard) : Except SchemaFault Validator := do
  s.analyze R
  return ⟨s, .ofSchema s, fun _ => s.freshId, R⟩

/-- The schema of a validator is well-formed for its readers. -/
abbrev Validator.IsAccepted (v : Validator) : Prop := v.schema.analyze v.readers = .ok ()

/-- The same validator where the counter stands elsewhere when its forms are made. -/
def Validator.renumber (v : Validator) (ν : Numbering) : Validator := { v with numbering := ν }

/-- Forms by the identity of the expression, and plans by label. -/
structure Memo where
  forms : Table ExprId Form
  plans : Table Label Plan
deriving Inhabited

/-- Nothing computed yet. -/
def Memo.empty : Memo := ⟨.empty, .empty⟩

/-- What a run is about. -/
structure Setting (σ : Type) where
  validator : Validator
  limits : Limits
  handlers : Handlers σ
  graph : GraphView

/-- The state of a run. -/
structure RunState (σ : Type) where
  memo : Memo
  assignments : Nat
  world : σ

/-- Computations of a run. -/
abbrev Run (σ : Type) := ExceptT ValidationFault (StateM (RunState σ))

/-- Where evaluation stands. -/
structure Scope where
  /-- The pairs of a node and a label that are being checked, the latest first. -/
  active : List (Term × Label)
  /-- The innermost label. -/
  label : Option Label
  /-- Edges of a node that it is looked at without. -/
  hidden : List (Term × List Edge)
deriving Inhabited

namespace Scope

/-- The scope of a check that has just begun. -/
def outermost : Scope := ⟨[], none, []⟩

/-- Whether a node is being checked against a label. -/
def isActive (s : Scope) (node : Term) (l : Label) : Bool := s.active.contains (node, l)

/-- The scope inside the check of a node against a label. -/
def enter (s : Scope) (node : Term) (l : Label) : Scope :=
  { s with active := (node, l) :: s.active, label := some l }

/-- The scope in which edges are hidden from a node. -/
def hide (s : Scope) (node : Term) (edges : List Edge) : Scope :=
  { s with hidden := (node, edges) :: s.hidden }

/-- The scope in which nothing is hidden. -/
def showAll (s : Scope) : Scope := { s with hidden := [] }

/-- A diagnostic for the innermost label. -/
def diagnostic (s : Scope) (node : Term) (kind : DiagnosticKind) (message : String) : Diagnostic :=
  ⟨node, s.label, kind, none, none, message⟩

/-- The neighbourhood of a node without the edges hidden from it. -/
def neighbourhood (s : Scope) (graph : GraphView) (node : Term) (inversePredicates : List Iri) :
    Neighbourhood :=
  s.hidden.foldl (fun n h => if h.1 = node then n.without h.2 else n)
    (.collect graph node inversePredicates)

end Scope

namespace Setting

variable {σ : Type} (st : Setting σ)

/-- The form of a triple expression of the schema. -/
def formOf (e : TripleExpr) : Run σ Form := do
  let s ← get
  match s.memo.forms.get? e.id with
  | some f => return f
  | none =>
    match e.normalize st.validator.schema st.limits.expansion
        (st.validator.numbering (.expr e.id)) with
    | .error fault => throw fault
    | .ok f =>
      set { s with memo.forms := s.memo.forms.insert e.id f }
      return f

/-- The form of the joined expressions of the parts of a label. The group that joins them is a node
that is in no schema. -/
def joinedForm (l : Label) (es : List TripleExpr) : Run σ Form :=
  match es with
  | [] => return .empty (st.validator.numbering (.label l))
  | [e] => st.formOf e
  | es =>
    let fresh := st.validator.numbering (.label l)
    let joined := TripleExpr.eachOf (.written ⟨fresh, []⟩) es
    match joined.normalize st.validator.schema st.limits.expansion fresh.next with
    | .error fault => throw fault
    | .ok f => return f

/-- The plan of an extending shape. -/
def planOf (l : Label) : Run σ Plan := do
  match (← get).memo.plans.get? l with
  | some p => return p
  | none =>
    match Plan.partsOf st.validator.schema st.validator.hierarchy l with
    | .error fault => throw fault
    | .ok parts =>
      let plan : Plan := ⟨parts, ← st.joinedForm l (Plan.expressions parts)⟩
      modify fun s => { s with memo.plans := s.memo.plans.insert l plan }
      return plan

/-- Runs semantic actions: whether all of them accept the triples. -/
def runActions (acts : List SemanticAction) (triples : List Triple) : Run σ Bool := do
  let s ← get
  let (result, world) := st.handlers.run triples acts s.world
  set { s with world }
  match result with
  | .ok accepted => return accepted
  | .error fault => throw fault

/-- Counts an assignment against the limit. -/
def tick : Run σ Unit := do
  let s ← get
  set { s with assignments := s.assignments + 1 }
  match st.limits.assignments with
  | some limit => if limit < s.assignments + 1 then throw (.limit (.assignments limit)) else return
  | none => return

end Setting

end Shex
