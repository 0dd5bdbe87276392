import Shex.Validation.Evaluate

/-!
# Validation

A run checks a list of pairs of a node and a selector. If every selector names something, the start
actions of the schema are run, and then each pair is checked on its own; if the start actions
reject, no pair conforms. A run gives a report or a fault, and what it has learned about the schema
can be given to the next one.
-/

namespace Shex

namespace Setting

variable {σ : Type} (st : Setting σ)

/-- The entry for a pair with a verdict. -/
def entry (node : Term) (selector : Selector) : Verdict → Entry
  | .conforms => ⟨node, selector, .conformant, []⟩
  | .fails reasons => ⟨node, selector, .nonconformant, reasons⟩

/-- The verdict on a pair. -/
def checkSelected (node : Term) : Selector → Run σ Verdict
  | .label l =>
    st.satisfiesLabel (st.satisfies st.limits.depth) (st.satisfies st.limits.depth) .outermost node
      l
  | .start =>
    match st.validator.schema.start with
    | none => throw .missingStart
    | some e => st.satisfies st.limits.depth .outermost node e

/-- The verdict on a pair, after start actions that accepted or not. -/
def check (started : Bool) (node : Term) (selector : Selector) : Run σ Verdict :=
  if started then st.checkSelected node selector
  else
    return .fails [Scope.outermost.diagnostic node .semanticAction
      "A start semantic action rejected the validation"]

/-- Demands that a selector names something. -/
def resolve (s : Schema) : Selector → Except ValidationFault Unit
  | .label l => if s.shapes.contains l then .ok () else .error (.shapeNotFound l)
  | .start => if s.start.isSome then .ok () else .error .missingStart

/-- Checks pairs one after the other. -/
def checkAll (started : Bool) : List (Term × Selector) → Run σ (List Entry)
  | [] => return []
  | (node, selector) :: rest => do
    let verdict ← st.check started node selector
    return entry node selector verdict :: (← checkAll started rest)

/-- Checks all pairs of a list. -/
def run (pairs : List (Term × Selector)) : Run σ Report := do
  match pairs.forM fun p => resolve st.validator.schema p.2 with
  | .error fault => throw fault
  | .ok () =>
    let started ← st.runActions st.validator.schema.startActions []
    return ⟨← st.checkAll started pairs⟩

end Setting

/-- Validates pairs of nodes and selectors, beginning with what earlier runs computed and with a
state of the handlers. The computed forms and plans and the state of the handlers are given back
with the report or the fault. -/
def Validator.validate {σ : Type} (v : Validator) (limits : Limits) (handlers : Handlers σ)
    (graph : GraphView) (pairs : List (Term × Selector)) (memo : Memo) (world : σ) :
    Except ValidationFault Report × Memo × σ :=
  let (result, s) := (Setting.run ⟨v, limits, handlers, graph⟩ pairs).run.run ⟨memo, 0, world⟩
  (result, s.memo, s.world)

/-- Why a schema and a node give no report. -/
inductive Fault where
  | schema (fault : SchemaFault)
  | validation (fault : ValidationFault)
deriving Inhabited

/-- Checks a schema and validates one node against it, with the standard limits and without
handlers. -/
def validate (graph : GraphView) (s : Schema) (selector : Selector) (node : Term) :
    Except Fault Report :=
  match Validator.ofSchema s with
  | .error fault => .error (.schema fault)
  | .ok v =>
    let (result, _) :=
      v.validate (σ := Unit) .standard .empty graph [(node, selector)] .empty ()
    match result with
    | .ok report => .ok report
    | .error fault => .error (.validation fault)

end Shex
