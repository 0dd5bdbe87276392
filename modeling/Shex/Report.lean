import Shex.Rdf.Term

/-!
# Reports

The answer of a validation run: for each pair of a node and a selected shape whether the node
conforms, and if it does not, the diagnostics that say why. The text of a report counts the failing
nodes and lists every entry with its numbered diagnostics.
-/

namespace Shex

/-- What a node is checked against: a labelled shape or the start expression of the schema. -/
inductive Selector where
  | label (l : Label)
  | start
deriving DecidableEq, Inhabited, Repr

/-- The label, or `START`. -/
def Selector.print : Selector → String
  | label l => l.print
  | start => "START"

/-- The rule that a node broke. -/
inductive DiagnosticKind where
  | nodeKind | datatype
  | length | minLength | maxLength | pattern
  | minInclusive | minExclusive | maxInclusive | maxExclusive
  | totalDigits | fractionDigits
  | values | closed | unmatchedTriple | noMatchingAssignment
  | not | or | external | abstractShape | semanticAction
deriving DecidableEq, Inhabited, Repr

/-- The name of a rule. -/
def DiagnosticKind.print : DiagnosticKind → String
  | nodeKind => "NodeKind"
  | datatype => "Datatype"
  | length => "Length"
  | minLength => "MinLength"
  | maxLength => "MaxLength"
  | pattern => "Pattern"
  | minInclusive => "MinInclusive"
  | minExclusive => "MinExclusive"
  | maxInclusive => "MaxInclusive"
  | maxExclusive => "MaxExclusive"
  | totalDigits => "TotalDigits"
  | fractionDigits => "FractionDigits"
  | values => "Values"
  | closed => "Closed"
  | unmatchedTriple => "UnmatchedTriple"
  | noMatchingAssignment => "NoMatchingAssignment"
  | not => "ShapeNot"
  | or => "ShapeOr"
  | external => "ShapeExternal"
  | abstractShape => "AbstractShape"
  | semanticAction => "SemanticAction"

/-- One reason why a node does not conform: the node, the innermost labelled shape that was being
evaluated, the broken rule, and the arc and value it concerns if it is about a triple. -/
structure Diagnostic where
  focus : Term
  shape : Option Label
  kind : DiagnosticKind
  predicate : Option Iri
  value : Option Term
  message : String
deriving DecidableEq, Inhabited, Repr

/-- The rule and the message, then what is known of shape, predicate and value in brackets. -/
def Diagnostic.print (d : Diagnostic) : String :=
  let bracket (name : String) (text : Option String) : String :=
    match text with
    | some t => " [" ++ name ++ ": " ++ t ++ "]"
    | none => ""
  d.kind.print ++ ": " ++ d.message ++ bracket "shape" (d.shape.map Resource.print) ++
    bracket "predicate" (d.predicate.map Iri.print) ++ bracket "value" (d.value.map Term.print)

/-- Whether a node conforms to the shape it was checked against. -/
inductive Status where
  | conformant
  | nonconformant
deriving DecidableEq, Inhabited, Repr

/-- The name of a status. -/
def Status.print : Status → String
  | conformant => "conformant"
  | nonconformant => "nonconformant"

/-- The result for one node and one selected shape. -/
structure Entry where
  node : Term
  shape : Selector
  status : Status
  diagnostics : List Diagnostic
deriving DecidableEq, Inhabited, Repr

namespace Entry

/-- Whether the node conforms. -/
def conforms (e : Entry) : Bool := e.status = .conformant

/-- The node, the shape and the status. -/
def print (e : Entry) : String :=
  e.node.print ++ "@" ++ e.shape.print ++ ": " ++ e.status.print

end Entry

/-- The results of a run, in the order in which the pairs were given. -/
structure Report where
  entries : List Entry
deriving DecidableEq, Inhabited, Repr

namespace Report

/-- The report without entries. -/
def empty : Report := ⟨[]⟩

/-- Adds an entry at the end. -/
def push (r : Report) (e : Entry) : Report := ⟨r.entries ++ [e]⟩

/-- Whether every entry conforms. -/
def conforms (r : Report) : Bool := r.entries.all Entry.conforms

/-- The number of entries. -/
def size (r : Report) : Nat := r.entries.length

/-- The diagnostics of all entries, in order. -/
def diagnostics (r : Report) : List Diagnostic := r.entries.flatMap Entry.diagnostics

/-- The lines of an entry in the text of a report. -/
def entryLines (e : Entry) : List String :=
  ("  " ++ e.print) ::
    e.diagnostics.zipIdx.map fun (d, i) => "    " ++ toString (i + 1) ++ ". " ++ d.print

/-- One line if every entry conforms; otherwise the number of failures and the lines of every
entry. -/
def print (r : Report) : String :=
  if r.conforms then "Conforms (" ++ toString r.size ++ " node(s))"
  else
    let failing := r.entries.countP fun e => !e.conforms
    "\n".intercalate
      ((toString failing ++ " non-conformant node(s)") :: r.entries.flatMap entryLines)

end Report

end Shex
