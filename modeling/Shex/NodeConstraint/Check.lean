import Shex.Fault
import Shex.NodeConstraint.Values
import Shex.Report
import Shex.Xsd.Numeric

/-!
# Checking node constraints

The failures of a term under a node constraint, one for each condition that does not hold, in the
order kind, datatype, facets of text, facets of value, value set. Only a pattern can end the check
with a fault: one that is too long for the limit.
-/

namespace Shex

/-- A condition that a term does not meet. -/
structure ConditionFailure where
  kind : DiagnosticKind
  message : String
deriving DecidableEq, Inhabited, Repr

namespace NodeKind

/-- The failure of a term that is not of the kind. -/
def failure? (k : NodeKind) (t : Term) : Option ConditionFailure :=
  if k.admits t then none
  else some ⟨.nodeKind, "Node " ++ t.print ++ " is not of kind " ++ k.print⟩

end NodeKind

/-- The failure of a term that is no valid literal of the datatype. -/
def datatypeFailure? (R : Readers) (d : Iri) : Term → Option ConditionFailure
  | .literal l =>
    if l.datatype ≠ d then
      some ⟨.datatype, "Literal datatype " ++ l.datatype.print ++ " does not match expected " ++
        d.print⟩
    else if R.isValid l then none
    else some ⟨.datatype, "'" ++ l.lexical ++ "' is not a valid lexical form of " ++ d.print⟩
  | t => some ⟨.datatype, "Datatype " ++ d.print ++ " requires a literal, got " ++ t.print⟩

namespace StringFacet

/-- The diagnostics that a facet can lead to. -/
def kind : StringFacet → DiagnosticKind
  | length _ => .length
  | minLength _ => .minLength
  | maxLength _ => .maxLength
  | pattern _ _ => .pattern

/-- Which texts a pattern matches, if it is not longer than `byteLimit` bytes. That it compiles was
checked with the schema. -/
def compile (R : Readers) (byteLimit : Nat) (p : String) (flags : Option String) :
    Except ValidationFault (String → Bool) :=
  if p.utf8ByteSize > byteLimit then .error (.limit (.patternLength p.utf8ByteSize byteLimit))
  else
    match R.compile p flags with
    | .ok hasMatch => .ok hasMatch
    | .error flaw => .error (.internal (.badPattern p flaw))

/-- What is wrong with a text under a facet. -/
def complaint? (R : Readers) (byteLimit : Nat) (text : String) :
    StringFacet → Except ValidationFault (Option String)
  | length n =>
    .ok (if text.length ≠ n then
      some ("String length " ++ toString text.length ++ " is not " ++ toString n) else none)
  | minLength n =>
    .ok (if text.length < n then
      some ("String length " ++ toString text.length ++ " is less than minimum " ++ toString n)
      else none)
  | maxLength n =>
    .ok (if text.length > n then
      some ("String length " ++ toString text.length ++ " exceeds maximum " ++ toString n)
      else none)
  | pattern p flags => do
    let hasMatch ← compile R byteLimit p flags
    return if hasMatch text then none
      else some ("'" ++ text ++ "' does not match pattern '" ++ p ++ "'")

/-- The failure of a term under a facet. Blank nodes have no text, and fail. -/
def failure? (R : Readers) (byteLimit : Nat) (f : StringFacet) (t : Term) :
    Except ValidationFault (Option ConditionFailure) :=
  match t.text? with
  | none => .ok (some ⟨f.kind, "String facets do not apply to " ++ t.print⟩)
  | some text => return (← f.complaint? R byteLimit text).map (⟨f.kind, ·⟩)

end StringFacet

namespace NumericFacet

/-- The diagnostics that a facet can lead to. -/
def kind : NumericFacet → DiagnosticKind
  | minInclusive _ => .minInclusive
  | minExclusive _ => .minExclusive
  | maxInclusive _ => .maxInclusive
  | maxExclusive _ => .maxExclusive
  | totalDigits _ => .totalDigits
  | fractionDigits _ => .fractionDigits

/-- What is wrong with a number that has to be on one side of a bound. A bound that is no number is
on no side. -/
def boundComplaint? (R : Readers) (l : Literal) (value : Xsd.Numeric) (f : NumericFacet)
    (bound : Literal) (holds : Ordering → Bool) : Option String :=
  if ((Xsd.Numeric.ofLiteral? R bound).bind value.compare?).any holds then none
  else some (l.print ++ " does not satisfy " ++ f.kind.print ++ " " ++ bound.lexical)

/-- What is wrong with a literal whose digits are counted. -/
def digitComplaint? (R : Readers) (l : Literal) (limit : Nat) (count : Nat × Nat → Nat)
    (what : String) : Option String :=
  match Xsd.digitCounts? R l with
  | none => some ("Digit facets only apply to decimal values, got " ++ l.print)
  | some counts =>
    if count counts > limit then
      some (l.print ++ " has " ++ toString (count counts) ++ " " ++ what ++ ", maximum is " ++
        toString limit)
    else none

/-- What is wrong with a literal under a facet. -/
def complaint? (R : Readers) (l : Literal) (f : NumericFacet) : Option String :=
  match Xsd.Numeric.ofLiteral? R l with
  | none => some (l.print ++ " is not a valid numeric literal")
  | some value =>
    match f with
    | minInclusive b => boundComplaint? R l value f b (· ≠ .lt)
    | minExclusive b => boundComplaint? R l value f b (· = .gt)
    | maxInclusive b => boundComplaint? R l value f b (· ≠ .gt)
    | maxExclusive b => boundComplaint? R l value f b (· = .lt)
    | totalDigits n => digitComplaint? R l n Prod.fst "digits"
    | fractionDigits n => digitComplaint? R l n Prod.snd "fraction digits"

/-- The failure of a term under a facet. -/
def failure? (R : Readers) (f : NumericFacet) : Term → Option ConditionFailure
  | .literal l => (f.complaint? R l).map (⟨f.kind, ·⟩)
  | t => some ⟨f.kind, "Numeric facets require a literal, got " ++ t.print⟩

end NumericFacet

namespace NodeConstraint

/-- The failure of a term that is in no member of a value set. -/
def valuesFailure? (vs : List ValueSetValue) (t : Term) : Option ConditionFailure :=
  if vs.isEmpty || ValueSetValue.anyAccepts t vs then none
  else some ⟨.values, t.print ++ " is not in the allowed value set"⟩

/-- The conditions that a term does not meet. Patterns longer than `byteLimit` bytes are a fault. -/
def failures (R : Readers) (byteLimit : Nat) (c : NodeConstraint) (t : Term) :
    Except ValidationFault (List ConditionFailure) := do
  let kind := (c.kind.bind (·.failure? t)).toList
  let datatype := (c.datatype.bind (datatypeFailure? R · t)).toList
  let strings ← c.stringFacets.mapM (·.failure? R byteLimit t)
  let numbers := c.numericFacets.filterMap (·.failure? R t)
  let values := (valuesFailure? c.values t).toList
  return kind ++ datatype ++ strings.filterMap id ++ numbers ++ values

end NodeConstraint

end Shex
