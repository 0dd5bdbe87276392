import Shex.Expr.Basic
import Shex.Pattern.Escape

/-!
# Faults

Why a schema is refused and why a validation run ends without a report. Each fault is a cause; the
functions named `message` give its wording.
-/

namespace Shex

/-- The two kinds of groups of triple expressions. -/
inductive GroupKind where
  | eachOf | oneOf
deriving DecidableEq, Inhabited, Repr

namespace GroupKind

/-- The name of a kind of group. -/
def print : GroupKind → String
  | eachOf => "EachOf"
  | oneOf => "OneOf"

/-- The least number of operands. -/
def minOperands : GroupKind → Nat
  | eachOf => 2
  | oneOf => 1

end GroupKind

/-- What is wrong with an extension. -/
inductive ExtensionFlaw where
  /-- A shape that is not the main shape of its declaration extends something. -/
  | misplaced
  /-- A shape in the start expression extends something. -/
  | inStart
  /-- Shapes extend each other in a circle. -/
  | cyclic (labels : List Label)
  /-- The declaration has no main shape. -/
  | notExtendable
  /-- The main shape and a constraint beside it are about the same predicate. -/
  | sharedPredicate (p : Iri)
deriving DecidableEq, Inhabited, Repr

/-- Why a schema is refused. -/
inductive SchemaFault where
  | duplicateLabel (label : Label)
  | undefinedReference (label : Label)
  | cyclicReference (labels : List Label)
  | unstratifiedNegation (source target : Label)
  | illFormedExtension (label : Label) (flaw : ExtensionFlaw)
  | tooFewOperands (kind : GroupKind) (actual : Nat)
  | invalidPattern (pattern : String) (flaw : Pattern.Flaw)
deriving DecidableEq, Inhabited, Repr

/-- Labels with commas between them. -/
def printLabels (ls : List Label) : String := ", ".intercalate (ls.map Resource.print)

/-- The wording of a flaw of an extension. -/
def ExtensionFlaw.message : ExtensionFlaw → String
  | misplaced => "EXTENDS is only allowed on the main shape of a declaration"
  | inStart => "EXTENDS is not allowed in the start shape expression"
  | cyclic ls => "cyclic extension through " ++ printLabels ls
  | notExtendable => "extended shapes must be a shape or a conjunction starting with a shape"
  | sharedPredicate p =>
    "predicate " ++ p.print ++ " is used both by the main shape and a constraint"

/-- The wording of a fault of a pattern. Only for a flag is the reason told. -/
def Pattern.Flaw.message (pattern : String) : Pattern.Flaw → String
  | .unsupportedFlag f =>
    "Invalid regex pattern '" ++ pattern ++ "': unsupported regex flag '" ++ f.toString ++ "'"
  | _ => "Invalid regex pattern '" ++ pattern ++ "'"

/-- The wording of a fault of a schema. -/
def SchemaFault.message : SchemaFault → String
  | duplicateLabel l =>
    "Label " ++ l.print ++ " is declared both as a shape and as a triple expression"
  | undefinedReference l => "Undefined reference: " ++ l.print
  | cyclicReference ls => "Cyclic reference between " ++ printLabels ls
  | unstratifiedNegation a b =>
    "Unstratified negation: " ++ a.print ++ " depends negatively on " ++ b.print ++
      " inside a cycle"
  | illFormedExtension l flaw => "Ill-formed extension on " ++ l.print ++ ": " ++ flaw.message
  | tooFewOperands kind actual =>
    kind.print ++ " requires at least " ++ toString kind.minOperands ++ " operands, got " ++
      toString actual
  | invalidPattern p flaw => flaw.message p

/-- Why a triple expression cannot be matched as it stands. -/
inductive MalformedForm where
  /-- A labelled triple expression contains itself. -/
  | selfReference (label : Label)
  /-- A reference was left in a normalized expression. -/
  | unresolvedReference (label : Label)
  /-- A group is repeated with a cardinality that has to be written out. -/
  | repeatedGroup (cardinality : Cardinality) (id : ExprId)
deriving DecidableEq, Inhabited

/-- A bound that a run did not keep. -/
inductive LimitFault where
  | depth (limit : Nat)
  | assignments (limit : Nat)
  | patternLength (length limit : Nat)
  | expansion (limit : Nat)
deriving DecidableEq, Inhabited, Repr

/-- A state that no accepted schema can lead to. -/
inductive InternalFault where
  /-- A matched triple belongs to none of the joined shapes. -/
  | unowned (constraint : ExprId) (label : Label)
  /-- A shape is extended that has no main shape. -/
  | notExtendable (label : Label)
  /-- A pattern cannot be compiled. -/
  | badPattern (pattern : String) (flaw : Pattern.Flaw)
deriving DecidableEq, Inhabited

/-- Why a run ends without a report. -/
inductive ValidationFault where
  | shapeNotFound (label : Label)
  | missingStart
  | danglingReference (label : Label)
  | malformed (form : MalformedForm)
  | actionFailed (name : Iri) (message : String)
  | limit (fault : LimitFault)
  | internal (fault : InternalFault)
deriving DecidableEq, Inhabited

/-- The wording for a malformed expression. -/
def MalformedForm.message : MalformedForm → String
  | selfReference l => "triple expression " ++ l.print ++ " references itself"
  | unresolvedReference l => "unresolved reference to " ++ l.print
  | repeatedGroup c id => "cardinality " ++ c.print ++ " over a group in " ++ id.print

/-- The wording for a bound that was not kept. -/
def LimitFault.message : LimitFault → String
  | depth limit =>
    "Maximum recursion depth exceeded: reached " ++ toString (limit + 1) ++ ", limit is " ++
      toString limit ++ ". Consider simplifying the schema or increasing the limit."
  | assignments limit =>
    "Maximum number of assignments exceeded: limit is " ++ toString limit ++
      ". The neighbourhood may have too many ways to match the shape."
  | patternLength length limit =>
    "Regex pattern too long: " ++ toString length ++ " characters, limit is " ++ toString limit
  | expansion limit =>
    "Triple expression expansion too large: limit is " ++ toString limit ++
      " nodes. Consider lowering the repetition bounds of groups."

/-- The wording of an internal fault. -/
def InternalFault.message : InternalFault → String
  | unowned c l =>
    "triple constraint " ++ c.print ++ " of " ++ l.print ++ " belongs to no ancestor"
  | notExtendable l =>
    l.print ++ " is extended but is not a shape or a conjunction starting with one"
  | badPattern p flaw => flaw.message p

/-- The wording of a fault of a run. -/
def ValidationFault.message : ValidationFault → String
  | shapeNotFound l => "Shape not found: " ++ l.print
  | missingStart => "The schema has no start shape"
  | danglingReference l => "Dangling reference to " ++ l.print ++ " during validation"
  | malformed form => "Malformed SORBE expression: " ++ form.message
  | actionFailed name message => "Semantic action " ++ name.print ++ " failed: " ++ message
  | limit fault => fault.message
  | internal fault => "Internal validation error: " ++ fault.message

end Shex
