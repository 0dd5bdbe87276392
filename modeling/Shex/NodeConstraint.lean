import Shex.Rdf.Term

/-!
# Node constraints

What can be demanded of a single node without a look at its triples: its kind, its datatype, facets
of its text and of its numeric value, and membership in a value set.
-/

namespace Shex

/-- The kinds of nodes that a constraint can ask for. -/
inductive NodeKind where
  | iri | blank | literal | nonliteral
deriving DecidableEq, Inhabited, Repr

namespace NodeKind

/-- The name of a kind. -/
def print : NodeKind → String
  | iri => "IRI"
  | blank => "BNODE"
  | literal => "LITERAL"
  | nonliteral => "NONLITERAL"

/-- Whether a term is of a kind. -/
def admits : NodeKind → Term → Bool
  | iri, .resource (.iri _) => true
  | blank, .resource (.blank _) => true
  | literal, .literal _ => true
  | nonliteral, .resource _ => true
  | _, _ => false

end NodeKind

/-- A condition on the text of a node: the lexical form of a literal or the IRI itself. Lengths
count characters. -/
inductive StringFacet where
  | length (n : Nat)
  | minLength (n : Nat)
  | maxLength (n : Nat)
  | pattern (pattern : String) (flags : Option String)
deriving DecidableEq, Inhabited, Repr

/-- A condition on the number that a literal denotes. -/
inductive NumericFacet where
  | minInclusive (bound : Literal)
  | minExclusive (bound : Literal)
  | maxInclusive (bound : Literal)
  | maxExclusive (bound : Literal)
  | totalDigits (n : Nat)
  | fractionDigits (n : Nat)
deriving DecidableEq, Inhabited, Repr

/-- What a stem is the beginning of. -/
inductive StemKind where
  | iri | literal | language
deriving DecidableEq, Inhabited, Repr

/-- A member of a value set: one term, all literals with one language tag, or all that begin with
a stem except what one of the exclusions accepts. -/
inductive ValueSetValue where
  | term (t : Term)
  | language (tag : String)
  | stem (kind : StemKind) (stem : String) (exclusions : List ValueSetValue)
deriving Inhabited

/-- Conditions on one node, all of which have to hold. An empty value set is no condition. -/
structure NodeConstraint where
  kind : Option NodeKind
  datatype : Option Iri
  stringFacets : List StringFacet
  numericFacets : List NumericFacet
  values : List ValueSetValue
deriving Inhabited

/-- Whether there is no condition. -/
def NodeConstraint.isEmpty (c : NodeConstraint) : Bool :=
  c.kind.isNone && c.datatype.isNone && c.stringFacets.isEmpty && c.numericFacets.isEmpty &&
    c.values.isEmpty

end Shex
