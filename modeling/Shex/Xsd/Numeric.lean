import Shex.Rdf.Term
import Shex.Readers

/-!
# Values of literals

Which literals are valid, and the number that a literal denotes, exact for integers and decimals and
rounded for the floating point datatypes, and the comparison of two such numbers. Two exact numbers
are compared exactly; otherwise both are compared in double precision. Digits are counted for exact
numbers only.
-/

namespace Shex

/-- Reads an integer within optional bounds. -/
def Readers.bounded? (R : Readers) (lo hi : Option Int) (cs : List Char) : Option Int := do
  let n ← R.integer? cs
  if lo.any (n < ·) || hi.any (· < n) then none else some n

/-- Whether a text is a lexical form of a datatype. -/
def Readers.accepts (R : Readers) (lexical : String) : Xsd.Datatype → Bool
  | .decimal => (R.decimal? lexical.toList).isSome
  | .float => (R.single? lexical.toList).isSome
  | .double => (R.double? lexical.toList).isSome
  | .integer lo hi => (R.bounded? lo hi lexical.toList).isSome
  | d => R.isLexical d lexical.toList

/-- Whether the lexical form of a literal is valid for its datatype. -/
def Readers.isValid (R : Readers) (l : Literal) : Bool :=
  (Xsd.Datatype.ofIri? l.datatype).all (R.accepts l.lexical)

namespace Xsd

/-- The number that a literal denotes. -/
inductive Numeric where
  | exact (d : Decimal)
  | rounded (b : Binary)
deriving DecidableEq, Inhabited, Repr

namespace Numeric

/-- The number of a literal, if its datatype is numeric and its lexical form valid. -/
def ofLiteral? (R : Readers) (l : Literal) : Option Numeric :=
  let cs := l.lexical.toList
  match Datatype.ofIri? l.datatype with
  | some .decimal => (R.decimal? cs).map exact
  | some .float => (R.single? cs).map rounded
  | some .double => (R.double? cs).map rounded
  | some (.integer lo hi) => (R.bounded? lo hi cs).map fun n => exact (.ofInt n)
  | _ => none

/-- The number in double precision. -/
def toBinary : Numeric → Binary
  | exact d => d.toBinary
  | rounded b => b

/-- How two numbers are ordered, if they are. -/
def compare? : Numeric → Numeric → Option Ordering
  | exact a, exact b => some (Ord.compare a.scaled b.scaled)
  | a, b => a.toBinary.compare? b.toBinary

end Numeric

/-- The counts of all digits and of fraction digits of a literal that denotes an integer or a
decimal. -/
def digitCounts? (R : Readers) (l : Literal) : Option (Nat × Nat) :=
  let cs := l.lexical.toList
  match Datatype.ofIri? l.datatype with
  | some .decimal =>
    if (R.decimal? cs).isSome then (Numeral.read? cs).map Numeral.digitCounts else none
  | some (.integer lo hi) =>
    if (R.bounded? lo hi cs).isSome then (Numeral.read? cs).map Numeral.digitCounts else none
  | _ => none

end Xsd

end Shex
