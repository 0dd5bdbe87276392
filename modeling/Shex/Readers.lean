import Shex.Pattern.Compile
import Shex.Xsd.Datatype

/-!
# Readers

Regular expressions and typed literals are read by libraries. What validation asks of them is a
`Readers`: which patterns compile and what these match, which decimals, integers and floating point
numbers texts denote, and which texts are lexical forms of the other datatypes. The one law is that
a pattern that was accepted with the schema compiles again when it is needed. The readers that
validation runs with are `Readers.standard`.
-/

namespace Shex

open Xsd

/-- What is left to libraries. -/
structure Readers where
  /-- Refuses a pattern that does not compile with its flags. -/
  checkPattern : String → Option String → Except Pattern.Flaw Unit
  /-- Compiles a pattern with its flags: which texts have a match. -/
  compile : String → Option String → Except Pattern.Flaw (String → Bool)
  /-- A pattern that is not refused compiles. -/
  compiles : ∀ {pattern flags}, checkPattern pattern flags = .ok () →
    ∃ hasMatch, compile pattern flags = .ok hasMatch
  decimal? : List Char → Option Decimal
  integer? : List Char → Option Int
  single? : List Char → Option Binary
  double? : List Char → Option Binary
  /-- Whether a text is a lexical form of a datatype of which no values are compared. -/
  isLexical : Datatype → List Char → Bool

namespace Readers

/-- The readers for the patterns of `Pattern` and the datatypes of `Xsd`. -/
def standard : Readers where
  checkPattern := Pattern.check
  compile p flags := return (← Pattern.regex p flags).isMatch
  compiles {p flags} h := by
    obtain ⟨r, hr⟩ := Pattern.regex_of_check h
    exact ⟨r.isMatch, by rw [hr]; rfl⟩
  decimal? := Decimal.read?
  integer? := readInteger?
  single? := Binary.read? .single
  double? := Binary.read? .double
  isLexical := Datatype.isLexical

instance : Inhabited Readers := ⟨standard⟩

end Readers

end Shex
