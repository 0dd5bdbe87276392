import Shex.Rdf.Term
import Shex.Xsd.Binary
import Shex.Xsd.Calendar
import Shex.Xsd.Duration

/-!
# Datatypes

The XML Schema datatypes, and which texts are lexical forms of those that are not numeric. The
datatypes derived from integers are intervals of the integers that fit into 64 bits. A datatype that
is not known here accepts everything.
-/

namespace Shex.Xsd

/-- The datatypes whose lexical forms are checked. The integer datatypes have the bounds of their
values, where they have any beside those of 64 bits. -/
inductive Datatype where
  | boolean | decimal | float | double
  | dateTime | date | time
  | duration | dayTimeDuration | yearMonthDuration
  | gYear | gYearMonth | gMonth | gMonthDay | gDay
  | integer (lo hi : Option Int)
deriving DecidableEq, Inhabited, Repr

namespace Datatype

/-- The datatype of a local name. -/
def ofLocalName? : String → Option Datatype
  | "boolean" => some boolean
  | "decimal" => some decimal
  | "float" => some float
  | "double" => some double
  | "dateTime" => some dateTime
  | "dateTimeStamp" => some dateTime
  | "date" => some date
  | "time" => some time
  | "duration" => some duration
  | "dayTimeDuration" => some dayTimeDuration
  | "yearMonthDuration" => some yearMonthDuration
  | "gYear" => some gYear
  | "gYearMonth" => some gYearMonth
  | "gMonth" => some gMonth
  | "gMonthDay" => some gMonthDay
  | "gDay" => some gDay
  | "integer" => some (integer none none)
  | "long" => some (integer none none)
  | "int" => some (integer (some (-2147483648)) (some 2147483647))
  | "short" => some (integer (some (-32768)) (some 32767))
  | "byte" => some (integer (some (-128)) (some 127))
  | "unsignedLong" => some (integer (some 0) none)
  | "nonNegativeInteger" => some (integer (some 0) none)
  | "unsignedInt" => some (integer (some 0) (some 4294967295))
  | "unsignedShort" => some (integer (some 0) (some 65535))
  | "unsignedByte" => some (integer (some 0) (some 255))
  | "positiveInteger" => some (integer (some 1) none)
  | "negativeInteger" => some (integer none (some (-1)))
  | "nonPositiveInteger" => some (integer none (some 0))
  | _ => none

/-- The datatype that an IRI names. -/
def ofIri? (i : Iri) : Option Datatype :=
  let cs := i.text.toList
  let base := Iri.xsdNamespace.toList
  if base.isPrefixOf cs then ofLocalName? (String.ofList (cs.drop base.length)) else none

/-- Whether a text is a lexical form of a datatype of which no values are compared. -/
def isLexical (d : Datatype) (cs : List Char) : Bool :=
  match d with
  | boolean => ["true", "false", "1", "0"].any (·.toList = cs)
  | dateTime => (Calendar.whole Calendar.dateTime cs).isSome
  | date => (Calendar.whole Calendar.date cs).isSome
  | time => (Calendar.whole Calendar.time cs).isSome
  | duration => (Duration.read? cs).isSome
  | dayTimeDuration => (Duration.read? cs).any fun d => d.seconds.isSome && d.months.isNone
  | yearMonthDuration => (Duration.read? cs).any fun d => d.months.isSome && d.seconds.isNone
  | gYear => (Calendar.whole Calendar.gYear cs).isSome
  | gYearMonth => (Calendar.whole Calendar.gYearMonth cs).isSome
  | gMonth => (Calendar.whole Calendar.gMonth cs).isSome
  | gMonthDay => (Calendar.whole Calendar.gMonthDay cs).isSome
  | gDay => (Calendar.whole Calendar.gDay cs).isSome
  | decimal | float | double | integer _ _ => false

end Datatype

end Shex.Xsd
