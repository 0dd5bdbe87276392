/-!
# RDF terms

IRIs, blank nodes and literals, the resources that name things in a graph or a schema, and their
printed form. Two terms are equal only if they are written alike: lexical forms, datatypes and
language tags are compared character by character.
-/

namespace Shex

/-- An IRI, kept as it was written. -/
structure Iri where
  text : String
deriving DecidableEq, Inhabited, Repr

/-- A resource is an IRI or a blank node: what can be the subject of a triple, and what can label
an expression of a schema. -/
inductive Resource where
  | iri (i : Iri)
  | blank (id : String)
deriving DecidableEq, Inhabited, Repr

/-- The name of a declaration. -/
abbrev Label := Resource

/-- A literal has a lexical form and either a datatype or a language tag. -/
inductive Literal where
  | typed (lexical : String) (datatype : Iri)
  | tagged (lexical : String) (language : String)
deriving DecidableEq, Inhabited, Repr

/-- What can be the object of a triple. -/
inductive Term where
  | resource (r : Resource)
  | literal (l : Literal)
deriving DecidableEq, Inhabited, Repr

/-- The namespace of the XML Schema datatypes. -/
def Iri.xsdNamespace : String := "http://www.w3.org/2001/XMLSchema#"

/-- The XML Schema datatype of the given local name. -/
def Iri.xsd (localName : String) : Iri := ⟨xsdNamespace ++ localName⟩

/-- The datatype of every literal with a language tag. -/
def Iri.langString : Iri := ⟨"http://www.w3.org/1999/02/22-rdf-syntax-ns#langString"⟩

namespace Literal

/-- The lexical form. -/
def lexical : Literal → String
  | typed v _ => v
  | tagged v _ => v

/-- The datatype, which a language tag fixes. -/
def datatype : Literal → Iri
  | typed _ d => d
  | tagged _ _ => .langString

/-- The language tag, if there is one. -/
def language? : Literal → Option String
  | typed _ _ => none
  | tagged _ t => some t

end Literal

/-- Four hexadecimal digits, in upper case. -/
def hex4 (n : Nat) : String :=
  let digit (k : Nat) : Char := ("0123456789ABCDEF".toList)[k % 16]?.getD '0'
  String.ofList [digit (n / 4096), digit (n / 256), digit (n / 16), digit n]

/-- A character of a lexical form as it is printed between quotes: control characters and the two
noncharacters at the end of the basic plane are escaped, and so are the quote and the backslash. -/
def escapeChar (c : Char) : String :=
  if c = '\x08' then "\\b"
  else if c = '\t' then "\\t"
  else if c = '\n' then "\\n"
  else if c = '\x0c' then "\\f"
  else if c = '\r' then "\\r"
  else if c = '"' then "\\\""
  else if c = '\\' then "\\\\"
  else if c.val ≤ 0x1F || c.val = 0x7F || c.val = 0xFFFE || c.val = 0xFFFF then
    "\\u" ++ hex4 c.toNat
  else c.toString

/-- A lexical form between quotes. -/
def quoted (s : String) : String :=
  s.foldl (fun out c => out ++ escapeChar c) "\"" ++ "\""

/-- An IRI is printed between angle brackets, with no escapes. -/
def Iri.print (i : Iri) : String := "<" ++ i.text ++ ">"

/-- An IRI between angle brackets, or a blank node after `_:`. -/
def Resource.print : Resource → String
  | iri i => i.print
  | blank id => "_:" ++ id

/-- A literal is printed with its datatype unless that is `xsd:string`. -/
def Literal.print : Literal → String
  | typed v d => if d = .xsd "string" then quoted v else quoted v ++ "^^" ++ d.print
  | tagged v t => quoted v ++ "@" ++ t

/-- The printed form of a term. -/
def Term.print : Term → String
  | resource r => r.print
  | literal l => l.print

/-- The IRI of a resource, unless it is a blank node. -/
def Resource.iri? : Resource → Option Iri
  | iri i => some i
  | blank _ => none

/-- The resource that a term is, unless it is a literal. -/
def Term.resource? : Term → Option Resource
  | resource r => some r
  | literal _ => none

end Shex
