import Shex.NodeConstraint

/-!
# Value sets

Which terms a member of a value set accepts. Language tags are compared without regard to the case
of ASCII letters, and the stem of a tag ends where a part of the tag ends: `en` is a stem of `en-GB`
and not of `eng`. All else is compared character by character.
-/

namespace Shex

/-- Whether two characters are the same up to ASCII case. -/
def sameLetter (a b : Char) : Bool := a.toLower = b.toLower

/-- Whether two texts are the same up to ASCII case. -/
def sameTag : List Char → List Char → Bool
  | [], [] => true
  | a :: as, b :: bs => sameLetter a b && sameTag as bs
  | _, _ => false

/-- Whether a text begins with `stem` up to ASCII case, and `stem` ends where the text ends or a
hyphen follows. -/
def startsWithTag : List Char → List Char → Bool
  | tag, [] => tag.isEmpty || tag.head? = some '-'
  | a :: as, b :: bs => sameLetter a b && startsWithTag as bs
  | [], _ :: _ => false

/-- Whether a language tag has a stem. Every tag has the empty stem. -/
def languageHasStem (tag stem : String) : Bool :=
  stem.isEmpty || startsWithTag tag.toList stem.toList

namespace Term

/-- The language tag of a term that is a literal with one. -/
def language? : Term → Option String
  | .literal l => l.language?
  | .resource _ => none

/-- The text that facets and stems look at: a lexical form or an IRI. -/
def text? : Term → Option String
  | .resource (.iri i) => some i.text
  | .resource (.blank _) => none
  | .literal l => some l.lexical

end Term

/-- Whether a text begins with another. -/
def hasStem (text stem : String) : Bool := stem.toList.isPrefixOf text.toList

/-- Whether a term begins with a stem of a kind. -/
def StemKind.admits (k : StemKind) (stem : String) (t : Term) : Bool :=
  match k, t with
  | iri, .resource (.iri i) => hasStem i.text stem
  | literal, .literal l => hasStem l.lexical stem
  | language, .literal l => l.language?.any (languageHasStem · stem)
  | _, _ => false

namespace ValueSetValue

mutual

/-- Whether a member of a value set accepts a term. -/
def accepts (t : Term) : ValueSetValue → Bool
  | .term u => t = u
  | .language tag => t.language?.any fun l => sameTag l.toList tag.toList
  | .stem k s exclusions => k.admits s t && !anyAccepts t exclusions

/-- Whether one of several members accepts a term. -/
def anyAccepts (t : Term) : List ValueSetValue → Bool
  | [] => false
  | v :: vs => accepts t v || anyAccepts t vs

end

end ValueSetValue

end Shex
