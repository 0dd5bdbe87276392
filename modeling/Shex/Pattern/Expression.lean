import Shex.Pattern.Anchor

/-!
# Simplified expressions

What a pattern means, without the way it is written. The constructors `sequence`, `choice`,
`alternation`, `repetition` and `ofSet` keep expressions simple: neighbouring texts are one text,
sequences and choices are not nested in their like, a choice between single characters is a set, and
what stands at the start of all alternatives is taken out of them. How large the automaton of a
pattern becomes is measured on this form.
-/

namespace Shex.Pattern

/-- A regular expression. Groups and greediness play no part in whether a text matches, but in which
expressions are the same. -/
inductive Expression where
  /-- The empty text. -/
  | empty
  /-- A text of at least one character. -/
  | text (cs : List Char)
  /-- One character of the set. Sets of ASCII characters that were written without the classes of
  Unicode are told from others. -/
  | set (a : Alphabet) (s : CharSet)
  /-- The empty text at a place with a property. -/
  | anchor (a : Anchor)
  /-- A number of times: at least `lo` times and, if there is an upper bound, at most `hi` times. -/
  | times (lo : Nat) (hi : Option Nat) (greedy : Bool) (e : Expression)
  /-- A group whose match is remembered, with its number. -/
  | group (index : Nat) (e : Expression)
  /-- One after the other. -/
  | seq (es : List Expression)
  /-- One of them. -/
  | alt (es : List Expression)
deriving Inhabited

namespace Expression

mutual

/-- Whether two expressions are the same. -/
def same : Expression → Expression → Bool
  | empty, empty => true
  | text a, text b => a = b
  | set a s, set b t => a = b && s = t
  | anchor a, anchor b => a = b
  | times lo hi g e, times lo' hi' g' e' => lo = lo' && hi = hi' && g = g' && e.same e'
  | group i e, group j f => i = j && e.same f
  | seq es, seq fs => sameAll es fs
  | alt es, alt fs => sameAll es fs
  | _, _ => false

/-- Whether two lists hold the same expressions. -/
def sameAll : List Expression → List Expression → Bool
  | [], [] => true
  | e :: es, f :: fs => e.same f && sameAll es fs
  | _, _ => false

end

/-- The number of bytes of a text in UTF-8. -/
def byteCount (cs : List Char) : Nat := (cs.map Char.utf8Size).foldl (· + ·) 0

/-- The number of bytes of the character with a code point. -/
def codeSize (n : Nat) : Nat :=
  if n < 0x80 then 1 else if n < 0x800 then 2 else if n < 0x10000 then 3 else 4

mutual

/-- The least number of bytes that a match takes, if there can be a match. -/
def minBytes : Expression → Option Nat
  | empty => some 0
  | text cs => some (byteCount cs)
  | set _ s => s.ranges.head?.map fun r => codeSize r.1
  | anchor _ => some 0
  | times lo _ _ e => e.minBytes.map (lo * ·)
  | group _ e => e.minBytes
  | seq es => minBytesAll es
  | alt es => minBytesAny es

/-- The least number of bytes of a match of all expressions in sequence. -/
def minBytesAll : List Expression → Option Nat
  | [] => some 0
  | e :: es =>
    match e.minBytes, minBytesAll es with
    | some m, some n => some (m + n)
    | _, _ => none

/-- The least number of bytes of a match of any of the expressions, if all of them can match. -/
def minBytesAny : List Expression → Option Nat
  | [] => none
  | [e] => e.minBytes
  | e :: es =>
    match e.minBytes, minBytesAny es with
    | some m, some n => some (min m n)
    | _, _ => none

end

mutual

/-- The greatest number of bytes that a match takes, if there is one. -/
def maxBytes : Expression → Option Nat
  | empty => some 0
  | text cs => some (byteCount cs)
  | set _ s => s.ranges.getLast?.map fun r => codeSize r.2
  | anchor _ => some 0
  | times _ hi _ e =>
    match hi, e.maxBytes with
    | some hi, some n => some (hi * n)
    | _, _ => none
  | group _ e => e.maxBytes
  | seq es => maxBytesAll es
  | alt es => maxBytesAny es

/-- The greatest number of bytes of a match of all expressions in sequence. -/
def maxBytesAll : List Expression → Option Nat
  | [] => some 0
  | e :: es =>
    match e.maxBytes, maxBytesAll es with
    | some m, some n => some (m + n)
    | _, _ => none

/-- The greatest number of bytes of a match of any of the expressions, if each has one. -/
def maxBytesAny : List Expression → Option Nat
  | [] => none
  | [e] => e.maxBytes
  | e :: es =>
    match e.maxBytes, maxBytesAny es with
    | some m, some n => some (max m n)
    | _, _ => none

end

/-- Whether every match is empty. -/
def isBlank (e : Expression) : Bool := e.maxBytes = some 0

mutual

/-- Whether matches can only begin at a place where the anchor holds, because the expression has it
before everything that reads. -/
def startsAt (a : Anchor) : Expression → Bool
  | empty | text _ | set _ _ => false
  | anchor b => a = b
  | times lo _ _ e => 0 < lo && e.startsAt a
  | group _ e => e.startsAt a
  | seq es => startsAtFirst a es
  | alt es => startsAtAll a es

/-- Whether the anchor stands in front of a sequence. -/
def startsAtFirst (a : Anchor) : List Expression → Bool
  | [] => false
  | e :: es => e.startsAt a || (e.isBlank && startsAtFirst a es)

/-- Whether the anchor stands in front of every alternative. -/
def startsAtAll (a : Anchor) : List Expression → Bool
  | [] => true
  | e :: es => e.startsAt a && startsAtAll a es

end

mutual

/-- Whether matches can only end at a place where the anchor holds, because the expression has it
behind everything that reads. -/
def endsAt (a : Anchor) : Expression → Bool
  | empty | text _ | set _ _ => false
  | anchor b => a = b
  | times lo _ _ e => 0 < lo && e.endsAt a
  | group _ e => e.endsAt a
  | seq es => endsAtLast a es
  | alt es => endsAtAll a es

/-- Whether the anchor stands at the end of a sequence. -/
def endsAtLast (a : Anchor) : List Expression → Bool
  | [] => false
  | e :: es => endsAtLast a es || (e.endsAt a && maxBytesAll es = some 0)

/-- Whether the anchor stands at the end of every alternative. -/
def endsAtAll (a : Anchor) : List Expression → Bool
  | [] => true
  | e :: es => e.endsAt a && endsAtAll a es

end

/-- What never matches. -/
def never : Expression := set .ascii .empty

/-- One character of a set, as a text if there is only one. -/
def ofSet (a : Alphabet) (s : CharSet) : Expression :=
  if s.ranges.isEmpty then never
  else
    match s.toChar? with
    | some c => text [c]
    | none => set a s

/-- A repetition. Repeating what matches only the empty text more than once adds nothing. -/
def repetition (lo : Nat) (hi : Option Nat) (greedy : Bool) (e : Expression) : Expression :=
  let (lo, hi) := if e.isBlank then (min lo 1, some (min (hi.getD 1) 1)) else (lo, hi)
  if hi = some 0 then empty
  else if lo = 1 && hi = some 1 then e
  else times lo hi greedy e

/-- The parts of a sequence without empty texts, the parts of sequences in it taken by
themselves. -/
def parts : List Expression → List Expression
  | [] => []
  | empty :: es => parts es
  | seq fs :: es => fs ++ parts es
  | e :: es => e :: parts es

/-- Joins neighbouring texts. -/
def joinTexts : List Expression → List Expression
  | [] => []
  | e :: es =>
    match e, joinTexts es with
    | text a, text b :: rest => text (a ++ b) :: rest
    | e, rest => e :: rest

/-- The expressions one after the other. -/
def sequence (es : List Expression) : Expression :=
  match joinTexts (parts es) with
  | [] => empty
  | [e] => e
  | es => seq es

/-- The alternatives, those of choices among them taken by themselves. -/
def branches : List Expression → List Expression
  | [] => []
  | alt fs :: es => fs ++ branches es
  | e :: es => e :: branches es

/-- The characters of alternatives that are single characters. -/
def chars? : List Expression → Option (List Char)
  | [] => some []
  | text [c] :: es => (chars? es).map (c :: ·)
  | _ => none

/-- The union of alternatives that are sets. -/
def sets? : List Expression → Option CharSet
  | [] => some .empty
  | set _ s :: es => (sets? es).map s.union
  | _ => none

/-- The alternatives as one set, if they all are characters or all are sets. -/
def asSet? (es : List Expression) : Option CharSet :=
  match chars? es with
  | some cs => some (.ofString (String.ofList cs))
  | none => sets? es

/-- One of the alternatives. -/
def choice (es : List Expression) : Expression :=
  match branches es with
  | [] => never
  | [e] => e
  | es =>
    match asSet? es with
    | some s => ofSet .unicode s
    | none => alt es

/-- How many expressions two lists have in common at their start. -/
def commonCount : List Expression → List Expression → Nat
  | e :: es, f :: fs => if e.same f then commonCount es fs + 1 else 0
  | _, _ => 0

/-- The parts of alternatives that all are sequences. -/
def sequences? : List Expression → Option (List (List Expression))
  | [] => some []
  | seq es :: rest => (sequences? rest).map (es :: ·)
  | _ => none

/-- One of the alternatives, with what stands at the start of all of them taken out. -/
def alternation (es : List Expression) : Expression :=
  match choice es with
  | alt fs =>
    match sequences? fs with
    | some (first :: rest) =>
      let n := rest.foldl (fun n es => min n (commonCount (first.take n) es)) first.length
      if n = 0 then alt fs
      else sequence (first.take n ++ [choice ((first :: rest).map fun es => sequence (es.drop n))])
    | _ => alt fs
  | e => e

end Expression

end Shex.Pattern
