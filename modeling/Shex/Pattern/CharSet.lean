import Shex.Pattern.Unicode.Alphabetic
import Shex.Pattern.Unicode.CaseFolding
import Shex.Pattern.Unicode.Letter
import Shex.Pattern.Unicode.Mark
import Shex.Pattern.Unicode.Number
import Shex.Pattern.Unicode.Punctuation
import Shex.Pattern.Unicode.WhiteSpace

/-!
# Sets of characters

Sets of code points as lists of ranges with both ends included, with the set operations of
character classes and closure under simple case folding. What a set contains is `contains`. The
ranges are sorted and neither overlap nor touch, so that a complement can be read off the gaps
between them, and so that the number of ranges tells how much room a set takes in an automaton.

No character is a surrogate. The code points before and after a range are those of the characters
before and after it.
-/

namespace Shex.Pattern

/-- A set of code points, the union of its ranges. -/
structure CharSet where
  ranges : List (Nat × Nat)
deriving Inhabited, DecidableEq

namespace CharSet

/-- The greatest code point. -/
def last : Nat := 0x10FFFF

/-- The code point of the character after that of `n`. -/
def after (n : Nat) : Nat := if n = 0xD7FF then 0xE000 else n + 1

/-- The code point of the character before that of `n`. -/
def before (n : Nat) : Nat := if n = 0xE000 then 0xD7FF else n - 1

/-- Whether a code point is in the set. -/
def containsCode (s : CharSet) (n : Nat) : Bool := s.ranges.any fun r => r.1 ≤ n && n ≤ r.2

/-- Whether a character is in the set. -/
def contains (s : CharSet) (c : Char) : Bool := s.containsCode c.toNat

/-- The set without characters. -/
def empty : CharSet := ⟨[]⟩

/-- All characters. -/
def all : CharSet := ⟨[(0, last)]⟩

/-- One character. -/
def single (c : Char) : CharSet := ⟨[(c.toNat, c.toNat)]⟩

/-- The characters between two, both included. -/
def range (lo hi : Char) : CharSet := ⟨[(lo.toNat, hi.toNat)]⟩

/-- Joins the ranges that overlap or touch `r`, given further ranges sorted by their starts. -/
def join (r : Nat × Nat) : List (Nat × Nat) → List (Nat × Nat)
  | [] => [r]
  | q :: rest =>
    if q.1 ≤ r.2 + 1 then join (r.1, max r.2 q.2) rest else r :: join q rest

/-- The set of the code points in any of the ranges. -/
def ofRanges (ranges : List (Nat × Nat)) : CharSet :=
  match ranges.mergeSort fun a b => a.1 ≤ b.1 with
  | [] => ⟨[]⟩
  | r :: rest => ⟨join r rest⟩

/-- The characters of a text. -/
def ofString (s : String) : CharSet := ofRanges (s.toList.map fun c => (c.toNat, c.toNat))

/-- The characters in either set. -/
def union (a b : CharSet) : CharSet :=
  if b.ranges.isEmpty then a else ofRanges (a.ranges ++ b.ranges)

/-- The range with two ends, whichever comes first. -/
def between (a b : Nat) : Nat × Nat := if a ≤ b then (a, b) else (b, a)

/-- The gaps between ranges, from the end `n` of a range on. Two ranges that only the surrogates
part leave their inner ends. -/
def gaps (n : Nat) : List (Nat × Nat) → List (Nat × Nat)
  | [] => if n < last then [(after n, last)] else []
  | r :: rest => between (after n) (before r.1) :: gaps r.2 rest

/-- The characters that are not in the set. -/
def compl (s : CharSet) : CharSet :=
  match s.ranges with
  | [] => all
  | r :: rest => ⟨if 0 < r.1 then (0, before r.1) :: gaps r.2 rest else gaps r.2 rest⟩

/-- The common parts of two lists of ranges. -/
def interRanges : List (Nat × Nat) → List (Nat × Nat) → List (Nat × Nat)
  | [], _ => []
  | _, [] => []
  | a :: as, b :: bs =>
    let rest := if a.2 < b.2 then interRanges as (b :: bs) else interRanges (a :: as) bs
    if max a.1 b.1 ≤ min a.2 b.2 then (max a.1 b.1, min a.2 b.2) :: rest else rest
termination_by as bs => as.length + bs.length

/-- The characters in both sets. -/
def inter (a b : CharSet) : CharSet := ⟨interRanges a.ranges b.ranges⟩

/-- The parts of the first ranges that none of the second covers. -/
def diffRanges : List (Nat × Nat) → List (Nat × Nat) → List (Nat × Nat)
  | [], _ => []
  | as, [] => as
  | a :: as, b :: bs =>
    if b.2 < a.1 then diffRanges (a :: as) bs
    else if a.2 < b.1 then a :: diffRanges as (b :: bs)
    else
      let rest :=
        if b.2 < a.2 then diffRanges ((after b.2, a.2) :: as) bs else diffRanges as (b :: bs)
      if a.1 < b.1 then (a.1, before b.1) :: rest else rest
termination_by as bs => as.length + bs.length

/-- The characters in the first set and not in the second. -/
def diff (a b : CharSet) : CharSet := ⟨diffRanges a.ranges b.ranges⟩

/-- The characters in one of the sets and not in both. -/
def symmDiff (a b : CharSet) : CharSet := (a.union b).diff (a.inter b)

/-- Whether every character of the set is an ASCII character. -/
def isAscii (s : CharSet) : Bool := s.ranges.all fun r => r.2 < 128

/-- The only character of the set, if it has exactly one. -/
def toChar? (s : CharSet) : Option Char :=
  match s.ranges with
  | [(a, b)] => if a = b then some (Char.ofNat a) else none
  | _ => none

/-- The code points of runs. A run `(lo, hi, step)` stands for `lo`, `lo + step`, and so on up to
`hi`. -/
def ofRuns (runs : List (Nat × Nat × Nat)) : CharSet :=
  ofRanges <| runs.flatMap fun (lo, hi, step) =>
    if step = 1 then [(lo, hi)]
    else (List.range ((hi - lo) / step + 1)).map fun k => (lo + k * step, lo + k * step)

/-- Decimal digits of all scripts. -/
def digit : CharSet := ofRuns Unicode.decimalNumber

/-- White space. -/
def space : CharSet := ofRuns Unicode.whiteSpace

/-- All letters. -/
def letter : CharSet :=
  ofRuns <| Unicode.uppercaseLetter ++ Unicode.lowercaseLetter ++ Unicode.titlecaseLetter ++
    Unicode.modifierLetter ++ Unicode.otherLetter

/-- Letters, numbers that look like letters, and vowel signs and the like. -/
def alphabetic : CharSet := letter.union (ofRuns (Unicode.letterNumber ++ Unicode.otherAlphabetic))

/-- All numbers. -/
def number : CharSet :=
  ofRuns (Unicode.decimalNumber ++ Unicode.letterNumber ++ Unicode.otherNumber)

/-- What makes up words: alphabetic characters, marks, digits, connecting punctuation and the two
characters that join or separate letters (U+200C and U+200D). -/
def word : CharSet :=
  alphabetic.union <| ofRuns <| Unicode.nonspacingMark ++ Unicode.spacingMark ++
    Unicode.enclosingMark ++ Unicode.decimalNumber ++ Unicode.connectorPunctuation ++
    [(0x200C, 0x200D, 1)]

/-- ASCII digits. -/
def asciiDigit : CharSet := ⟨[(0x30, 0x39)]⟩

/-- ASCII white space. -/
def asciiSpace : CharSet := ⟨[(0x09, 0x0D), (0x20, 0x20)]⟩

/-- ASCII letters, digits and the underscore. -/
def asciiWord : CharSet := ⟨[(0x30, 0x39), (0x41, 0x5A), (0x5F, 0x5F), (0x61, 0x7A)]⟩

/-- The ASCII class of a name. -/
def ofAsciiClass? : String → Option CharSet
  | "alnum" => some ⟨[(0x30, 0x39), (0x41, 0x5A), (0x61, 0x7A)]⟩
  | "alpha" => some ⟨[(0x41, 0x5A), (0x61, 0x7A)]⟩
  | "ascii" => some ⟨[(0x00, 0x7F)]⟩
  | "blank" => some ⟨[(0x09, 0x09), (0x20, 0x20)]⟩
  | "cntrl" => some ⟨[(0x00, 0x1F), (0x7F, 0x7F)]⟩
  | "digit" => some asciiDigit
  | "graph" => some ⟨[(0x21, 0x7E)]⟩
  | "lower" => some ⟨[(0x61, 0x7A)]⟩
  | "print" => some ⟨[(0x20, 0x7E)]⟩
  | "punct" => some ⟨[(0x21, 0x2F), (0x3A, 0x40), (0x5B, 0x60), (0x7B, 0x7E)]⟩
  | "space" => some asciiSpace
  | "upper" => some ⟨[(0x41, 0x5A)]⟩
  | "word" => some asciiWord
  | "xdigit" => some ⟨[(0x30, 0x39), (0x41, 0x46), (0x61, 0x66)]⟩
  | _ => none

/-- The code points that case folding changes, each with its folded form. -/
def foldedPairs : List (Nat × Nat) :=
  Unicode.caseFolding.flatMap fun (lo, hi, step, form) =>
    (List.range ((hi - lo) / step + 1)).map fun k => (lo + k * step, form + k * step)

/-- The set with every character that has the same folded form as one in it. -/
def foldCase (s : CharSet) : CharSet :=
  let touched := foldedPairs.filter fun p => s.containsCode p.1 || s.containsCode p.2
  let forms := ofRanges (touched.map fun p => (p.2, p.2))
  let sources := foldedPairs.filter fun p => forms.containsCode p.2
  s.union (forms.union (ofRanges (sources.map fun p => (p.1, p.1))))

/-- The set with the other case of every ASCII letter in it. -/
def foldAsciiCase (s : CharSet) : CharSet :=
  let letters := (List.range 26).filter fun k =>
    s.containsCode (0x61 + k) || s.containsCode (0x41 + k)
  s.union (ofRanges (letters.flatMap fun k => [(0x41 + k, 0x41 + k), (0x61 + k, 0x61 + k)]))

end CharSet

end Shex.Pattern
