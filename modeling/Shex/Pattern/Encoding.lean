import Shex.Pattern.CharSet

/-!
# Ranges of characters as ranges of bytes

An automaton that reads UTF-8 byte by byte has to know a range of characters as ranges of bytes.
A range of code points is cut into pieces that are encoded with one number of bytes, and in which
all bytes after the first one that varies take every value a following byte can have. A piece is
then given by a range for each byte (`byteRanges`).
-/

namespace Shex.Pattern

/-- The bytes of the character with a code point. -/
def utf8Bytes (n : Nat) : List Nat :=
  if n < 0x80 then [n]
  else if n < 0x800 then [0xC0 + n / 64, 0x80 + n % 64]
  else if n < 0x10000 then [0xE0 + n / 4096, 0x80 + n / 64 % 64, 0x80 + n % 64]
  else [0xF0 + n / 262144, 0x80 + n / 4096 % 64, 0x80 + n / 64 % 64, 0x80 + n % 64]

/-- The code points where the number of bytes changes or the surrogates begin or end. -/
def encodingBounds : List Nat := [0x80, 0x800, 0xD800, 0xE000, 0x10000]

/-- Where to cut a range whose code points are encoded with one number of bytes: before the first
or behind the last full block of 64 code points, or of 64 blocks, and so on. -/
def blockCut? (lo hi : Nat) : List Nat → Option Nat
  | [] => none
  | b :: bs =>
    if lo / b = hi / b then blockCut? lo hi bs
    else if lo % b ≠ 0 then some ((lo / b + 1) * b)
    else if hi % b ≠ b - 1 then some (hi / b * b)
    else blockCut? lo hi bs

/-- Where to cut a range of code points, if it has to be cut. -/
def cut? (lo hi : Nat) : Option Nat :=
  match encodingBounds.find? fun b => lo < b && b ≤ hi with
  | some b => some b
  | none => if hi < 0x80 then none else blockCut? lo hi [64, 4096, 262144]

/-- The pieces of a range. Surrogates are left out. -/
def pieces (lo hi : Nat) : List (Nat × Nat) :=
  match cut? lo hi with
  | some k =>
    if _h : lo < k ∧ k ≤ hi then pieces lo (k - 1) ++ pieces k hi else [(lo, hi)]
  | none => if 0xD800 ≤ lo && hi ≤ 0xDFFF then [] else [(lo, hi)]
termination_by hi - lo

/-- The pieces of a set, each as a range for every byte. -/
def CharSet.byteRanges (s : CharSet) : List (List (Nat × Nat)) :=
  s.ranges.flatMap fun (lo, hi) =>
    (pieces lo hi).map fun (a, b) => (utf8Bytes a).zip (utf8Bytes b)

end Shex.Pattern
