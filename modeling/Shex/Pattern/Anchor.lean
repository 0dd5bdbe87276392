import Shex.Pattern.CharSet

/-!
# Places in a text and conditions on them

An anchor of a pattern matches no characters, but only holds at some places of a text. Places know
the characters on both sides, which is all that anchors ask for.
-/

namespace Shex.Pattern

/-- A place between two characters of a text. -/
structure Place where
  before : Option Char
  after : Option Char
deriving DecidableEq, Inhabited

/-- The characters that words are made of: those of all scripts, or ASCII characters only. -/
inductive Alphabet where
  | unicode | ascii
deriving DecidableEq, Inhabited, Repr

/-- The characters that make up words. -/
def Alphabet.word : Alphabet → CharSet
  | unicode => .word
  | ascii => .asciiWord

/-- A condition on a place. -/
inductive Anchor where
  | textStart | textEnd
  | lineStart | lineEnd
  /-- Lines that end with a carriage return, a line feed, or both. -/
  | crlfLineStart | crlfLineEnd
  | wordBoundary (a : Alphabet) | notWordBoundary (a : Alphabet)
  | wordStart (a : Alphabet) | wordEnd (a : Alphabet)
  /-- No word before the place. -/
  | wordStartHalf (a : Alphabet)
  /-- No word after the place. -/
  | wordEndHalf (a : Alphabet)
deriving DecidableEq, Inhabited, Repr

/-- Whether a place has a property. -/
def Anchor.holds (p : Place) : Anchor → Bool
  | textStart => p.before.isNone
  | textEnd => p.after.isNone
  | lineStart => p.before.isNone || p.before = some '\n'
  | lineEnd => p.after.isNone || p.after = some '\n'
  | crlfLineStart =>
    p.before.isNone || p.before = some '\n' || (p.before = some '\r' && p.after ≠ some '\n')
  | crlfLineEnd =>
    p.after.isNone || p.after = some '\r' || (p.after = some '\n' && p.before ≠ some '\r')
  | wordBoundary a => p.before.any a.word.contains != p.after.any a.word.contains
  | notWordBoundary a => p.before.any a.word.contains == p.after.any a.word.contains
  | wordStart a => !p.before.any a.word.contains && p.after.any a.word.contains
  | wordEnd a => p.before.any a.word.contains && !p.after.any a.word.contains
  | wordStartHalf a => !p.before.any a.word.contains
  | wordEndHalf a => !p.after.any a.word.contains

end Shex.Pattern
