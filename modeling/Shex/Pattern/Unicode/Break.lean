import Shex.Pattern.Unicode.Category
import Shex.Pattern.Unicode.Emoji
import Shex.Pattern.Unicode.Ideograph
import Shex.Pattern.Unicode.Script
import Shex.Pattern.Unicode.Segmentation
import Shex.Pattern.Unicode.Usage

/-!
# Break properties

The properties by which text is cut into user-perceived characters, words and sentences. Each
character has one value of each of the three properties, and the sets here are those of the
characters with a value. The value of the characters that no rule mentions has no set.
-/

namespace Shex.Pattern.Unicode

/-- The script with a name. -/
def script? (name : String) : Option CharSet :=
  let name := (scriptCodes.lookup name).getD name
  ((scriptsToL.lookup name) <|> (scriptsFromM.lookup name)).map .ofRuns

/-- The characters of any of the scripts. -/
def scripts (names : List String) : CharSet :=
  (names.filterMap script?).foldl .union .empty

/-- Characters in upper case. -/
def uppercase : CharSet := gather [uppercaseLetter, otherUppercase]

/-- Characters in lower case. -/
def lowercase : CharSet := gather [lowercaseLetter, otherLowercase]

/-- Characters that extend the ones before them. -/
def graphemeExtend : CharSet := gather [nonspacingMark, enclosingMark, otherGraphemeExtend]

/-- Characters without a form of their own. Format characters between lines, of hieroglyphs and
those around digits have one. -/
def defaultIgnorable : CharSet :=
  (gather [otherDefaultIgnorable, format, variationSelector]).diff
    (gather [whiteSpace, prependedConcatenationMark, [(0xFFF9, 0xFFFB, 1), (0x13430, 0x13440, 1)]])

/-- A character that joins the ones around it. -/
def joiner : CharSet := ⟨[(0x200D, 0x200D)]⟩

/-- Line feed. -/
def lineFeed : CharSet := ⟨[(0x0A, 0x0A)]⟩

/-- Carriage return. -/
def carriageReturn : CharSet := ⟨[(0x0D, 0x0D)]⟩

/-- Marks and modifiers that are not cut off from the character before them. -/
def extending : CharSet := graphemeExtend.union (.ofRuns emojiModifier)

/-- Format characters that belong to numbers. -/
def numericFormat : CharSet := (gather [prependedConcatenationMark]).diff ⟨[(0x70F, 0x70F)]⟩

/-- The Hangul syllables without a consonant at the end. -/
def openSyllable : CharSet := .ofRuns [(0xAC00, 0xD788, 28)]

/-- The characters with a value of Grapheme_Cluster_Break. -/
def graphemeBreak? : String → Option CharSet
  | "cn" | "control" =>
    some <| ((gather [lineSeparator, paragraphSeparator, control, format]).union
      (unassigned.inter defaultIgnorable)).diff
        (lineFeed.union (carriageReturn.union (joiner.union ((CharSet.ofRuns prepended).union
          extending))))
  | "cr" => some carriageReturn
  | "ex" | "extend" => some extending
  | "l" => some (.ofRuns leadingConsonant)
  | "lf" => some lineFeed
  | "lv" => some openSyllable
  | "lvt" => some (CharSet.diff ⟨[(0xAC00, 0xD7A3)]⟩ openSyllable)
  | "pp" | "prepend" => some (.ofRuns prepended)
  | "ri" | "regionalindicator" => some (.ofRuns regionalIndicator)
  | "sm" | "spacingmark" =>
    some <| (gather [spacingMark, [(0xE33, 0xE33, 1), (0xEB3, 0xEB3, 1)]]).diff
      ((CharSet.ofRuns otherSpacing).union extending)
  | "t" => some (.ofRuns trailingConsonant)
  | "v" => some (.ofRuns medialVowel)
  | "zwj" => some joiner
  | _ => none

/-- Hebrew letters. -/
def hebrewLetter : CharSet := (scripts ["hebrew"]).inter (.ofRuns otherLetter)

/-- Katakana and the signs used with them. -/
def katakana : CharSet := (scripts ["katakana"]).union (.ofRuns katakanaSign)

/-- Marks within words. -/
def wordExtend : CharSet := extending.union (.ofRuns spacingMark)

/-- The letters of words that are written with spaces between them. -/
def wordLetter : CharSet :=
  (CharSet.alphabetic.diff
    ((CharSet.ofRuns ideographic).union (katakana.union (hebrewLetter.union (wordExtend.union
      (scripts ["hiragana", "thai", "lao", "myanmar", "khmer", "taile", "newtailue", "taitham",
        "taiviet", "ahom"])))))).union
    (.ofRuns otherWordLetter)

/-- The characters with a value of Word_Break. -/
def wordBreak? : String → Option CharSet
  | "cr" => some carriageReturn
  | "dq" | "doublequote" => some ⟨[(0x22, 0x22)]⟩
  | "ex" | "extendnumlet" => some (gather [connectorPunctuation, [(0x202F, 0x202F, 1)]])
  | "extend" => some (wordExtend.diff joiner)
  | "fo" | "format" =>
    some <| (gather [format]).diff
      (gather [prependedConcatenationMark, otherGraphemeExtend, [(0x200B, 0x200D, 1)]])
  | "hl" | "hebrewletter" => some hebrewLetter
  | "ka" | "katakana" => some katakana
  | "le" | "aletter" => some wordLetter
  | "lf" => some lineFeed
  | "mb" | "midnumlet" => some (.ofRuns midLetterNumber)
  | "ml" | "midletter" => some (.ofRuns midLetter)
  | "mn" | "midnum" => some (.ofRuns midNumber)
  | "nl" | "newline" => some ⟨[(0x0B, 0x0C), (0x85, 0x85), (0x2028, 0x2029)]⟩
  | "nu" | "numeric" =>
    some ((gather [decimalNumber, otherNumeric]).diff ⟨[(0x66C, 0x66C)]⟩)
  | "ri" | "regionalindicator" => some (.ofRuns regionalIndicator)
  | "sq" | "singlequote" => some ⟨[(0x27, 0x27)]⟩
  | "wsegspace" =>
    some ((gather [spaceSeparator]).diff ⟨[(0xA0, 0xA0), (0x2007, 0x2007), (0x202F, 0x202F)]⟩)
  | "zwj" => some joiner
  | _ => none

/-- Marks within sentences. -/
def sentenceExtend : CharSet := graphemeExtend.union ((gather [spacingMark]).union joiner)

/-- Line ends that end a sentence by themselves. -/
def sentenceSeparator : CharSet := ⟨[(0x85, 0x85), (0x2028, 0x2029)]⟩

/-- Letters at the start of a sentence. Georgian letters in upper case are not. -/
def sentenceUpper : CharSet :=
  (uppercase.union (.ofRuns titlecaseLetter)).diff ⟨[(0x1C90, 0x1CBA), (0x1CBD, 0x1CBF)]⟩

/-- Letters that show that a sentence goes on. Georgian letters do not. -/
def sentenceLower : CharSet :=
  lowercase.diff (graphemeExtend.union ⟨[(0x10D0, 0x10FA), (0x10FD, 0x10FF)]⟩)

/-- The characters with a value of Sentence_Break. -/
def sentenceBreak? : String → Option CharSet
  | "at" | "aterm" => some (.ofRuns sentenceStop)
  | "cl" | "close" =>
    some (gather [openPunctuation, closePunctuation, initialPunctuation, finalPunctuation,
      otherClose])
  | "cr" => some carriageReturn
  | "ex" | "extend" => some sentenceExtend
  | "fo" | "format" =>
    some ((gather [format]).diff (numericFormat.union
      (gather [otherGraphemeExtend, [(0x200C, 0x200D, 1)]])))
  | "le" | "oletter" =>
    some ((CharSet.alphabetic.union ⟨[(0x5F3, 0x5F3)]⟩).diff
      (sentenceUpper.union (sentenceLower.union sentenceExtend)))
  | "lf" => some lineFeed
  | "lo" | "lower" => some sentenceLower
  | "nu" | "numeric" => some (gather [decimalNumber, otherNumeric])
  | "sc" | "scontinue" => some (.ofRuns sentenceContinue)
  | "se" | "sep" => some sentenceSeparator
  | "sp" =>
    some (CharSet.space.diff (lineFeed.union (carriageReturn.union sentenceSeparator)))
  | "st" | "sterm" => some ((gather [sentenceTerminal]).diff (.ofRuns sentenceStop))
  | "up" | "upper" => some sentenceUpper
  | _ => none

end Shex.Pattern.Unicode
