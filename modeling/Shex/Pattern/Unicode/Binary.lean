import Shex.Pattern.Unicode.Break
import Shex.Pattern.Unicode.CaseChange
import Shex.Pattern.Unicode.Identifier

/-!
# Properties that characters have or have not

The sets of the characters that have a property, by the name of the property. Many of them follow
from the general categories and a short table of further characters. Names are given in small
letters without spaces, hyphens and underscores.
-/

namespace Shex.Pattern.Unicode

/-- Characters that lower case changes. -/
def changesInLowercase : CharSet :=
  (uppercase.union (.ofRuns titlecaseLetter)).diff (.ofRuns onlyUppercase)

/-- Characters that upper case changes. -/
def changesInUppercase : CharSet :=
  (lowercase.union (.ofRuns titlecaseLetter)).diff (.ofRuns onlyLowercase)

/-- Characters that title case changes. -/
def changesInTitlecase : CharSet :=
  (changesInUppercase.diff (gather [titlecaseLetter, ownTitlecase])).union
    (.ofRuns titledUppercase)

/-- Characters that can start an identifier. -/
def identifierStart : CharSet :=
  (CharSet.letter.union (gather [letterNumber, otherIdStart])).diff
    (gather [patternSyntax, patternWhiteSpace])

/-- Characters that can go on an identifier. -/
def identifierContinue : CharSet :=
  identifierStart.union ((gather [nonspacingMark, spacingMark, decimalNumber,
    connectorPunctuation, otherIdContinue]).diff (gather [patternSyntax, patternWhiteSpace]))

/-- The characters of scripts and symbols that case does not look at. -/
def caseIgnorable : CharSet :=
  gather [nonspacingMark, enclosingMark, format, modifierLetter, modifierSymbol, midLetter,
    midLetterNumber, [(0x27, 0x27, 1)]]

/-- The table of the property with a name, if it needs no other. -/
def tabled? : String → Option (List (Nat × Nat × Nat))
  | "ahex" | "asciihexdigit" => some asciiHexDigit
  | "bidic" | "bidicontrol" => some bidiControl
  | "bidim" | "bidimirrored" => some bidiMirrored
  | "dash" => some (dashPunctuation ++ otherDash)
  | "dep" | "deprecated" => some deprecated
  | "dia" | "diacritic" => some diacritic
  | "emoji" => some emoji
  | "ecomp" | "emojicomponent" => some emojiComponent
  | "emod" | "emojimodifier" => some emojiModifier
  | "ebase" | "emojimodifierbase" => some emojiModifierBase
  | "epres" | "emojipresentation" => some emojiPresentation
  | "extpict" | "extendedpictographic" => some extendedPictographic
  | "ext" | "extender" => some extender
  | "grlink" | "graphemelink" => some graphemeLink
  | "hex" | "hexdigit" => some hexDigit
  | "hyphen" => some hyphen
  | "idsb" | "idsbinaryoperator" => some binaryIdeographOperator
  | "idst" | "idstrinaryoperator" => some ternaryIdeographOperator
  | "idsu" | "idsunaryoperator" => some unaryIdeographOperator
  | "idcompatmathcontinue" => some (mathIdStart ++ mathIdContinue)
  | "idcompatmathstart" => some mathIdStart
  | "ideo" | "ideographic" => some ideographic
  | "joinc" | "joincontrol" => some joinControl
  | "loe" | "logicalorderexception" => some logicalOrderException
  | "lower" | "lowercase" => some (lowercaseLetter ++ otherLowercase)
  | "math" => some (mathSymbol ++ otherMath)
  | "mcm" | "modifiercombiningmark" => some modifierCombiningMark
  | "nchar" | "noncharactercodepoint" => some noncharacter
  | "oalpha" | "otheralphabetic" => some otherAlphabetic
  | "odi" | "otherdefaultignorablecodepoint" => some otherDefaultIgnorable
  | "ogrext" | "othergraphemeextend" => some otherGraphemeExtend
  | "oidc" | "otheridcontinue" => some otherIdContinue
  | "oids" | "otheridstart" => some otherIdStart
  | "olower" | "otherlowercase" => some otherLowercase
  | "omath" | "othermath" => some otherMath
  | "oupper" | "otheruppercase" => some otherUppercase
  | "patsyn" | "patternsyntax" => some patternSyntax
  | "patws" | "patternwhitespace" => some patternWhiteSpace
  | "pcm" | "prependedconcatenationmark" => some prependedConcatenationMark
  | "qmark" | "quotationmark" => some quotationMark
  | "radical" => some radical
  | "ri" | "regionalindicator" => some regionalIndicator
  | "sterm" | "sentenceterminal" => some sentenceTerminal
  | "sd" | "softdotted" => some softDotted
  | "term" | "terminalpunctuation" => some (sentenceTerminal ++ otherTerminal)
  | "uideo" | "unifiedideograph" => some unifiedIdeograph
  | "upper" | "uppercase" => some (uppercaseLetter ++ otherUppercase)
  | "vs" | "variationselector" => some variationSelector
  | "wspace" | "whitespace" | "space" => some whiteSpace
  | _ => none

/-- The characters of the property with a name, if it follows from others. -/
def derived? : String → Option CharSet
  | "alpha" | "alphabetic" => some .alphabetic
  | "ci" | "caseignorable" => some caseIgnorable
  | "cased" => some (gather [uppercaseLetter, lowercaseLetter, titlecaseLetter, otherUppercase,
      otherLowercase])
  | "cwcf" | "changeswhencasefolded" =>
    some ((changesInLowercase.diff (.ofRuns unfoldedUppercase)).union (.ofRuns foldedLowercase))
  | "cwcm" | "changeswhencasemapped" =>
    some (changesInLowercase.union (changesInUppercase.union changesInTitlecase))
  | "cwl" | "changeswhenlowercased" => some changesInLowercase
  | "cwt" | "changeswhentitlecased" => some changesInTitlecase
  | "cwu" | "changeswhenuppercased" => some changesInUppercase
  | "di" | "defaultignorablecodepoint" => some defaultIgnorable
  | "grbase" | "graphemebase" =>
    some (graphic.diff (graphemeExtend.union (gather [lineSeparator, paragraphSeparator])))
  | "grext" | "graphemeextend" => some graphemeExtend
  | "idc" | "idcontinue" => some identifierContinue
  | "ids" | "idstart" => some identifierStart
  | "xidc" | "xidcontinue" => some (identifierContinue.diff (.ofRuns onlyIdContinue))
  | "xids" | "xidstart" => some (identifierStart.diff (.ofRuns onlyIdStart))
  | _ => none

/-- The characters that have the property with a name. -/
def binary? (name : String) : Option CharSet := (tabled? name).map .ofRuns <|> derived? name

end Shex.Pattern.Unicode
