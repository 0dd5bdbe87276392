import Shex.Pattern.CharSet
import Shex.Pattern.Unicode.Separator
import Shex.Pattern.Unicode.Symbol

/-!
# General categories

The sets of characters of the general categories and of the groups of categories, by name. Names
are given in small letters without spaces, hyphens and underscores.
-/

namespace Shex.Pattern.Unicode

/-- The union of tables. -/
def gather (tables : List (List (Nat × Nat × Nat))) : CharSet := .ofRuns tables.flatten

/-- Letters that have a case. -/
def casedLetter : CharSet := gather [uppercaseLetter, lowercaseLetter, titlecaseLetter]

/-- All marks. -/
def mark : CharSet := gather [nonspacingMark, spacingMark, enclosingMark]

/-- All punctuation. -/
def punctuation : CharSet :=
  gather [connectorPunctuation, dashPunctuation, openPunctuation, closePunctuation,
    initialPunctuation, finalPunctuation, otherPunctuation]

/-- All symbols. -/
def symbol : CharSet := gather [mathSymbol, currencySymbol, modifierSymbol, otherSymbol]

/-- All separators. -/
def separator : CharSet := gather [spaceSeparator, lineSeparator, paragraphSeparator]

/-- Everything with a form of its own: letters, marks, numbers, punctuation, symbols and
separators. -/
def graphic : CharSet :=
  CharSet.letter.union (mark.union (CharSet.number.union (punctuation.union (symbol.union
    separator))))

/-- The code points that may stand for a character later. Surrogates never will. -/
def unassigned : CharSet :=
  (graphic.union (gather [control, format, privateUse, [(0xD800, 0xDFFF, 1)]])).compl

/-- The general category with a name. -/
def category? : String → Option CharSet
  | "any" => some .all
  | "assigned" => some unassigned.compl
  | "ascii" => some ⟨[(0, 0x7F)]⟩
  | "l" | "letter" => some .letter
  | "lc" | "casedletter" => some casedLetter
  | "lu" | "uppercaseletter" => some (.ofRuns uppercaseLetter)
  | "ll" | "lowercaseletter" => some (.ofRuns lowercaseLetter)
  | "lt" | "titlecaseletter" => some (.ofRuns titlecaseLetter)
  | "lm" | "modifierletter" => some (.ofRuns modifierLetter)
  | "lo" | "otherletter" => some (.ofRuns otherLetter)
  | "m" | "mark" | "combiningmark" => some mark
  | "mn" | "nonspacingmark" => some (.ofRuns nonspacingMark)
  | "mc" | "spacingmark" => some (.ofRuns spacingMark)
  | "me" | "enclosingmark" => some (.ofRuns enclosingMark)
  | "n" | "number" => some .number
  | "nd" | "decimalnumber" | "digit" => some .digit
  | "nl" | "letternumber" => some (.ofRuns letterNumber)
  | "no" | "othernumber" => some (.ofRuns otherNumber)
  | "p" | "punctuation" | "punct" => some punctuation
  | "pc" | "connectorpunctuation" => some (.ofRuns connectorPunctuation)
  | "pd" | "dashpunctuation" => some (.ofRuns dashPunctuation)
  | "ps" | "openpunctuation" => some (.ofRuns openPunctuation)
  | "pe" | "closepunctuation" => some (.ofRuns closePunctuation)
  | "pi" | "initialpunctuation" => some (.ofRuns initialPunctuation)
  | "pf" | "finalpunctuation" => some (.ofRuns finalPunctuation)
  | "po" | "otherpunctuation" => some (.ofRuns otherPunctuation)
  | "s" | "symbol" => some symbol
  | "sm" | "mathsymbol" => some (.ofRuns mathSymbol)
  | "sc" | "currencysymbol" => some (.ofRuns currencySymbol)
  | "sk" | "modifiersymbol" => some (.ofRuns modifierSymbol)
  | "so" | "othersymbol" => some (.ofRuns otherSymbol)
  | "z" | "separator" => some separator
  | "zs" | "spaceseparator" => some (.ofRuns spaceSeparator)
  | "zl" | "lineseparator" => some (.ofRuns lineSeparator)
  | "zp" | "paragraphseparator" => some (.ofRuns paragraphSeparator)
  | "c" | "other" => some graphic.compl
  | "cc" | "control" | "cntrl" => some (.ofRuns control)
  | "cf" | "format" => some (.ofRuns format)
  | "cn" | "unassigned" => some unassigned
  | "co" | "privateuse" => some (.ofRuns privateUse)
  | _ => none

end Shex.Pattern.Unicode
