import Shex.Pattern.Expression
import Shex.Pattern.Unicode.Property

/-!
# Escapes and modes

The modes that flags switch on and off, the faults for which a pattern is refused, and what a
backslash with the characters after it stands for: a character, a set of characters or an anchor.
In verbose mode, white space and comments are skipped nearly everywhere, also between the braces of
an escape or of a repetition count.
-/

namespace Shex.Pattern

/-- The modes in which a part of a pattern is read. -/
structure Modes where
  /-- Letters stand for both cases. -/
  ignoreCase : Bool := false
  /-- `^` and `$` hold at line ends. -/
  multiLine : Bool := false
  /-- The dot matches line feeds too. -/
  dotAll : Bool := false
  /-- Lines may end with a carriage return. -/
  crlf : Bool := false
  /-- Classes and case folding are those of Unicode. -/
  unicode : Bool := true
  /-- White space and comments are skipped. -/
  verbose : Bool := false
  /-- Repetitions are lazy unless a question mark follows them. -/
  lazy : Bool := false
deriving DecidableEq, Inhabited

/-- Why a pattern is refused. -/
inductive Flaw where
  /-- A flag given beside the pattern that is none of `i`, `m`, `s` and `x`. -/
  | unsupportedFlag (flag : Char)
  | endOfPattern
  | unknownEscape | backreference | badCodePoint | unknownProperty
  | classUnclosed | classMember | classRange
  | groupUnclosed | groupUnopened | groupName | groupFlags | lookAround
  | nothingToRepeat | countUnclosed | countEmpty | countRange | countTooLarge
  /-- A character or a class that is not ASCII where the classes of Unicode are switched off. -/
  | notAscii
  | tooDeep | tooLarge
deriving DecidableEq, Inhabited, Repr

/-- What a single item of a pattern stands for. -/
inductive Primitive where
  | char (c : Char)
  | set (s : CharSet)
  | anchor (a : Anchor)
deriving Inhabited

/-- Whether a character is white space. -/
def isSpace (c : Char) : Bool := CharSet.space.contains c

/-- The text after white space and comments. A comment goes from `#` to the end of the line. -/
def skipSpace (inComment : Bool) : List Char → List Char
  | [] => []
  | c :: cs =>
    if inComment then skipSpace (c ≠ '\n') cs
    else if isSpace c then skipSpace false cs
    else if c = '#' then skipSpace true cs
    else c :: cs

namespace Modes

/-- The text where reading goes on: blanks are skipped in verbose mode only. -/
def skip (m : Modes) (cs : List Char) : List Char := if m.verbose then skipSpace false cs else cs

/-- The text up to a closing brace, without the white space and the comments that are skipped, and
the text after the brace. -/
def braced (m : Modes) (inComment : Bool) : List Char → Option (List Char × List Char)
  | [] => none
  | c :: cs =>
    if inComment then m.braced (c ≠ '\n') cs
    else if m.verbose && isSpace c then m.braced false cs
    else if m.verbose && c = '#' then m.braced true cs
    else if c = '\x7d' then some ([], cs)
    else (m.braced false cs).map fun (inside, rest) => (c :: inside, rest)

/-- The characters that make up words in a mode. -/
def alphabet (m : Modes) : Alphabet := if m.unicode then .unicode else .ascii

/-- The set closed under case folding if the mode ignores case. -/
def fold (m : Modes) (s : CharSet) : CharSet :=
  if m.ignoreCase then if m.unicode then s.foldCase else s.foldAsciiCase else s

/-- A set of characters as it is meant in a mode: closed under case folding, and complemented if
`negated`. Without the classes of Unicode it has to be a set of ASCII characters. -/
def refine (m : Modes) (negated : Bool) (s : CharSet) : Except Flaw CharSet :=
  let s := if negated then (m.fold s).compl else m.fold s
  if !m.unicode && !s.isAscii then .error .notAscii else .ok s

/-- A predefined class, or its complement. Its sets are closed under case folding. -/
def predefined (m : Modes) (unicode ascii : CharSet) (negated : Bool) : Except Flaw Primitive :=
  let s := if m.unicode then unicode else ascii
  let s := if negated then s.compl else s
  if !m.unicode && !s.isAscii then .error .notAscii else .ok (.set s)

end Modes

/-- The value of a hexadecimal digit. -/
def hexDigit? (c : Char) : Option Nat :=
  if '0' ≤ c ∧ c ≤ '9' then some (c.toNat - 0x30)
  else if 'a' ≤ c ∧ c ≤ 'f' then some (c.toNat - 0x61 + 10)
  else if 'A' ≤ c ∧ c ≤ 'F' then some (c.toNat - 0x41 + 10)
  else none

/-- The character with a code point. Surrogates and greater numbers have none. -/
def scalar? (n : Nat) : Except Flaw Char :=
  if h : n.isValidChar then .ok (Char.ofNatAux n h) else .error .badCodePoint

/-- Reads exactly `n` hexadecimal digits and adds them to the value `acc`. -/
def readHexDigits (m : Modes) : Nat → Nat → List Char → Except Flaw (Nat × List Char)
  | 0, acc, cs => .ok (acc, cs)
  | n + 1, acc, cs =>
    match m.skip cs with
    | [] => .error .endOfPattern
    | c :: rest =>
      match hexDigit? c with
      | some d => readHexDigits m n (acc * 16 + d) rest
      | none => .error .badCodePoint

/-- The number that hexadecimal digits stand for. -/
def hexNumber? (cs : List Char) : Option Nat :=
  if cs.isEmpty then none
  else cs.foldlM (fun n c => (hexDigit? c).map fun d => min (n * 16 + d) 0x7FFFFFFF) 0

/-- Reads a code point in hexadecimal digits: `digits` of them, or any number between braces. Two
digits stand for a byte, and without the classes of Unicode no byte above 0x7F is a character. -/
def readHex (m : Modes) (digits : Nat) (cs : List Char) : Except Flaw (Primitive × List Char) :=
  match m.skip cs with
  | '\x7b' :: rest =>
    match m.braced false rest with
    | none => .error .endOfPattern
    | some (inside, rest) =>
      match hexNumber? inside with
      | none => .error .badCodePoint
      | some n => return (.char (← scalar? n), rest)
  | rest => do
    let (n, rest) ← readHexDigits m digits 0 rest
    if !m.unicode && digits = 2 && n > 0x7F then .error .notAscii
    else return (.char (← scalar? n), rest)

/-- Whether a backslash before the character makes it stand for itself: ASCII characters other than
letters, digits and angle brackets. -/
def isEscapable (c : Char) : Bool :=
  c.toNat < 128 && !c.isAlphanum && c ≠ '<' && c ≠ '>'

/-- The special word boundary with a name. -/
def boundary? (m : Modes) : String → Option Anchor
  | "start" => some (.wordStart m.alphabet)
  | "end" => some (.wordEnd m.alphabet)
  | "start-half" => some (.wordStartHalf m.alphabet)
  | "end-half" => some (.wordEndHalf m.alphabet)
  | _ => none

/-- Reads what follows `\\b`: a word boundary, or a special one whose name stands between braces.
Braces whose text begins with neither a letter nor a hyphen are left for a repetition count. -/
def readBoundary (m : Modes) (cs : List Char) : Except Flaw (Primitive × List Char) :=
  let plain : Except Flaw (Primitive × List Char) := .ok (.anchor (.wordBoundary m.alphabet), cs)
  match cs with
  | '\x7b' :: rest =>
    match m.skip rest with
    | [] => .error .endOfPattern
    | c :: _ =>
      if c.isAlpha || c = '-' then
        match m.braced false rest with
        | none => .error .endOfPattern
        | some (name, after) =>
          match boundary? m (String.ofList name) with
          | some a => .ok (.anchor a, after)
          | none => .error .unknownEscape
      else plain
  | _ => plain

/-- Reads a property after `\\p` or `\\P`: one letter, or a name between braces. -/
def readProperty (m : Modes) (negated : Bool) (cs : List Char) :
    Except Flaw (Primitive × List Char) := do
  let (name, rest) ←
    match m.skip cs with
    | [] => .error .endOfPattern
    | '\\' :: _ => .error .unknownProperty
    | '\x7b' :: rest =>
      match m.braced false rest with
      | some (name, rest) => .ok (name, rest)
      | none => .error .endOfPattern
    | c :: rest => .ok ([c], rest)
  if !m.unicode then .error .notAscii
  else
    match Unicode.property? name with
    | some (other, s) => return (.set (← m.refine (negated != other) s), rest)
    | none => .error .unknownProperty

/-- Reads what follows a backslash. -/
def readEscape (m : Modes) : List Char → Except Flaw (Primitive × List Char)
  | [] => .error .endOfPattern
  | c :: rest =>
    if c.isDigit then .error .backreference
    else if isEscapable c then .ok (.char c, rest)
    else
      match c with
      | 'x' => readHex m 2 rest
      | 'u' => readHex m 4 rest
      | 'U' => readHex m 8 rest
      | 'p' => readProperty m false rest
      | 'P' => readProperty m true rest
      | 'd' => return (← m.predefined .digit .asciiDigit false, rest)
      | 'D' => return (← m.predefined .digit .asciiDigit true, rest)
      | 's' => return (← m.predefined .space .asciiSpace false, rest)
      | 'S' => return (← m.predefined .space .asciiSpace true, rest)
      | 'w' => return (← m.predefined .word .asciiWord false, rest)
      | 'W' => return (← m.predefined .word .asciiWord true, rest)
      | 'a' => .ok (.char '\x07', rest)
      | 'f' => .ok (.char '\x0c', rest)
      | 't' => .ok (.char '\t', rest)
      | 'n' => .ok (.char '\n', rest)
      | 'r' => .ok (.char '\r', rest)
      | 'v' => .ok (.char '\x0b', rest)
      | 'A' => .ok (.anchor .textStart, rest)
      | 'z' => .ok (.anchor .textEnd, rest)
      | 'B' => .ok (.anchor (.notWordBoundary m.alphabet), rest)
      | '<' => .ok (.anchor (.wordStart m.alphabet), rest)
      | '>' => .ok (.anchor (.wordEnd m.alphabet), rest)
      | 'b' => readBoundary m rest
      | _ => .error .unknownEscape

end Shex.Pattern
