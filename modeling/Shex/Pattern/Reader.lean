import Shex.Pattern.Bracket

/-!
# Reading patterns

The written form of regular expressions: characters, classes, anchors, groups, alternatives and
repetitions, with modes that can be switched on and off inside the pattern.

A pattern is read from left to right with a stack of the groups that are open. A finished piece
knows how deep it is nested, and a pattern that is nested too deep is refused. The names of groups
are kept, because a name may be used once.
-/

namespace Shex.Pattern

/-- A finished part of a pattern and its nesting depth. A piece that only changes modes cannot be
repeated. -/
structure Piece where
  expression : Expression
  depth : Nat := 0
  repeatable : Bool := true
deriving Inhabited

namespace Piece

/-- The greatest nesting depth of a pattern. -/
def maxDepth : Nat := 250

/-- Nothing. -/
def blank : Piece := ⟨.empty, 0, false⟩

/-- The piece for a single item. -/
def ofPrimitive (m : Modes) : Primitive → Piece
  | .char c => ⟨.ofSet m.alphabet (m.fold (.single c)), 0, true⟩
  | .set s => ⟨.ofSet m.alphabet s, 0, true⟩
  | .anchor a => ⟨.anchor a, 0, true⟩

/-- Pieces joined by an operation, the last one first in the list. Several pieces are nested one
level deeper than the deepest of them. -/
def combine (op : List Expression → Expression) : List Piece → Piece
  | [] => blank
  | [p] => p
  | ps => ⟨op (ps.reverse.map Piece.expression), ps.foldl (fun d p => max d p.depth) 0 + 1, true⟩

/-- One piece after the other, the last one first in the list. -/
def concat (ps : List Piece) : Piece := combine Expression.sequence ps

/-- One of the pieces, the last one first in the list. -/
def alternatives (ps : List Piece) : Piece := combine Expression.alternation ps

/-- A piece a number of times. -/
def repeated (p : Piece) (lo : Nat) (hi : Option Nat) (greedy : Bool) : Except Flaw Piece :=
  if p.repeatable then .ok ⟨.repetition lo hi greedy p.expression, p.depth + 1, true⟩
  else .error .nothingToRepeat

end Piece

/-- A group that is open: its number if its match is remembered, what was read before it, and the
modes to return to. -/
structure Level where
  index : Option Nat
  alternatives : List Piece
  items : List Piece
  outer : Modes
deriving Inhabited

/-- A pattern that is being read: the modes, the alternatives and the items of the innermost open
group in reverse order, the groups around it, how many groups are remembered, and the names of
groups. -/
structure Progress where
  modes : Modes
  alternatives : List Piece := []
  items : List Piece := []
  levels : List Level := []
  groups : Nat := 0
  names : List String := []
deriving Inhabited

namespace Progress

/-- Adds an item. -/
def push (p : Progress) (q : Piece) : Progress := { p with items := q :: p.items }

/-- Opens a group that is not remembered. -/
def openPlain (p : Progress) (modes : Modes) : Progress :=
  { p with
    modes, alternatives := [], items := []
    levels := ⟨none, p.alternatives, p.items, p.modes⟩ :: p.levels }

/-- Opens a group that is remembered. -/
def openGroup (p : Progress) : Progress :=
  { p with
    alternatives := [], items := [], groups := p.groups + 1
    levels := ⟨some (p.groups + 1), p.alternatives, p.items, p.modes⟩ :: p.levels }

/-- What was read in the innermost open group. -/
def inner (p : Progress) : Piece := Piece.alternatives (Piece.concat p.items :: p.alternatives)

/-- Closes the innermost open group. -/
def closeGroup (p : Progress) : Except Flaw Progress :=
  match p.levels with
  | [] => .error .groupUnopened
  | level :: levels =>
    let q := p.inner
    let e := match level.index with
      | some i => .group i q.expression
      | none => q.expression
    .ok { p with
      modes := level.outer
      alternatives := level.alternatives
      items := ⟨e, q.depth + 1, true⟩ :: level.items
      levels }

/-- Repeats the last item. -/
def repeatLast (p : Progress) (lo : Nat) (hi : Option Nat) (greedy : Bool) :
    Except Flaw Progress :=
  match p.items with
  | [] => .error .nothingToRepeat
  | q :: items => return { p with items := (← q.repeated lo hi (greedy != p.modes.lazy)) :: items }

/-- The whole pattern. -/
def finish (p : Progress) : Except Flaw Expression :=
  if !p.levels.isEmpty then .error .groupUnclosed
  else if p.inner.depth > Piece.maxDepth then .error .tooDeep
  else .ok p.inner.expression

end Progress

/-- Switches the mode of a flag letter. -/
def Modes.set (m : Modes) (flag : Char) (on : Bool) : Except Flaw Modes :=
  match flag with
  | 'i' => .ok { m with ignoreCase := on }
  | 'm' => .ok { m with multiLine := on }
  | 's' => .ok { m with dotAll := on }
  | 'R' => .ok { m with crlf := on }
  | 'u' => .ok { m with unicode := on }
  | 'x' => .ok { m with verbose := on }
  | 'U' => .ok { m with lazy := on }
  | _ => .error .groupFlags

/-- Reads flags up to a colon or a closing parenthesis, which is left. A hyphen, at most one, makes
the flags after it switch off; no flag may be repeated. The first result says whether there was
none. -/
def readFlags (m : Modes) (seen : List Char) (negated : Bool) :
    List Char → Except Flaw (Bool × Modes × List Char)
  | [] => .error .endOfPattern
  | c :: cs =>
    if c = ':' || c = ')' then
      if seen.head? = some '-' then .error .groupFlags else .ok (seen.isEmpty, m, c :: cs)
    else if seen.contains c then .error .groupFlags
    else if c = '-' then readFlags m ('-' :: seen) true cs
    else do readFlags (← m.set c !negated) (c :: seen) negated cs

/-- Whether a character may stand in the name of a group. -/
def isNameChar (first : Bool) (c : Char) : Bool :=
  c = '_' || CharSet.alphabetic.contains c ||
    (!first && (c = '.' || c = '[' || c = ']' || CharSet.number.contains c))

/-- Reads the name of a group and opens it. -/
def readGroupName (p : Progress) (cs : List Char) : Except Flaw (Progress × List Char) :=
  let name := cs.takeWhile (· ≠ '>')
  let text := String.ofList name
  match cs.drop name.length with
  | [] => .error .groupName
  | _ :: rest =>
    if name.isEmpty || !isNameChar true (name.headD '>') || !name.all (isNameChar false) ||
        p.names.contains text then .error .groupName
    else .ok ({ p.openGroup with names := text :: p.names }, rest)

/-- Reads what follows an opening parenthesis. -/
def readGroup (p : Progress) (cs : List Char) : Except Flaw (Progress × List Char) :=
  match p.modes.skip cs with
  | '?' :: '=' :: _ | '?' :: '!' :: _ | '?' :: '<' :: '=' :: _ | '?' :: '<' :: '!' :: _ =>
    .error .lookAround
  | '?' :: 'P' :: '<' :: rest => readGroupName p rest
  | '?' :: '<' :: rest => readGroupName p rest
  | '?' :: rest => do
    let (bare, m, rest) ← readFlags p.modes [] false rest
    match rest with
    | ':' :: rest => return (p.openPlain m, rest)
    | _ =>
      if bare then .error .nothingToRepeat
      else return ({ p with modes := m }.push .blank, rest.drop 1)
  | rest => .ok (p.openGroup, rest)

/-- The number that decimal digits stand for, with white space around them. -/
def count? (cs : List Char) : Except Flaw Nat :=
  let digits := ((cs.dropWhile isSpace).reverse.dropWhile isSpace).reverse
  if digits.isEmpty || !digits.all Char.isDigit then .error .countEmpty
  else
    let n := digits.foldl (fun n c => min (n * 10 + (c.toNat - 0x30)) UInt32.size) 0
    if n < UInt32.size then .ok n else .error .countTooLarge

/-- The bounds that stand between the braces of a repetition: one number, a number and a comma, or
two numbers with a comma between them. -/
def bounds? (cs : List Char) : Except Flaw (Nat × Option Nat) := do
  let first := cs.takeWhile (· ≠ ',')
  match cs.drop first.length with
  | [] =>
    let n ← count? first
    return (n, some n)
  | [_] => return (← count? first, none)
  | _ :: second =>
    let lo ← count? first
    let hi ← count? second
    if lo ≤ hi then return (lo, some hi) else .error .countRange

/-- Whether a repetition is greedy, and the text after the question mark that makes it lazy. -/
def readGreed : List Char → Bool × List Char
  | '?' :: rest => (false, rest)
  | rest => (true, rest)

/-- Reads what repeats the last item, once its bounds are known. -/
def readRepetition (p : Progress) (lo : Nat) (hi : Option Nat) (cs : List Char) :
    Except Flaw (Progress × List Char) := do
  let (greedy, rest) := readGreed cs
  return (← p.repeatLast lo hi greedy, rest)

/-- What the dot matches. -/
def Modes.dot (m : Modes) : Except Flaw CharSet :=
  if !m.unicode then .error .notAscii
  else if m.dotAll then .ok .all
  else if m.crlf then .ok (CharSet.ofString "\n\r").compl
  else .ok (CharSet.single '\n').compl

/-- What `^` asks for. -/
def Modes.caret (m : Modes) : Anchor :=
  if !m.multiLine then .textStart else if m.crlf then .crlfLineStart else .lineStart

/-- What `$` asks for. -/
def Modes.dollar (m : Modes) : Anchor :=
  if !m.multiLine then .textEnd else if m.crlf then .crlfLineEnd else .lineEnd

/-- Reads one item. -/
def readItem (p : Progress) : List Char → Except Flaw (Progress × List Char)
  | [] => .error .endOfPattern
  | c :: cs =>
    let m := p.modes
    match c with
    | '(' => readGroup p cs
    | ')' => return (← p.closeGroup, cs)
    | '|' =>
      .ok ({ p with alternatives := Piece.concat p.items :: p.alternatives, items := [] }, cs)
    | '[' => do
      let (inner, rest) ← readBracket m (2 * cs.length + 2) cs
      return (p.push ⟨.ofSet m.alphabet inner.set, inner.depth, true⟩, rest)
    | '?' => readRepetition p 0 (some 1) cs
    | '*' => readRepetition p 0 none cs
    | '+' => readRepetition p 1 none cs
    | '\x7b' =>
      match m.braced false cs with
      | none => .error .countUnclosed
      | some (inside, rest) => do
        let (lo, hi) ← bounds? inside
        readRepetition p lo hi (m.skip rest)
    | '.' => return (p.push (.ofPrimitive m (.set (← m.dot))), cs)
    | '^' => .ok (p.push (.ofPrimitive m (.anchor m.caret)), cs)
    | '$' => .ok (p.push (.ofPrimitive m (.anchor m.dollar)), cs)
    | '\\' => do
      let (q, rest) ← readEscape m cs
      return (p.push (.ofPrimitive m q), rest)
    | c => .ok (p.push (.ofPrimitive m (.char c)), cs)

/-- Reads items up to the end. Each takes at least one character, so that the length of the text is
enough `fuel`. -/
def readItems : Nat → Progress → List Char → Except Flaw Expression
  | 0, p, _ => p.finish
  | fuel + 1, p, cs =>
    match p.modes.skip cs with
    | [] => p.finish
    | cs => do
      let (p, rest) ← readItem p cs
      readItems fuel p rest

/-- The modes that flags beside a pattern switch on: `i`, `m`, `s` and `x`. -/
def Modes.ofFlags (m : Modes) : List Char → Except Flaw Modes
  | [] => .ok m
  | 'i' :: fs => ofFlags { m with ignoreCase := true } fs
  | 'm' :: fs => ofFlags { m with multiLine := true } fs
  | 's' :: fs => ofFlags { m with dotAll := true } fs
  | 'x' :: fs => ofFlags { m with verbose := true } fs
  | f :: _ => .error (.unsupportedFlag f)

/-- The expression of a pattern with flags beside it. The flags are read first. -/
def readPattern (pattern : String) (flags : Option String) : Except Flaw Expression := do
  let m ← Modes.ofFlags {} (flags.getD "").toList
  readItems (pattern.toList.length + 1) { modes := m } pattern.toList

end Shex.Pattern
