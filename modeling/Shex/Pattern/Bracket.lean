import Shex.Pattern.Escape

/-!
# Character classes between brackets

A class lists characters, ranges, predefined classes and further classes between brackets, and can
be combined by intersection, difference and symmetric difference, which group from the left. A
leading `^` complements the whole class. A hyphen at either end and a closing bracket at the start
stand for themselves.

Reading also counts how deep a class is nested: each class adds one level, and so does each
operation and each list of more than one member.
-/

namespace Shex.Pattern

/-- The operations between parts of a class. -/
inductive SetOperation where
  | inter | diff | symmDiff
deriving DecidableEq, Inhabited

/-- The set that an operation makes of two. -/
def SetOperation.apply : SetOperation → CharSet → CharSet → CharSet
  | inter, a, b => a.inter b
  | diff, a, b => a.diff b
  | symmDiff, a, b => a.symmDiff b

/-- A set of characters and the nesting depth of what it was read from. -/
structure Nested where
  set : CharSet
  depth : Nat
deriving Inhabited

/-- What has been read of a class: the members since the last operation, how many they are and how
deep the deepest is nested, and the operation that waits for them with its left side. -/
structure Members where
  set : CharSet := .empty
  count : Nat := 0
  depth : Nat := 0
  pending : Option (SetOperation × Nested) := none
deriving Inhabited

namespace Members

/-- Adds a member. -/
def add (ms : Members) (s : CharSet) (depth : Nat) : Members :=
  { ms with set := ms.set.union s, count := ms.count + 1, depth := max ms.depth depth }

/-- What was read so far, the waiting operation applied. -/
def total (m : Modes) (ms : Members) : Nested :=
  let depth := if ms.count ≤ 1 then ms.depth else ms.depth + 1
  match ms.pending with
  | none => ⟨ms.set, depth⟩
  | some (op, left) => ⟨op.apply (m.fold left.set) (m.fold ms.set), max left.depth depth + 1⟩

/-- Takes what was read as the left side of an operation. -/
def operate (m : Modes) (ms : Members) (op : SetOperation) : Members :=
  { pending := some (op, ms.total m) }

end Members

/-- Reads a named ASCII class after its opening bracket, if there is one. -/
def readAsciiClass (m : Modes) : List Char → Except Flaw (Option (CharSet × List Char))
  | ':' :: cs =>
    let negated := cs.head? = some '^'
    let cs := if negated then cs.drop 1 else cs
    let name := cs.takeWhile (· ≠ ':')
    match cs.drop name.length with
    | ':' :: ']' :: rest =>
      match CharSet.ofAsciiClass? (String.ofList name) with
      | some s => return some (← m.refine negated s, rest)
      | none => .ok none
    | _ => .ok none
  | _ => .ok none

/-- Reads one character or one predefined class. -/
def readMember (m : Modes) : List Char → Except Flaw (Primitive × List Char)
  | [] => .error .classUnclosed
  | '\\' :: cs => readEscape m cs
  | c :: cs => .ok (.char c, cs)

/-- A character as a member of a class. Without the classes of Unicode it has to be ASCII. -/
def memberChar (m : Modes) (c : Char) : Except Flaw Char :=
  if !m.unicode && c.toNat > 0x7F then .error .notAscii else .ok c

/-- The characters of a member. Anchors cannot be members. -/
def Primitive.members (m : Modes) : Primitive → Except Flaw CharSet
  | char c => return .single (← memberChar m c)
  | set s => .ok s
  | anchor _ => .error .classMember

/-- The range between two members that are single characters. -/
def rangeOf (m : Modes) : Primitive → Primitive → Except Flaw CharSet
  | .char a, .char b => do
    let a ← memberChar m a
    let b ← memberChar m b
    if a ≤ b then return .range a b else .error .classRange
  | _, _ => .error .classMember

/-- The first character after white space and after a number sign, if there is one. -/
def peekSpace (inComment : Bool) : List Char → Option Char
  | [] => none
  | c :: cs =>
    if isSpace c then peekSpace inComment cs
    else if c = '#' && !inComment then peekSpace true cs
    else some c

/-- The character that decides whether the hyphen before `cs` makes a range. In verbose mode, the
start of a comment is looked through, but not its text. -/
def Modes.peek (m : Modes) (cs : List Char) : Option Char :=
  if m.verbose then peekSpace false cs else cs.head?

/-- Reads one member or a range. A hyphen before a closing bracket or another hyphen makes no
range. -/
def readRange (m : Modes) (cs : List Char) : Except Flaw (CharSet × List Char) := do
  let (first, rest) ← readMember m cs
  match m.skip rest with
  | [] => .error .classUnclosed
  | '-' :: after =>
    if m.peek after = some ']' || m.peek after = some '-' then
      return (← first.members m, '-' :: after)
    else
      let (second, rest) ← readMember m (m.skip after)
      return (← rangeOf m first second, rest)
  | rest => return (← first.members m, rest)

/-- Adds the hyphens at the start of a class as members. -/
def readHyphens (m : Modes) (ms : Members) : Nat → List Char → Members × List Char
  | n + 1, '-' :: cs => readHyphens m (ms.add (.single '-') 0) n (m.skip cs)
  | _, cs => (ms, cs)

mutual

/-- Reads a class after its opening bracket. `fuel` bounds the number of steps; twice the length of
the text is enough. -/
def readBracket (m : Modes) : Nat → List Char → Except Flaw (Nested × List Char)
  | 0, _ => .error .classUnclosed
  | fuel + 1, cs => do
    let cs := m.skip cs
    let negated := cs.head? = some '^'
    let cs := if negated then m.skip (cs.drop 1) else cs
    let (ms, cs) := readHyphens m {} cs.length cs
    let (ms, cs) :=
      if ms.count = 0 && cs.head? = some ']' then (ms.add (.single ']') 0, m.skip (cs.drop 1))
      else (ms, cs)
    let (ms, rest) ← readMembers m fuel ms cs
    let total := ms.total m
    return (⟨← m.refine negated total.set, total.depth + 1⟩, rest)

/-- Reads the members of a class up to its closing bracket. -/
def readMembers (m : Modes) : Nat → Members → List Char → Except Flaw (Members × List Char)
  | 0, _, _ => .error .classUnclosed
  | fuel + 1, ms, cs =>
    match m.skip cs with
    | [] => .error .classUnclosed
    | ']' :: rest => .ok (ms, rest)
    | '[' :: rest => do
      match ← readAsciiClass m rest with
      | some (s, rest) => readMembers m fuel (ms.add s 0) rest
      | none =>
        let (inner, rest) ← readBracket m fuel rest
        readMembers m fuel (ms.add inner.set inner.depth) rest
    | '&' :: '&' :: rest => readMembers m fuel (ms.operate m .inter) rest
    | '-' :: '-' :: rest => readMembers m fuel (ms.operate m .diff) rest
    | '~' :: '~' :: rest => readMembers m fuel (ms.operate m .symmDiff) rest
    | cs => do
      let (s, rest) ← readRange m cs
      readMembers m fuel (ms.add s 0) rest

end

end Shex.Pattern
