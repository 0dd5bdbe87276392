import Shex.Pattern.Expression

/-!
# Regular expressions and matching

Matching follows all ways through a regular expression at once. A mark on a character says that it
has just been read on some way, and reading a character moves every mark (`Marks.shift`). A text
matches if at some place of it a mark can reach the end of the expression, or if the expression can
be passed there without reading anything.

Counted repetitions are written out only where marks are, and in halves, so that a repetition of
many copies of which few are in use stays small (`Regex.enterTimes`, `Regex.enterUpTo`).
-/

namespace Shex.Pattern

/-- A regular expression. -/
inductive Regex where
  /-- The empty text. -/
  | empty
  /-- One character of the set. -/
  | char (set : CharSet)
  /-- The empty text at a place with a property. -/
  | anchor (a : Anchor)
  | seq (l r : Regex)
  | alt (l r : Regex)
  /-- One or more times. -/
  | many (e : Regex)
  /-- A number of times. -/
  | times (n : Nat) (e : Regex)
  /-- At most a number of times. -/
  | upTo (n : Nat) (e : Regex)
deriving DecidableEq, Inhabited

/-- A regular expression with marks on the characters that have just been read. -/
inductive Marks where
  /-- A part without marks. -/
  | idle (e : Regex)
  /-- A character of the set that has just been read. -/
  | read (set : CharSet)
  | seq (l r : Marks)
  | alt (l r : Marks)
  | many (e : Marks)
deriving Inhabited

namespace Marks

/-- One part after the other. -/
def andThen : Marks → Marks → Marks
  | idle l, idle r => idle (.seq l r)
  | l, r => seq l r

/-- One of two parts. -/
def orElse : Marks → Marks → Marks
  | idle l, idle r => idle (.alt l r)
  | l, r => alt l r

/-- A part one or more times. -/
def repeated : Marks → Marks
  | idle e => idle (.many e)
  | e => many e

end Marks

namespace Regex

/-- Whether the expression can be passed at a place without reading. -/
def nullable (p : Place) : Regex → Bool
  | empty => true
  | char _ => false
  | anchor a => a.holds p
  | seq l r => l.nullable p && r.nullable p
  | alt l r => l.nullable p || r.nullable p
  | many e => e.nullable p
  | times n e => n = 0 || e.nullable p
  | upTo _ _ => true

/-- The marks on `n` copies of an expression of which the first is entered, with the marks `m`. If
the expression can be passed, the others are entered too. -/
def enterTimes (e : Regex) (m : Marks) (passed : Bool) (n : Nat) : Marks :=
  if n = 0 then .idle empty
  else if n = 1 then m
  else
    let rest := n - n / 2
    (enterTimes e m passed (n / 2)).andThen
      (if passed then enterTimes e m passed rest else .idle (times rest e))
termination_by n

/-- The marks on at most `n` copies of an expression of which the first is entered, with the marks
`m`. Either half of the copies are followed by at most the other half, or there are fewer than half
of them. -/
def enterUpTo (e : Regex) (m : Marks) (passed : Bool) (n : Nat) : Marks :=
  if n = 0 then .idle empty
  else if n = 1 then m.orElse (.idle empty)
  else
    let half := n - n / 2
    let rest := if passed then enterUpTo e m passed (n / 2) else .idle (upTo (n / 2) e)
    ((enterTimes e m passed half).andThen rest).orElse (enterUpTo e m passed (half - 1))
termination_by n

/-- The marks after reading `c` at place `p` from the start of the expression. -/
def enter (p : Place) (c : Char) : Regex → Marks
  | empty => .idle empty
  | char s => if s.contains c then .read s else .idle (char s)
  | anchor a => .idle (anchor a)
  | seq l r => (l.enter p c).andThen (if l.nullable p then r.enter p c else .idle r)
  | alt l r => (l.enter p c).orElse (r.enter p c)
  | many e => (e.enter p c).repeated
  | times n e => enterTimes e (e.enter p c) (e.nullable p) n
  | upTo n e => enterUpTo e (e.enter p c) (e.nullable p) n

end Regex

namespace Marks

/-- Whether the expression can be passed at a place without reading. -/
def nullable (p : Place) : Marks → Bool
  | idle e => e.nullable p
  | read _ => false
  | seq l r => l.nullable p && r.nullable p
  | alt l r => l.nullable p || r.nullable p
  | many e => e.nullable p

/-- Whether a mark can reach the end of the expression at a place without further reading. -/
def final (p : Place) : Marks → Bool
  | idle _ => false
  | read _ => true
  | seq l r => r.final p || (l.final p && r.nullable p)
  | alt l r => l.final p || r.final p
  | many e => e.final p

/-- The marks after reading `c` at place `p`, if `enter` says whether reading may begin at the
start of the expression there. -/
def shift (p : Place) (c : Char) (enter : Bool) : Marks → Marks
  | idle e => if enter then e.enter p c else idle e
  | read s => if enter && s.contains c then read s else idle (.char s)
  | seq l r =>
    (l.shift p c enter).andThen (r.shift p c ((enter && l.nullable p) || l.final p))
  | alt l r => (l.shift p c enter).orElse (r.shift p c enter)
  | many e => (e.shift p c (enter || e.final p)).repeated

/-- Whether a match of `e` ends at the place before `rest` or later, if `m` has the marks of the
ways that were begun earlier. A way may begin at every place. -/
def search (e : Regex) (m : Marks) (before : Option Char) : List Char → Bool
  | [] => e.nullable ⟨before, none⟩ || m.final ⟨before, none⟩
  | c :: rest =>
    let p : Place := ⟨before, some c⟩
    e.nullable p || m.final p || search e (m.shift p c true) (some c) rest

end Marks

namespace Regex

/-- Whether some part of the text matches. -/
def isMatch (e : Regex) (text : String) : Bool := Marks.search e (.idle e) none text.toList

/-- Any number of times. -/
def star (e : Regex) : Regex := alt (many e) empty

/-- At least `lo` times and, if there is an upper bound, at most `hi` times. What may already be
repeated freely from none on is not repeated again. -/
def repeated (lo : Nat) (hi : Option Nat) : Regex → Regex
  | upTo k f =>
    match hi with
    | some n => upTo (k * n) f
    | none => if k = 0 then empty else star f
  | alt (many f) empty => if hi = some 0 then empty else star f
  | e =>
    match hi with
    | some n =>
      if lo = n then times n e
      else if lo = 0 then upTo n e
      else seq (times lo e) (upTo (n - lo) e)
    | none =>
      match lo with
      | 0 => star e
      | 1 => many e
      | n + 2 => seq (times (n + 1) e) (many e)

end Regex

namespace Expression

mutual

/-- The regular expression that matches the same texts. -/
def toRegex : Expression → Regex
  | empty => .empty
  | text cs => cs.foldr (fun c r => .seq (.char (.single c)) r) .empty
  | set _ s => .char s
  | anchor a => .anchor a
  | times lo hi _ e => e.toRegex.repeated lo hi
  | group _ e => e.toRegex
  | seq es => seqRegex es
  | alt es => altRegex es

/-- The expressions one after the other. -/
def seqRegex : List Expression → Regex
  | [] => .empty
  | [e] => e.toRegex
  | e :: es => .seq e.toRegex (seqRegex es)

/-- One of the expressions. -/
def altRegex : List Expression → Regex
  | [] => .char .empty
  | [e] => e.toRegex
  | e :: es => .alt e.toRegex (altRegex es)

end

end Expression

end Shex.Pattern
