import Std.Data.HashMap
import Shex.Pattern.Encoding
import Shex.Pattern.Expression

/-!
# How large the automaton of a pattern is

A pattern is refused if its automaton takes too much room. The automaton reads bytes, and so does a
second one, which reads a text backward; neither may exceed the limit. A state takes 32 bytes, each
transition of a state with several of them 8 bytes more, and each way out of a state that chooses
4 bytes more. Repetitions are written out: every copy has states of its own.

`Expression.fits` is the main definition. Building stops as soon as the limit is exceeded, so that
it ends early for patterns that are far too large.
-/

namespace Shex.Pattern

/-- The room that has been used: the states, and the bytes that they take beyond their own size. -/
structure Room where
  states : Nat := 0
  extra : Nat := 0
deriving DecidableEq, Inhabited, Repr

namespace Room

/-- The bytes of the states and of what they hold. -/
def bytes (r : Room) : Nat := 32 * r.states + r.extra

/-- The greatest room of an automaton, in bytes. -/
def limit : Nat := 10 * 1024 * 1024

end Room

/-- A step of building an automaton, which fails if the limit is exceeded. -/
abbrev Build (α : Type) := StateT Room Option α

namespace Build

/-- Takes room. -/
def take (states extra : Nat) : Build Unit := fun r =>
  let r : Room := ⟨r.states + states, r.extra + extra⟩
  if r.bytes ≤ Room.limit then some ((), r) else none

/-- Adds a state with `extra` bytes of transitions. Its number is the number of states before it. -/
def state (extra : Nat) : Build Nat := fun r =>
  let next : Room := ⟨r.states + 1, r.extra + extra⟩
  if next.bytes ≤ Room.limit then some (r.states, next) else none

/-- Goes on from the end of a part, which takes room if that is a state that chooses. -/
def leave (chooses : Bool) : Build Unit := if chooses then take 0 4 else pure ()

end Build

/-- A transition: a range of bytes and the state that it leads to. -/
structure Transition where
  lo : Nat
  hi : Nat
  target : Nat
deriving DecidableEq, Inhabited

/-- One step of a hash over numbers. -/
def hashStep (h : UInt64) (n : Nat) : UInt64 := (h ^^^ n.toUInt64) * 1099511628211

/-- Where a hash begins. -/
def hashStart : UInt64 := 14695981039346656037

/-- The hash of the transitions of a state. -/
def hashTransitions (ts : Array Transition) : UInt64 :=
  ts.foldl (fun h t => hashStep (hashStep (hashStep h t.lo) t.hi) t.target) hashStart

/-- States that can be used again, in a table with a fixed number of slots. A newer entry takes the
place of an older one in its slot. -/
abbrev Slots (κ : Type) := Std.HashMap UInt64 (κ × Nat)

/-- The state that a table holds for a key, or a new one, which is entered. -/
def Slots.reuse {κ : Type} [DecidableEq κ] (slots : Slots κ) (slot : UInt64) (key : κ)
    (extra : Nat) : Build (Nat × Slots κ) := do
  match slots[slot]? with
  | some (k, n) =>
    if k = key then return (n, slots)
    else
      let n ← Build.state extra
      return (n, slots.insert slot (key, n))
  | none =>
    let n ← Build.state extra
    return (n, slots.insert slot (key, n))

/-! ## Sets, reading forward -/

/-- A state that is not finished: its transitions so far, and the range of the last one, whose
target is still being built. -/
structure OpenState where
  done : Array Transition := #[]
  last : Option (Nat × Nat) := none
deriving Inhabited

/-- The transitions with the last one led to its target. -/
def OpenState.finish (s : OpenState) (target : Nat) : Array Transition :=
  match s.last with
  | some (lo, hi) => s.done.push ⟨lo, hi, target⟩
  | none => s.done

/-- The table for states that read forward has 10000 slots. -/
def forwardSlot (ts : Array Transition) : UInt64 := hashTransitions ts % 10000

/-- Finishes states, the innermost first, and gives the number of the outermost one. The innermost
leads to `target`. -/
def finishAll (target : Nat) (slots : Slots (Array Transition)) :
    List OpenState → Build (Nat × Slots (Array Transition))
  | [] => pure (target, slots)
  | s :: inner => do
    let (n, slots) ← finishAll target slots inner
    let ts := s.finish n
    slots.reuse (forwardSlot ts) ts (8 * ts.size)

/-- Adds a piece to the open states, the outermost first. States after the first that differs are
finished. -/
def addPiece (target : Nat) (slots : Slots (Array Transition)) :
    List OpenState → List (Nat × Nat) → Build (List OpenState × Slots (Array Transition))
  | s :: inner, r :: rs => do
    if s.last = some r then
      let (inner, slots) ← addPiece target slots inner rs
      return (s :: inner, slots)
    else
      let (n, slots) ← finishAll target slots inner
      return (⟨s.finish n, some r⟩ :: rs.map fun r => ⟨#[], some r⟩, slots)
  | _, rs => return (rs.map fun r => ⟨#[], some r⟩, slots)

/-- Adds pieces one after the other. -/
def addPieces (target : Nat) (slots : Slots (Array Transition)) (states : List OpenState) :
    List (List (Nat × Nat)) → Build (List OpenState × Slots (Array Transition))
  | [] => pure (states, slots)
  | p :: ps => do
    let (states, slots) ← addPiece target slots states p
    addPieces target slots states ps

/-- The states that read one character of a set forward. -/
def buildForward (s : CharSet) : Build Unit := do
  let target ← Build.state 0
  let (states, slots) ← addPieces target ∅ [{}] s.byteRanges
  let _ ← finishAll target slots states

/-! ## Sets, reading backward -/

/-- The table for states that read backward has 1000 slots. -/
def backwardSlot (t : Transition) : UInt64 :=
  hashStep (hashStep (hashStep hashStart t.target) t.lo) t.hi % 1000

/-- The states for the bytes of a piece, each leading to the one of the byte before it, and the
first to `target`. -/
def chain (slots : Slots Transition) (target : Nat) :
    List (Nat × Nat) → Build (Slots Transition)
  | [] => pure slots
  | (lo, hi) :: rs => do
    let t : Transition := ⟨lo, hi, target⟩
    let (n, slots) ← slots.reuse (backwardSlot t) t 0
    chain slots n rs

/-- The states of the pieces, among which the first state chooses. -/
def chains (slots : Slots Transition) (target : Nat) :
    List (List (Nat × Nat)) → Build Unit
  | [] => pure ()
  | p :: ps => do
    let slots ← chain slots target p
    Build.take 0 4
    chains slots target ps

/-- The states that read one character of a set backward. -/
def buildBackward (s : CharSet) : Build Unit := do
  Build.take 1 0
  let target ← Build.state 0
  chains ∅ target s.byteRanges

/-- The states that read one character of a set. -/
def buildSet (backward : Bool) (s : CharSet) : Build Unit :=
  if s.isAscii then Build.take 2 (8 * s.ranges.length)
  else if backward then buildBackward s
  else buildForward s

/-! ## Alternative texts -/

/-- The parts of a list of words between those that are empty. -/
def betweenEmpty : List (List Nat) → List (List (List Nat))
  | [] => [[]]
  | [] :: ws => [] :: betweenEmpty ws
  | w :: ws =>
    match betweenEmpty ws with
    | part :: parts => (w :: part) :: parts
    | [] => [[w]]

/-- The room of the states that read one of the words and share their beginnings. A word that ends
where others go on parts those before it from those after it. The length of the longest word is
enough `fuel`. -/
def wordsRoom : Nat → List (List Nat) → Room
  | 0, _ => {}
  | fuel + 1, words =>
    let rest := words.dropWhile List.isEmpty
    let parts := (if rest.length < words.length then [[]] else []) ++ betweenEmpty rest
    let room := parts.map fun part =>
      let heads := (part.filterMap List.head?).eraseDups
      let inner := heads.map fun b =>
        let tails := (part.filter (·.head? = some b)).map List.tail
        if tails.all List.isEmpty then {} else wordsRoom fuel tails
      let states := inner.foldl (fun n r => n + r.states) 0
      let extra := inner.foldl (fun n r => n + r.extra) 0
      match heads.length with
      | 0 => (⟨states, extra⟩ : Room)
      | 1 => ⟨states + 1, extra + 4⟩
      | n => ⟨states + 1, extra + 8 * n + 4⟩
    ⟨room.foldl (fun n r => n + r.states) 1,
      room.foldl (fun n r => n + r.extra) (4 * (parts.length - 1))⟩

namespace Expression

/-- The bytes of a text. -/
def textBytes (cs : List Char) : List Nat := cs.flatMap fun c => utf8Bytes c.toNat

/-- The texts of alternatives that all are texts. -/
def texts? : List Expression → Option (List (List Nat))
  | [] => some []
  | text cs :: es => (texts? es).map (textBytes cs :: ·)
  | _ => none

/-- The states that read one of several texts. -/
def buildTexts (backward : Bool) (ws : List (List Nat)) : Build Unit :=
  let ws := if backward then ws.map List.reverse else ws
  let room := wordsRoom (ws.foldl (fun n w => max n w.length) 0) ws
  Build.take (room.states + 1) room.extra

/-! ## Repetitions -/

/-- `n` further copies after a part. A part tells whether it ends in a state that chooses. -/
def buildMore (part : Build Bool) : Nat → Bool → Build Bool
  | 0, chooses => pure chooses
  | n + 1, chooses => do
    let next ← part
    Build.leave chooses
    buildMore part n next

/-- `n` copies of a part. -/
def buildExactly (part : Build Bool) : Nat → Build Bool
  | 0 => do
    Build.take 1 0
    return false
  | n + 1 => do buildMore part n (← part)

/-- `n` copies of a part, each of which can be left out together with those after it. -/
def buildOptional (part : Build Bool) : Nat → Bool → Build Bool
  | 0, chooses => pure chooses
  | n + 1, chooses => do
    Build.take 1 8
    let next ← part
    Build.leave chooses
    buildOptional part n next

/-- Zero or more copies of a part. One that can match the empty text takes a second choice. -/
def buildStar (part : Build Bool) (reads : Bool) : Build Bool := do
  if reads then
    Build.take 1 4
    Build.leave (← part)
    return true
  else
    Build.leave (← part)
    Build.take 3 16
    return false

/-- One or more copies of a part, with `n` copies before the one that is repeated. -/
def buildPlus (part : Build Bool) (n : Nat) : Build Bool := do
  Build.leave (← buildExactly part (n + 1))
  Build.take 1 4
  return true

/-- The repetition of a part, which is `optional` if it may be left out once. -/
def buildTimes (part : Build Bool) (reads : Bool) (lo : Nat) : Option Nat → Build Bool
  | none =>
    match lo with
    | 0 => buildStar part reads
    | n + 1 => buildPlus part n
  | some hi =>
    if lo = hi then buildExactly part lo
    else if lo = 0 && hi = 1 then do
      Build.take 1 8
      Build.leave (← part)
      Build.take 1 0
      return false
    else do
      let chooses ← buildExactly part lo
      Build.take 1 0
      Build.leave (← buildOptional part (hi - lo) chooses)
      return false

mutual

/-- The states of an expression. The result tells whether it ends in a state that chooses. -/
def build (backward : Bool) : Expression → Build Bool
  | empty | anchor _ => do
    Build.take 1 0
    return false
  | text cs => do
    Build.take (textBytes cs).length 0
    return false
  | set _ s => do
    buildSet backward s
    return false
  | times lo hi _ e => buildTimes (build backward e) (e.minBytes.any (0 < ·)) lo hi
  | group _ e =>
    if backward then build backward e
    else do
      Build.take 1 0
      let chooses ← build backward e
      Build.take 1 0
      Build.leave chooses
      return false
  | seq es => return (← buildSeq backward es).getD false
  | alt es =>
    match texts? es with
    | some ws => do
      buildTexts backward ws
      return false
    | none => do
      buildAlt backward 0 es
      return false

/-- The states of a sequence. The parts are built in the order in which they read. -/
def buildSeq (backward : Bool) : List Expression → Build (Option Bool)
  | [] => pure none
  | e :: es =>
    if backward then do
      let later ← buildSeq backward es
      let first ← build backward e
      if let some chooses := later then Build.leave chooses
      return some first
    else do
      let first ← build backward e
      match ← buildSeq backward es with
      | some later =>
        Build.leave first
        return some later
      | none => return some first

/-- The states of alternatives. The states at both ends come after the second one. -/
def buildAlt (backward : Bool) (index : Nat) : List Expression → Build Unit
  | [] => pure ()
  | e :: es => do
    let chooses ← build backward e
    if index = 1 then Build.take 2 0
    Build.take 0 4
    Build.leave chooses
    buildAlt backward (index + 1) es

end

/-- The states of a whole pattern. It may match from any place on, unless an anchor keeps it to the
start of the text, or to the end for an automaton that reads backward. -/
def buildAll (backward : Bool) (e : Expression) : Build Unit := do
  if if backward then e.endsAt .textEnd else e.startsAt .textStart then Build.take 1 0
  else Build.take 3 16
  let chooses ← build backward (if backward then e else group 0 e)
  Build.take 1 0
  Build.leave chooses

/-- Whether both automata of an expression keep to the limit. -/
def fits (e : Expression) : Bool :=
  ((buildAll false e).run {}).isSome && ((buildAll true e).run {}).isSome

end Expression

end Shex.Pattern
