/-!
# Cardinalities

How often something may be repeated: a least count and a greatest one, which may be missing. Counts
are 32-bit words. The one cardinality that contains no count, `Cardinality.empty`, is written with
crossed bounds; every other has its bounds in order, and the type holds no third kind, so two
cardinalities are equal when they contain the same counts and have the same bounds.

Three operations make an algebra of them: the counts common to two (`inter`), the counts that are
a sum of one of each (`add`), and the numbers of groups into which a count can be divided (`quot`).
-/

namespace Shex

/-- A range of counts. `canonical` says that the bounds are in order unless they are those of
`Cardinality.empty`. -/
structure Cardinality where
  min : UInt32
  max : Option UInt32
  canonical : (∀ m, max = some m → min ≤ m) ∨ (min = 1 ∧ max = some 0)
deriving DecidableEq

namespace Cardinality

/-- No count at all. -/
def empty : Cardinality := ⟨1, some 0, .inr ⟨rfl, rfl⟩⟩

instance : Inhabited Cardinality := ⟨empty⟩

/-- The counts from `min` up to `max`, and none if `max` is less than `min`. -/
def ofBounds (min : UInt32) : Option UInt32 → Cardinality
  | none => ⟨min, none, .inl (by simp)⟩
  | some m => if h : min ≤ m then ⟨min, some m, .inl (by simpa using h)⟩ else empty

/-- The count `n` alone. -/
def exactly (n : UInt32) : Cardinality := ofBounds n (some n)

/-- Every count from `n` on. -/
def atLeast (n : UInt32) : Cardinality := ofBounds n none

/-- Never. -/
def zero : Cardinality := exactly 0

/-- Once. -/
def one : Cardinality := exactly 1

/-- Once or not at all. -/
def optional : Cardinality := ofBounds 0 (some 1)

/-- Any number of times. -/
def star : Cardinality := atLeast 0

/-- At least once. -/
def plus : Cardinality := atLeast 1

/-- Whether no count is contained. -/
def isEmpty (c : Cardinality) : Bool := c = empty

/-- Whether there is no greatest count. -/
def isUnbounded (c : Cardinality) : Bool := c.max.isNone

/-- Whether a count lies between the bounds. -/
def contains (c : Cardinality) (n : UInt32) : Bool :=
  c.min ≤ n &&
    match c.max with
    | some m => n ≤ m
    | none => true

/-- Whether a repetition of a group with this cardinality can be matched as it stands. -/
def isStandard (c : Cardinality) : Bool := c = optional || c = star || c = plus || c = zero

/-- The sum of two counts, or the greatest word if the sum is not a word. -/
def saturatingSum (a b : UInt32) : UInt32 :=
  if a.toNat + b.toNat < UInt32.size then a + b else UInt32.ofNat (UInt32.size - 1)

/-- The sum of two counts, if it is a word. -/
def sum? (a b : UInt32) : Option UInt32 :=
  if a.toNat + b.toNat < UInt32.size then some (a + b) else none

/-- The counts contained in both. -/
def inter (a b : Cardinality) : Cardinality :=
  if a.isEmpty || b.isEmpty then empty
  else
    let max :=
      match a.max, b.max with
      | some x, some y => some (Min.min x y)
      | some x, none => some x
      | none, some y => some y
      | none, none => none
    ofBounds (Max.max a.min b.min) max

/-- The sums of a count of `a` and a count of `b`. A least count that is no word becomes the
greatest word, and a greatest count that is no word becomes no bound. -/
def add (a b : Cardinality) : Cardinality :=
  if a.isEmpty || b.isEmpty then empty
  else
    let max :=
      match a.max, b.max with
      | some x, some y => sum? x y
      | _, _ => none
    ofBounds (saturatingSum a.min b.min) max

instance : Add Cardinality := ⟨add⟩

/-- The numbers of groups of `c` elements each into which `n` elements can be divided. -/
def quot (n : UInt32) (c : Cardinality) : Cardinality :=
  if c.isEmpty then empty
  else if n = 0 then if c.min = 0 then star else zero
  else
    let upper := if c.min = 0 then none else some (n / c.min)
    match c.max with
    | none => ofBounds 1 upper
    | some m =>
      if m = 0 then empty
      else ofBounds (UInt32.ofNat ((n.toNat + m.toNat - 1) / m.toNat)) upper

/-- The decimal digits of a count. -/
def digits (n : UInt32) : String := toString n.toNat

/-- The usual signs `*`, `+` and `?` where there is one, and the bounds between braces otherwise. -/
def print (c : Cardinality) : String :=
  if c.isEmpty then "\x7b\x7d"
  else if c = star then "*"
  else if c = plus then "+"
  else if c = optional then "?"
  else
    match c.max with
    | none => "\x7b" ++ digits c.min ++ ",\x7d"
    | some m =>
      if c.min = m then "\x7b" ++ digits m ++ "\x7d"
      else "\x7b" ++ digits c.min ++ "," ++ digits m ++ "\x7d"

/-- The bounds of a range made from bounds in order are those bounds, so nothing is lost on the way
through `ofBounds`. -/
theorem ofBounds_of_le {min m : UInt32} (h : min ≤ m) :
    ofBounds min (some m) = ⟨min, some m, .inl (by simpa using h)⟩ := by
  simp [ofBounds, h]

/-- Crossed bounds make the empty cardinality, whichever they are. -/
theorem ofBounds_of_lt {min m : UInt32} (h : m < min) : ofBounds min (some m) = empty := by
  simp [ofBounds, UInt32.not_le.2 h]

/-- Every cardinality is the range of its own bounds. -/
theorem ofBounds_min_max (c : Cardinality) : ofBounds c.min c.max = c := by
  obtain ⟨min, max, h⟩ := c
  cases max with
  | none => rfl
  | some m =>
    rcases h with h | ⟨rfl, h⟩
    · exact ofBounds_of_le (h m rfl)
    · cases h; rfl

end Cardinality

end Shex
