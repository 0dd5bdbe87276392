import Shex.Xsd.Decimal

/-!
# Durations

The written form of durations: an optional minus, `P`, then years, months and days, then `T` with
hours, minutes and seconds. Every item may be missing but there must be one; the order is fixed, and
only seconds have a fraction. Years and months make a number of months held in 64 bits, the others a
decimal number of seconds.
-/

namespace Shex.Xsd

/-- The months and seconds of a duration, each missing if no item adds to it. -/
structure Duration where
  months : Option Int
  seconds : Option Decimal
deriving DecidableEq, Inhabited, Repr

namespace Duration

/-- The items of a duration, in the order in which they are written. -/
inductive Item where
  | year | month | day | time | hour | minute | second
deriving DecidableEq, Inhabited

/-- The place of an item in the order. -/
def Item.rank : Item → Nat
  | year => 1
  | month => 2
  | day => 3
  | time => 4
  | hour => 5
  | minute => 6
  | second => 7

/-- The item that a letter stands for after `T` (`inTime`) or before it. -/
def Item.ofLetter? (inTime : Bool) (c : Char) : Option Item :=
  match inTime, c with
  | false, 'Y' => some year
  | false, 'M' => some month
  | false, 'D' => some day
  | true, 'H' => some hour
  | true, 'M' => some minute
  | true, 'S' => some second
  | _, _ => none

/-- Adds a number of months that fits with its sum into 64 bits. -/
def addMonths (d : Duration) (negative : Bool) (whole fraction : List Char) (hasPoint : Bool)
    (factor : Int) : Option Duration :=
  let n := digitsValue whole
  let total := d.months.getD 0 + (if negative then -(n : Int) else n) * factor
  if whole.isEmpty || !fraction.isEmpty || hasPoint || !fitsInt64 n || !fitsInt64 (n * factor) ||
      !fitsInt64 total then none
  else some { d with months := some total }

/-- Adds a number of seconds that fits with its sum into a decimal. -/
def addSeconds (d : Duration) (negative : Bool) (whole fraction : List Char) (hasPoint : Bool)
    (factor : Int) : Option Duration :=
  if whole.isEmpty && fraction.isEmpty || hasPoint && factor ≠ 1 then none
  else do
    let n ← Decimal.ofNumeral? ⟨false, whole, fraction⟩
    let part := (if negative then -n.scaled else n.scaled) * factor
    let total := (d.seconds.getD ⟨0⟩).scaled + part
    if Decimal.fits part && Decimal.fits total then some { d with seconds := some ⟨total⟩ }
    else none

/-- Adds the number of an item. -/
def add (d : Duration) (negative : Bool) (whole fraction : List Char) (hasPoint : Bool) :
    Item → Option Duration
  | .year => d.addMonths negative whole fraction hasPoint 12
  | .month => d.addMonths negative whole fraction hasPoint 1
  | .day => d.addSeconds negative whole fraction hasPoint 86400
  | .hour => d.addSeconds negative whole fraction hasPoint 3600
  | .minute => d.addSeconds negative whole fraction hasPoint 60
  | .second => d.addSeconds negative whole fraction hasPoint 1
  | .time => none

/-- Reads items whose rank is greater than `rank`. An item takes at least one character, so the
length of the text is enough `fuel`. -/
def readItems (negative : Bool) : Nat → Nat → Duration → List Char → Option Duration
  | _, _, d, [] => some d
  | 0, _, _, _ => none
  | fuel + 1, rank, d, 'T' :: cs =>
    if rank < Item.time.rank then readItems negative fuel Item.time.rank d cs else none
  | fuel + 1, rank, d, cs => do
    let (whole, rest) := takeDigits cs
    let (hasPoint, fraction, rest) := match rest with
      | '.' :: rest => (true, takeDigits rest)
      | rest => (false, [], rest)
    match rest with
    | [] => none
    | c :: rest =>
      let item ← Item.ofLetter? (Item.time.rank ≤ rank) c
      if rank < item.rank then
        readItems negative fuel item.rank (← d.add negative whole fraction hasPoint item) rest
      else none

/-- Reads a duration that has at least one item. -/
def read? (cs : List Char) : Option Duration :=
  let (negative, rest) := match cs with
    | '-' :: rest => (true, rest)
    | rest => (false, rest)
  match rest with
  | 'P' :: rest => do
    let d ← readItems negative rest.length 0 ⟨none, none⟩ rest
    if d.months.isNone && d.seconds.isNone then none else some d
  | _ => none

end Duration

end Shex.Xsd
