/-!
# Integers and decimals

Decimal numerals: an optional sign, digits, and for decimals an optional point with further digits.
A numeral is read in two steps. `Numeral.read?` divides the text into its parts and checks their
form; the value is computed from the parts (`Numeral.scaled?`). Values have at most 18 fraction
digits and are kept as integers, scaled by 10 to the 18th and held in 128 bits; integers are held
in 64 bits.
-/

namespace Shex.Xsd

/-- The number that digits denote. -/
def digitsValue (ds : List Char) : Nat := ds.foldl (fun n d => 10 * n + (d.toNat - '0'.toNat)) 0

/-- The digits at the start of a text, and what follows them. -/
def takeDigits (cs : List Char) : List Char × List Char :=
  (cs.takeWhile Char.isDigit, cs.dropWhile Char.isDigit)

/-- The sign at the start of a text, if it has one: whether it is a minus, and the rest. -/
def takeSign : List Char → Bool × List Char
  | '+' :: cs => (false, cs)
  | '-' :: cs => (true, cs)
  | cs => (false, cs)

/-- A decimal numeral: sign, digits before the point and digits after it. -/
structure Numeral where
  negative : Bool
  whole : List Char
  fraction : List Char
deriving DecidableEq, Inhabited, Repr

namespace Numeral

/-- Reads an optional sign, digits, and an optional point with digits. There must be a digit before
or after the point. -/
def read? (cs : List Char) : Option Numeral :=
  let (negative, rest) := takeSign cs
  let (whole, rest) := takeDigits rest
  match rest with
  | [] => if whole.isEmpty then none else some ⟨negative, whole, []⟩
  | '.' :: rest =>
    if rest.all Char.isDigit && !(whole.isEmpty && rest.isEmpty) then
      some ⟨negative, whole, rest⟩
    else none
  | _ => none

/-- The digits after the point without the zeros at their end. -/
def significantFraction (n : Numeral) : List Char :=
  (n.fraction.reverse.dropWhile (· = '0')).reverse

/-- The digits before the point without the zeros at their start. -/
def significantWhole (n : Numeral) : List Char := n.whole.dropWhile (· = '0')

end Numeral

/-- A decimal number, 10 to the 18th times as large. -/
structure Decimal where
  scaled : Int
deriving DecidableEq, Inhabited, Repr

namespace Decimal

/-- The number of fraction digits that are kept. -/
def places : Nat := 18

/-- The scaled value of one. -/
def scale : Nat := Nat.pow 10 places

/-- Whether a scaled value fits into 128 bits. -/
def fits (n : Int) : Bool := -(Nat.pow 2 127 : Int) ≤ n && n < (Nat.pow 2 127 : Int)

/-- The decimal of a numeral, if it has no more fraction digits than are kept and fits. -/
def ofNumeral? (n : Numeral) : Option Decimal :=
  let fraction := n.significantFraction
  if fraction.length ≤ places then
    let magnitude := digitsValue (n.whole ++ fraction) * Nat.pow 10 (places - fraction.length)
    let scaled : Int := if n.negative then -(magnitude : Int) else magnitude
    if fits scaled then some ⟨scaled⟩ else none
  else none

/-- Reads a decimal. -/
def read? (cs : List Char) : Option Decimal := Numeral.read? cs >>= ofNumeral?

/-- An integer as a decimal. -/
def ofInt (n : Int) : Decimal := ⟨n * scale⟩

end Decimal

/-- Whether an integer fits into 64 bits. -/
def fitsInt64 (n : Int) : Bool := -(Nat.pow 2 63 : Int) ≤ n && n < (Nat.pow 2 63 : Int)

/-- Reads an integer: an optional sign and digits, with a value of 64 bits. -/
def readInteger? (cs : List Char) : Option Int :=
  let (negative, ds) := takeSign cs
  if ds.isEmpty || !ds.all Char.isDigit then none
  else
    let n : Int := if negative then -(digitsValue ds : Int) else digitsValue ds
    if fitsInt64 n then some n else none

/-- The counts of all digits and of fraction digits of a numeral in its shortest form. There is
always at least one digit. -/
def Numeral.digitCounts (n : Numeral) : Nat × Nat :=
  (max (n.significantWhole.length + n.significantFraction.length) 1, n.significantFraction.length)

end Shex.Xsd
