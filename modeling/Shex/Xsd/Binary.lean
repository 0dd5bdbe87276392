import Shex.Xsd.Decimal

/-!
# Binary floating point numbers

Double and single precision numbers as exact values: a sign, an integer and a power of two. A
quotient of integers is rounded to the nearest number of a format, and to the one with the even
integer if two are equally near (`Format.round`). All arithmetic is on integers.
-/

namespace Shex.Xsd

/-- A floating point number. A finite one has the magnitude `mantissa * 2 ^ exponent`. -/
inductive Binary where
  | nan
  | infinite (negative : Bool)
  | finite (negative : Bool) (mantissa : Nat) (exponent : Int)
deriving DecidableEq, Inhabited, Repr

/-- A binary format: the bits of a mantissa, the exponent of the least positive number, and the
least power of two that is too large. -/
structure Format where
  precision : Nat
  minExponent : Int
  maxExponent : Int

namespace Format

/-- Double precision. -/
def double : Format := ⟨53, -1074, 1024⟩

/-- Single precision. -/
def single : Format := ⟨24, -149, 128⟩

/-- The greatest `k` with `2 ^ k` at most `num / den`, both positive. -/
def floorLog2 (num den : Nat) : Int :=
  let k : Int := (num.log2 : Int) - den.log2
  let reached := if 0 ≤ k then den * Nat.pow 2 k.toNat ≤ num else den ≤ num * Nat.pow 2 (-k).toNat
  if reached then k else k - 1

/-- The integer nearest to `num / den`, the even one of two. -/
def roundHalfEven (num den : Nat) : Nat :=
  let q := num / den
  let r := num % den
  if 2 * r > den || (2 * r = den && q % 2 = 1) then q + 1 else q

/-- The number of the format nearest to `num / den`, with a sign. -/
def round (f : Format) (negative : Bool) (num den : Nat) : Binary :=
  if num = 0 then .finite negative 0 f.minExponent
  else
    let e := max f.minExponent (floorLog2 num den - (f.precision - 1 : Nat))
    let m := if 0 ≤ e then roundHalfEven num (den * Nat.pow 2 e.toNat)
      else roundHalfEven (num * Nat.pow 2 (-e).toNat) den
    let (m, e) := if m = Nat.pow 2 f.precision then (Nat.pow 2 (f.precision - 1), e + 1) else (m, e)
    if m ≠ 0 && f.maxExponent ≤ (m.log2 : Int) + e then .infinite negative
    else .finite negative m e

end Format

namespace Binary

/-- The exact value times `2 ^ shift`, for a shift that makes it an integer. -/
def scaledBy (negative : Bool) (mantissa : Nat) (exponent shift : Int) : Int :=
  let n : Int := mantissa * Nat.pow 2 (exponent + shift).toNat
  if negative then -n else n

/-- How two numbers are ordered. A number that is no number is in no order with any. -/
def compare? : Binary → Binary → Option Ordering
  | nan, _ => none
  | _, nan => none
  | infinite a, infinite b => some (Ord.compare b a)
  | infinite a, finite _ _ _ => some (if a then .lt else .gt)
  | finite _ _ _, infinite b => some (if b then .gt else .lt)
  | finite a m d, finite b n e =>
    let shift := -(min d e)
    some (Ord.compare (scaledBy a m d shift) (scaledBy b n e shift))

/-- The quotient of a number by a positive integer, in double precision. -/
def div (a : Binary) (n : Nat) : Binary :=
  match a with
  | finite negative m e =>
    if 0 ≤ e then Format.double.round negative (m * Nat.pow 2 e.toNat) n
    else Format.double.round negative m (n * Nat.pow 2 (-e).toNat)
  | a => a

/-- An integer in double precision. -/
def ofInt (n : Int) : Binary := Format.double.round (n < 0) n.natAbs 1

/-- A decimal numeral times a power of ten, in a format. Values beyond 400 places on either side of
the point are beyond every format, and no power of ten is computed for them. -/
def ofDigits (f : Format) (negative : Bool) (whole fraction : List Char) (exponent : Int) :
    Binary :=
  let digits := (whole ++ fraction).dropWhile (· = '0')
  let n := digitsValue digits
  let e := exponent - fraction.length
  let magnitude : Int := digits.length + e
  if n = 0 || magnitude < -400 then .finite negative 0 f.minExponent
  else if magnitude > 400 then .infinite negative
  else if 0 ≤ e then f.round negative (n * Nat.pow 10 e.toNat) 1
  else f.round negative n (Nat.pow 10 (-e).toNat)

/-- Reads the exponent of a number: nothing, or `e` with a sign and digits. -/
def readExponent? : List Char → Option Int
  | [] => some 0
  | c :: cs =>
    if c = 'e' || c = 'E' then
      let (negative, ds) := takeSign cs
      if ds.isEmpty || !ds.all Char.isDigit then none
      else some (if negative then -(digitsValue ds : Int) else digitsValue ds)
    else none

/-- Reads a number in a format: digits with an optional point and an optional exponent, or one of
the words `inf`, `infinity` and `nan` in any case, after an optional sign. -/
def read? (f : Format) (cs : List Char) : Option Binary :=
  let (negative, rest) := takeSign cs
  let word := String.ofList (rest.map Char.toLower)
  if word = "inf" || word = "infinity" then some (.infinite negative)
  else if word = "nan" then some .nan
  else
    let (whole, rest) := takeDigits rest
    let (fraction, rest) :=
      match rest with
      | '.' :: rest => takeDigits rest
      | rest => ([], rest)
    if whole.isEmpty && fraction.isEmpty then none
    else (readExponent? rest).map (ofDigits f negative whole fraction)

end Binary

namespace Decimal

/-- Takes a factor of ten out of a value and its scale, as often as both have one. -/
def reduce : Nat → Int → Nat → Int × Nat
  | 0, n, s => (n, s)
  | k + 1, n, s => if s ≠ 1 && n % 10 = 0 then reduce k (n / 10) (s / 10) else (n, s)

/-- A decimal in double precision: the reduced value and the reduced scale are each rounded, and
so is their quotient. -/
def toBinary (d : Decimal) : Binary :=
  let (n, s) := reduce places d.scaled scale
  (Binary.ofInt n).div s

end Decimal

end Shex.Xsd
