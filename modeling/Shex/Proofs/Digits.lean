import Mathlib.Algebra.Order.Field.Basic
import Mathlib.Algebra.Order.Ring.Abs
import Mathlib.Algebra.Order.Ring.Rat
import Mathlib.Data.List.DropRight
import Mathlib.Data.Nat.Digits.Lemmas
import Mathlib.Tactic.Positivity
import Mathlib.Tactic.Ring
import Shex.NodeConstraint.Check

/-!
# Digits

The digits of a literal are counted on its text, after the zeros at both ends of its numeral are
dropped. `digitCounts_exact` says what the counts are in terms of the number alone: the fraction
digits are the fewest places after which the number is an integer, and the digits are those of that
integer, or the fraction digits if they are more. So the sign, the zeros at either end and a point
that nothing follows do not matter, and neither does the datatype.

Both counts come from one equation, `Numeral.abs_value_mul_pow`, and from what is left at the ends
of a trimmed numeral: the last digit of the fraction is not zero, and the first digit before the
point is not zero.
-/

namespace Shex

namespace Xsd

/-! ### The number that digits denote -/

/-- The number that a digit denotes. -/
def digitValue (c : Char) : Nat := c.toNat - '0'.toNat

/-- A digit denotes a number below ten, so that digits can be read as digits of a number in base
ten. -/
theorem digitValue_lt {c : Char} (hc : c.isDigit) : digitValue c < 10 := by
  have hle : c.toNat ≤ 57 := (Char.isDigit_iff_toNat.mp hc).2
  have : '0'.toNat = 48 := rfl
  rw [digitValue]
  omega

/-- Only the character of zero denotes zero: dropping that character is dropping zeros. -/
theorem digitValue_eq_zero {c : Char} (hc : c.isDigit) : digitValue c = 0 ↔ c = '0' := by
  have hge : '0'.toNat ≤ c.toNat := (Char.isDigit_iff_toNat.mp hc).1
  constructor
  · intro h
    rw [digitValue] at h
    exact Char.toNat_inj.mp (by omega)
  · rintro rfl
    rfl

/-- One more digit at the end. Digits are read from the left, so the inductions go by the last
digit. -/
theorem digitsValue_concat (ds : List Char) (d : Char) :
    digitsValue (ds ++ [d]) = 10 * digitsValue ds + digitValue d := by
  rw [digitsValue, List.foldl_append]
  rfl

/-- More digits at the end move the earlier ones up by as many places. -/
theorem digitsValue_append (ds es : List Char) :
    digitsValue (ds ++ es) = digitsValue ds * 10 ^ es.length + digitsValue es := by
  induction es using List.reverseRecOn with
  | nil => simp [digitsValue]
  | append_singleton es e ih =>
    rw [← List.append_assoc, digitsValue_concat, digitsValue_concat, ih, List.length_append,
      List.length_singleton]
    ring

/-- Digits are those of their number, from the last to the first. -/
theorem digitsValue_eq_ofDigits (ds : List Char) :
    digitsValue ds = Nat.ofDigits 10 (ds.reverse.map digitValue) := by
  induction ds using List.reverseRecOn with
  | nil => rfl
  | append_singleton ds d ih =>
    rw [digitsValue_concat, List.reverse_append, List.reverse_singleton, List.singleton_append,
      List.map_cons, Nat.ofDigits_cons, ← ih, Nat.add_comm]

/-- As many digits denote a number of at most that many places. -/
theorem digitsValue_lt {ds : List Char} (hd : ∀ c ∈ ds, c.isDigit) :
    digitsValue ds < 10 ^ ds.length := by
  rw [digitsValue_eq_ofDigits, ← List.length_reverse, ← List.length_map (f := digitValue)]
  refine Nat.ofDigits_lt_base_pow_length (by decide) fun x hx => ?_
  obtain ⟨c, hc, rfl⟩ := List.mem_map.mp hx
  exact digitValue_lt (hd c (List.mem_reverse.mp hc))

/-- Digits that do not begin with zero are as many as their number has. -/
theorem length_digits_digitsValue {d : Char} {ds : List Char} (hd : ∀ c ∈ d :: ds, c.isDigit)
    (h0 : d ≠ '0') : (Nat.digits 10 (digitsValue (d :: ds))).length = (d :: ds).length := by
  rw [digitsValue_eq_ofDigits, Nat.digits_ofDigits 10 (by decide)]
  · rw [List.length_map, List.length_reverse]
  · intro x hx
    obtain ⟨c, hc, rfl⟩ := List.mem_map.mp hx
    exact digitValue_lt (hd c (List.mem_reverse.mp hc))
  · intro h
    simpa [digitValue_eq_zero (hd d List.mem_cons_self)] using h0

/-- Zeros at the start of digits do not count. -/
theorem digitsValue_dropWhile (ds : List Char) :
    digitsValue (ds.dropWhile (· = '0')) = digitsValue ds := by
  induction ds with
  | nil => rfl
  | cons d ds ih =>
    rw [List.dropWhile_cons]
    split
    case isTrue h =>
      obtain rfl : d = '0' := by simpa using h
      exact ih
    case isFalse => rfl

/-! ### The number that a numeral denotes -/

namespace Numeral

variable {n : Numeral} {cs : List Char}

/-- The number that a numeral denotes. -/
def value (n : Numeral) : ℚ :=
  (if n.negative then -1 else 1) * digitsValue (n.whole ++ n.fraction) / 10 ^ n.fraction.length

/-- A numeral has nothing but digits before and after its point. -/
structure IsNumeral (n : Numeral) : Prop where
  whole : ∀ c ∈ n.whole, c.isDigit
  fraction : ∀ c ∈ n.fraction, c.isDigit

/-- What is read as a numeral has nothing but digits on both sides of its point. The reader splits
at the point and then tests both sides. -/
theorem isNumeral_of_read? (h : read? cs = some n) : n.IsNumeral := by
  have hwhole : ∀ c ∈ (takeDigits (takeSign cs).2).1, c.isDigit :=
    fun c hc => List.mem_takeWhile_imp hc
  simp only [read?] at h
  split at h
  · obtain ⟨-, h⟩ := Option.ite_none_left_eq_some.mp h
    obtain rfl := Option.some.inj h
    exact ⟨hwhole, nofun⟩
  · obtain ⟨hall, h⟩ := Option.ite_none_right_eq_some.mp h
    obtain rfl := Option.some.inj h
    rw [Bool.and_eq_true, List.all_eq_true] at hall
    exact ⟨hwhole, hall.1⟩
  · cases h

/-- The fraction is trimmed from the right. Stated for the library's `List.rdropWhile`, whose lemmas
say what is left. -/
theorem significantFraction_eq (n : Numeral) :
    n.significantFraction = n.fraction.rdropWhile (· = '0') := rfl

/-- Zeros at the end of the fraction do not count. Dropping them divides by as many tens as there
are places fewer, so the equation is stated with both powers and without a division. -/
theorem digitsValue_rdropWhile (ds es : List Char) :
    digitsValue (ds ++ es.rdropWhile (· = '0')) * 10 ^ es.length =
      digitsValue (ds ++ es) * 10 ^ (es.rdropWhile (· = '0')).length := by
  induction es using List.reverseRecOn with
  | nil => simp
  | append_singleton es e ih =>
    rw [List.rdropWhile_concat]
    split
    case isTrue h =>
      obtain rfl : e = '0' := by simpa using h
      rw [← List.append_assoc, digitsValue_concat, List.length_append, List.length_singleton,
        pow_succ, ← mul_assoc, ih, show digitValue '0' = 0 from rfl]
      ring
    case isFalse => rfl

/-- The number of a numeral in terms of its digits without a point, with the trimmed fraction: what
is dropped at the end of the fraction does not change the number. -/
theorem value_eq (n : Numeral) : n.value = (if n.negative then -1 else 1) *
    digitsValue (n.whole ++ n.significantFraction) / 10 ^ n.significantFraction.length := by
  have htrim := congrArg (Nat.cast : ℕ → ℚ) (digitsValue_rdropWhile n.whole n.fraction)
  push_cast at htrim
  rw [value, significantFraction_eq, mul_div_assoc, mul_div_assoc,
    (div_eq_div_iff (by positivity) (by positivity)).mpr htrim]

/-- Without its zeros at the end, the fraction says how often a number is to be multiplied by ten
for its digits to be those of an integer. -/
theorem abs_value_mul_pow (n : Numeral) : |n.value| * 10 ^ n.significantFraction.length =
    digitsValue (n.whole ++ n.significantFraction) := by
  have hsign : |(if n.negative then -1 else 1 : ℚ)| = 1 := by split <;> simp
  have hpow : (0 : ℚ) < 10 ^ n.significantFraction.length := by positivity
  rw [value_eq, abs_div, abs_mul, hsign, one_mul, Nat.abs_cast, abs_of_pos hpow,
    div_mul_cancel₀ _ hpow.ne']

/-- The last digit of a fraction without the zeros at its end is not zero. So there is no coarser
grid on which the number lies, which makes the number of fraction digits the least one. -/
theorem not_dvd_digitsValue (hn : n.IsNumeral) (hf : n.significantFraction ≠ []) :
    ¬ 10 ∣ digitsValue (n.whole ++ n.significantFraction) := by
  rw [significantFraction_eq] at hf ⊢
  have hlast := List.rdropWhile_last_not _ _ hf
  have hmem : (n.fraction.rdropWhile (· = '0')).getLast hf ∈ n.fraction :=
    (List.rdropWhile_prefix _ _).mem (List.getLast_mem hf)
  have hdigit := hn.fraction _ hmem
  rw [← List.dropLast_append_getLast hf, ← List.append_assoc, digitsValue_concat]
  have hlt := digitValue_lt hdigit
  have hne : digitValue ((n.fraction.rdropWhile (· = '0')).getLast hf) ≠ 0 :=
    fun h0 => hlast (by simpa using (digitValue_eq_zero hdigit).mp h0)
  omega

/-- The digits that a trimmed numeral has: those of the integer that its number becomes, or those of
its fraction if they are more. -/
theorem digitCounts_eq (hn : n.IsNumeral) : n.digitCounts =
    (max 1 (max n.significantFraction.length
      (Nat.digits 10 (digitsValue (n.whole ++ n.significantFraction))).length),
      n.significantFraction.length) := by
  have hfraction : ∀ c ∈ n.significantFraction, c.isDigit :=
    fun c hc => hn.fraction c ((List.rdropWhile_prefix _ _).mem hc)
  rw [digitCounts, Prod.mk.injEq]
  refine ⟨?_, rfl⟩
  rw [digitsValue_append, ← digitsValue_dropWhile n.whole, ← digitsValue_append,
    show n.whole.dropWhile (· = '0') = n.significantWhole from rfl]
  cases hw : n.significantWhole with
  | nil =>
    -- with nothing before the point, zeros may stand at the start of the fraction
    have hle := (Nat.digits_length_le_iff (by decide : 1 < 10) _).mpr (digitsValue_lt hfraction)
    rw [List.nil_append, List.length_nil]
    omega
  | cons d ds =>
    have hhead : d ≠ '0' := by
      have := List.head?_dropWhile_not (· = '0') n.whole
      rw [show n.whole.dropWhile (· = '0') = d :: ds from hw] at this
      simpa using this
    have hdigits : ∀ c ∈ d :: (ds ++ n.significantFraction), c.isDigit := by
      intro c hc
      rw [← List.cons_append, List.mem_append, ← hw] at hc
      exact hc.elim (fun h => hn.whole c ((List.dropWhile_sublist _).mem h)) (hfraction c)
    rw [List.cons_append, length_digits_digitsValue hdigits hhead, List.length_cons,
      List.length_cons, List.length_append]
    omega

end Numeral

/-! ### Places -/

/-- A number with `m` as its digits after `f` places, the last of which is not zero, is an integer
after `f` places and not before. -/
theorem isLeast_places {v : ℚ} {m f : ℕ} (hv : |v| * 10 ^ f = m) (hm : f ≠ 0 → ¬ 10 ∣ m) :
    IsLeast {k : ℕ | ∃ z : ℤ, v * 10 ^ k = z} f := by
  constructor
  · rcases abs_choice v with h | h
    · exact ⟨m, by rw [← h, hv, Int.cast_natCast]⟩
    · refine ⟨-m, ?_⟩
      rw [Int.cast_neg, Int.cast_natCast, ← hv, h]
      ring
  · rintro k ⟨z, hz⟩
    by_contra hlt
    obtain ⟨j, rfl⟩ : ∃ j, f = k + (j + 1) := ⟨f - k - 1, by omega⟩
    refine hm (by omega) ⟨z.natAbs * 10 ^ j, ?_⟩
    have habs : |v| * 10 ^ k = z.natAbs := by
      rw [Nat.cast_natAbs, Int.cast_abs, ← hz, abs_mul, abs_of_pos (a := (10 : ℚ) ^ k)
        (by positivity)]
    have : (m : ℚ) = (10 * (z.natAbs * 10 ^ j) : ℕ) := by
      push_cast
      rw [← hv, pow_add, ← mul_assoc, habs, pow_succ, Nat.cast_natAbs]
      push_cast
      ring
    exact_mod_cast this

/-- A number of which `t` digits are counted, and `f` of them as fraction digits. -/
structure HasDigits (v : ℚ) (t f : ℕ) : Prop where
  /-- The number is an integer after `f` places and not before. -/
  fraction : IsLeast {k : ℕ | ∃ z : ℤ, v * 10 ^ k = z} f
  /-- At least one digit is counted, and a zero for each place that no digit is left for. -/
  total : ∃ m : ℕ, (m : ℚ) = |v| * 10 ^ f ∧ t = max 1 (max f (Nat.digits 10 m).length)

/-- The digits that are counted on a numeral are those of its number, whatever zeros it is written
with. -/
theorem Numeral.IsNumeral.hasDigits {n : Numeral} (hn : n.IsNumeral) :
    HasDigits n.value n.digitCounts.1 n.digitCounts.2 := by
  rw [n.digitCounts_eq hn]
  refine ⟨isLeast_places n.abs_value_mul_pow fun hf => ?_, _, n.abs_value_mul_pow.symm, rfl⟩
  exact n.not_dvd_digitsValue hn fun hnil => hf (by rw [hnil]; rfl)

/-- What is counted is determined by the number. -/
theorem HasDigits.unique {v : ℚ} {t t' f f' : ℕ} (h : HasDigits v t f) (h' : HasDigits v t' f') :
    t = t' ∧ f = f' := by
  obtain rfl := h.fraction.unique h'.fraction
  obtain ⟨m, hm, rfl⟩ := h.total
  obtain ⟨m', hm', rfl⟩ := h'.total
  obtain rfl : m = m' := by exact_mod_cast hm.trans hm'.symm
  exact ⟨rfl, rfl⟩

/-! ### Literals -/

/-- The number that a decimal stands for. -/
def Decimal.value (d : Decimal) : ℚ := d.scaled / 10 ^ places

/-- The sign of an integer is that of the number it stands for. -/
theorem cast_signed (negative : Bool) (m : ℕ) :
    ((if negative then -(m : ℤ) else m : ℤ) : ℚ) = (if negative then -1 else 1) * m := by
  cases negative <;> simp

/-- A decimal that is read stands for the number of its numeral, exactly: if there were no room for
it, it would not be read. -/
theorem Decimal.value_of_ofNumeral? {n : Numeral} {d : Decimal} (h : ofNumeral? n = some d) :
    d.value = n.value ∧ fits d.scaled := by
  simp only [ofNumeral?] at h
  obtain ⟨hle, h⟩ := Option.ite_none_right_eq_some.mp h
  obtain ⟨hfits, h⟩ := Option.ite_none_right_eq_some.mp h
  obtain rfl := Option.some.inj h
  refine ⟨?_, hfits⟩
  have hplaces : (10 : ℚ) ^ places =
      10 ^ (places - n.significantFraction.length) * 10 ^ n.significantFraction.length := by
    rw [← pow_add, Nat.sub_add_cancel hle]
  rw [value, cast_signed, n.value_eq, Nat.cast_mul, hplaces, Nat.pow_eq, Nat.cast_pow,
    Nat.cast_ofNat, mul_comm ((10 : ℚ) ^ _) (10 ^ _), ← mul_assoc, mul_div_mul_right]
  positivity

/-- An integer as a decimal stands for itself. -/
theorem Decimal.value_ofInt (z : Int) : (ofInt z).value = z := by
  have hscale : (scale : ℚ) = 10 ^ places := by rw [scale, Nat.pow_eq, Nat.cast_pow, Nat.cast_ofNat]
  rw [value, ofInt, Int.cast_mul, Int.cast_natCast, hscale]
  exact mul_div_cancel_right₀ _ (by positivity)

/-- A decimal has no more fraction digits than are kept, and then the others are few too: 128 bits
hold a number of at most 39 digits. -/
theorem HasDigits.lt {d : Decimal} {t f : ℕ} (h : HasDigits d.value t f)
    (hd : d.scaled.natAbs < 10 ^ 39) : t < 40 := by
  have hscaled : d.value * 10 ^ Decimal.places = d.scaled := div_mul_cancel₀ _ (by positivity)
  have hf : f ≤ 18 := h.fraction.2 ⟨d.scaled, hscaled⟩
  obtain ⟨m, hm, rfl⟩ := h.total
  have hmul : m * 10 ^ (18 - f) = d.scaled.natAbs := by
    have : (m : ℚ) * 10 ^ (18 - f) = d.scaled.natAbs := by
      rw [hm, mul_assoc, ← pow_add, Nat.add_sub_cancel' hf, Nat.cast_natAbs, Int.cast_abs,
        ← hscaled, abs_mul, abs_of_pos (a := (10 : ℚ) ^ _) (by positivity)]
      rfl
    exact_mod_cast this
  have hle : m ≤ d.scaled.natAbs := by
    rw [← hmul]
    exact Nat.le_mul_of_pos_right m (by positivity)
  have := (Nat.digits_length_le_iff (by decide : 1 < 10) m).mpr (hle.trans_lt hd)
  omega

/-- An integer is read as a numeral without a point. So integers and decimals are counted alike, and
a lexical form that is both has the same counts either way. -/
theorem numeral_of_readInteger? {cs : List Char} {z : Int} (h : readInteger? cs = some z) :
    ∃ n, Numeral.read? cs = some n ∧ n.value = z ∧ fitsInt64 z := by
  simp only [readInteger?] at h
  obtain ⟨hdigits, h⟩ := Option.ite_none_left_eq_some.mp h
  obtain ⟨hfits, h⟩ := Option.ite_none_right_eq_some.mp h
  obtain rfl := Option.some.inj h
  rw [Bool.or_eq_true, not_or, Bool.not_eq_true', Bool.not_eq_false] at hdigits
  have hall := List.all_eq_true.mp hdigits.2
  refine ⟨⟨(takeSign cs).1, (takeSign cs).2, []⟩, ?_, ?_, hfits⟩
  · have htake : takeDigits (takeSign cs).2 = ((takeSign cs).2, []) :=
      Prod.ext (List.takeWhile_eq_self_iff.mpr hall) (List.dropWhile_eq_nil_iff.mpr hall)
    simp only [Numeral.read?, htake]
    exact if_neg hdigits.1
  · rw [Numeral.value, cast_signed, List.append_nil, List.length_nil, pow_zero, div_one]

end Xsd

open Xsd

/-- Readers take only numerals for integers and decimals: an optional sign and digits, in a decimal
also a point with digits, and the number read is the one that the numeral denotes. Decimals are held
in 128 bits and integers in 64. Nothing is said about which numerals are read. -/
structure Readers.ReadsNumerals (R : Readers) : Prop where
  decimal : ∀ {cs d}, R.decimal? cs = some d →
    (∃ n, Numeral.read? cs = some n ∧ n.value = d.value) ∧ Decimal.fits d.scaled
  integer : ∀ {cs z}, R.integer? cs = some z →
    (∃ n, Numeral.read? cs = some n ∧ n.value = z) ∧ fitsInt64 z

/-- The readers that validation runs with do. -/
theorem Readers.standard_readsNumerals : Readers.standard.ReadsNumerals where
  decimal h := by
    obtain ⟨n, hn, hof⟩ := Option.bind_eq_some_iff.mp h
    obtain ⟨hvalue, hfits⟩ := Decimal.value_of_ofNumeral? hof
    exact ⟨⟨n, hn, hvalue.symm⟩, hfits⟩
  integer h := by
    obtain ⟨n, hn, hvalue, hfits⟩ := numeral_of_readInteger? h
    exact ⟨⟨n, hn, hvalue⟩, hfits⟩

namespace Xsd

section
variable {R : Readers} (hR : R.ReadsNumerals) {l : Literal} {d : Decimal}
  (h : Numeric.ofLiteral? R l = some (.exact d))
include hR h

/-- A literal that is read as an integer or a decimal is a numeral for that number, and its digits
are counted. The numbers have less than 40 digits. -/
theorem numeral_of_exact :
    ∃ n, Numeral.read? l.lexical.toList = some n ∧ n.value = d.value ∧
      digitCounts? R l = some n.digitCounts ∧ d.scaled.natAbs < 10 ^ 39 := by
  simp only [Numeric.ofLiteral?] at h
  split at h
  case h_1 hd =>
    obtain ⟨d', hread, hd'⟩ := Option.map_eq_some_iff.mp h
    obtain rfl := Numeric.exact.inj hd'
    obtain ⟨⟨n, hn, hvalue⟩, hfits⟩ := hR.decimal hread
    refine ⟨n, hn, hvalue, ?_, ?_⟩
    · simp only [digitCounts?, hd]
      rw [if_pos (Option.isSome_of_eq_some hread), hn]
      rfl
    · simp only [Decimal.fits, Bool.and_eq_true, decide_eq_true_eq] at hfits
      norm_num at hfits
      omega
  case h_4 lo hi hd =>
    obtain ⟨z, hread, hz⟩ := Option.map_eq_some_iff.mp h
    obtain rfl := Numeric.exact.inj hz
    obtain ⟨z', hz', hbounds⟩ := Option.bind_eq_some_iff.mp hread
    obtain ⟨-, hbounds⟩ := Option.ite_none_left_eq_some.mp hbounds
    obtain rfl := Option.some.inj hbounds
    obtain ⟨⟨n, hn, hvalue⟩, hfits⟩ := hR.integer hz'
    refine ⟨n, hn, hvalue.trans (Decimal.value_ofInt z').symm, ?_, ?_⟩
    · simp only [digitCounts?, hd]
      rw [if_pos (Option.isSome_of_eq_some hread), hn]
      rfl
    · simp only [fitsInt64, Bool.and_eq_true, decide_eq_true_eq] at hfits
      have hscale : Decimal.scale = 10 ^ 18 := rfl
      rw [Decimal.ofInt, hscale, Int.natAbs_mul, Int.natAbs_natCast]
      norm_num at hfits ⊢
      omega
  all_goals simp at h

omit hR in
/-- Digit facets look at the counts only. -/
theorem failure?_eq_none_iff {t f : Nat} (hc : digitCounts? R l = some (t, f)) (n : Nat) :
    ((NumericFacet.totalDigits n).failure? R (.literal l) = none ↔ t ≤ n) ∧
      ((NumericFacet.fractionDigits n).failure? R (.literal l) = none ↔ f ≤ n) := by
  constructor <;>
    simp [NumericFacet.failure?, NumericFacet.complaint?, h, NumericFacet.digitComplaint?, hc]

/-- The digits that are counted of a literal are those of its number. -/
theorem hasDigits_of_exact :
    ∃ t f, HasDigits d.value t f ∧ digitCounts? R l = some (t, f) ∧ t < 40 := by
  obtain ⟨n, hn, hvalue, hcounts, hlt⟩ := numeral_of_exact hR h
  have hdigits := (Numeral.isNumeral_of_read? hn).hasDigits
  rw [hvalue] at hdigits
  exact ⟨_, _, hdigits, hcounts, hdigits.lt hlt⟩

/-- The digits that are counted of a literal are those of its number, and digit facets are limits on
them. So two literals with the same number are counted alike and meet the same digit facets. -/
theorem digitCounts_exact :
    (∃ n, Numeral.read? l.lexical.toList = some n ∧ n.value = d.value) ∧
    (∃ t f, HasDigits d.value t f ∧ digitCounts? R l = some (t, f) ∧ t < 40 ∧
      ∀ n, ((NumericFacet.totalDigits n).failure? R (.literal l) = none ↔ t ≤ n) ∧
        ((NumericFacet.fractionDigits n).failure? R (.literal l) = none ↔ f ≤ n)) ∧
    ∀ l' d', Numeric.ofLiteral? R l' = some (.exact d') → d'.value = d.value →
      digitCounts? R l' = digitCounts? R l ∧
      ∀ n, ((NumericFacet.totalDigits n).failure? R (.literal l') = none ↔
          (NumericFacet.totalDigits n).failure? R (.literal l) = none) ∧
        ((NumericFacet.fractionDigits n).failure? R (.literal l') = none ↔
          (NumericFacet.fractionDigits n).failure? R (.literal l) = none) := by
  obtain ⟨t, f, hdigits, hcounts, hlt⟩ := hasDigits_of_exact hR h
  have hfacets := failure?_eq_none_iff h hcounts
  obtain ⟨n, hn, hvalue, -⟩ := numeral_of_exact hR h
  refine ⟨⟨n, hn, hvalue⟩, ⟨t, f, hdigits, hcounts, hlt, hfacets⟩, fun l' d' h' hd => ?_⟩
  obtain ⟨t', f', hdigits', hcounts', -⟩ := hasDigits_of_exact hR h'
  rw [hd] at hdigits'
  obtain ⟨rfl, rfl⟩ := hdigits.unique hdigits'
  refine ⟨hcounts'.trans hcounts.symm, fun n => ?_⟩
  rw [(hfacets n).1, (hfacets n).2]
  exact failure?_eq_none_iff h' hcounts' n

end

/-- A twentieth below zero, with zeros that do not count and one that does. -/
def belowZero : Literal := .typed "-00.0500" (.xsd "decimal")

/-- The literal is read as the decimal it looks like. -/
theorem ofLiteral?_belowZero :
    Numeric.ofLiteral? .standard belowZero = some (.exact ⟨-50000000000000000⟩) := by decide

/-- The digits of a twentieth are two, both of the fraction. -/
theorem digitCounts_exact_belowZero :
    (∃ t f, HasDigits (Decimal.value ⟨-50000000000000000⟩) t f ∧
      digitCounts? .standard belowZero = some (t, f) ∧ t < 40 ∧
      ∀ n, ((NumericFacet.totalDigits n).failure? .standard (.literal belowZero) = none ↔ t ≤ n) ∧
        ((NumericFacet.fractionDigits n).failure? .standard (.literal belowZero) = none ↔ f ≤ n)) ∧
    digitCounts? .standard belowZero = some (2, 2) :=
  ⟨(digitCounts_exact Readers.standard_readsNumerals ofLiteral?_belowZero).2.1, by decide⟩

end Xsd

end Shex
