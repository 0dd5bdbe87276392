import Shex.Cardinality

/-!
# The counts of a cardinality

Which numbers a cardinality contains, as a relation (`Cardinality.Has`) in place of bounds, and what
the three operations do to it: `inter` contains the common counts, `add` the sums, and `quot n c`
the numbers of groups of `c` into which `n` can be divided. Words are read as natural numbers; the
sums of `add` are those of the natural numbers if they are words. What becomes of the others is said
of the bounds (`add_bounds`).
-/

namespace Shex.Cardinality

/-- A number lies between the bounds. -/
def Has (c : Cardinality) (k : Nat) : Prop :=
  c.min.toNat ≤ k ∧ ∀ m, c.max = some m → k ≤ m.toNat

/-- What is contained is said of words and what a cardinality has of numbers. They agree on words,
which is how results about counts become results about the program. -/
theorem contains_iff_has {c : Cardinality} {n : UInt32} : c.contains n = true ↔ c.Has n.toNat := by
  unfold contains Has
  rw [Bool.and_eq_true, decide_eq_true_iff, UInt32.le_iff_toNat_le]
  refine and_congr_right fun _ => ?_
  cases c.max with
  | none => simp
  | some m => simp [UInt32.le_iff_toNat_le]

/-- The empty cardinality has no count, since its bounds are crossed. -/
@[simp] theorem not_empty_has (k : Nat) : ¬ empty.Has k := by
  rintro ⟨h1, h2⟩
  have : k ≤ 0 := h2 0 rfl
  have : 1 ≤ k := h1
  omega

/-- The counts of a range made from bounds are those between them. Crossed bounds have none in
between, so the lemma needs no case for them. -/
theorem ofBounds_has {a : UInt32} {b : Option UInt32} {k : Nat} :
    (ofBounds a b).Has k ↔ a.toNat ≤ k ∧ ∀ m, b = some m → k ≤ m.toNat := by
  cases b with
  | none => rfl
  | some m =>
    by_cases h : a ≤ m
    · rw [ofBounds_of_le h]
      rfl
    · rw [ofBounds_of_lt (UInt32.not_le.1 h)]
      refine iff_of_false (not_empty_has k) fun ⟨h1, h2⟩ => h ?_
      exact UInt32.le_iff_toNat_le.2 (Nat.le_trans h1 (h2 m rfl))

/-- Bounds in order are those of the range made from them. -/
theorem ofBounds_bounds {a : UInt32} {b : Option UInt32} (h : ∀ m, b = some m → a ≤ m) :
    (ofBounds a b).min = a ∧ (ofBounds a b).max = b := by
  cases b with
  | none => exact ⟨rfl, rfl⟩
  | some m =>
    rw [ofBounds_of_le (h m rfl)]
    exact ⟨rfl, rfl⟩

/-- A range whose bounds are one number has that number only. -/
@[simp] theorem exactly_has {n : UInt32} {k : Nat} : (exactly n).Has k ↔ k = n.toNat := by
  rw [exactly, ofBounds_has]
  constructor
  · rintro ⟨h1, h2⟩
    exact Nat.le_antisymm (h2 n rfl) h1
  · rintro rfl
    exact ⟨Nat.le_refl _, fun m hm => by cases hm; exact Nat.le_refl _⟩

/-- A range without greatest count has all from its least count on. -/
@[simp] theorem atLeast_has {n : UInt32} {k : Nat} : (atLeast n).Has k ↔ n.toNat ≤ k := by
  simp [atLeast, ofBounds_has]

/-- Not to occur is to occur no times. -/
@[simp] theorem zero_has {k : Nat} : zero.Has k ↔ k = 0 := by simp [zero]

/-- To occur once is to occur one time. -/
@[simp] theorem one_has {k : Nat} : one.Has k ↔ k = 1 := by simp [one]

/-- Any count will do. -/
@[simp] theorem star_has (k : Nat) : star.Has k := by simp [star]

/-- Every count but none will do. -/
@[simp] theorem plus_has {k : Nat} : plus.Has k ↔ 1 ≤ k := by simp [plus]

/-- None or one will do. -/
@[simp] theorem optional_has {k : Nat} : optional.Has k ↔ k ≤ 1 := by
  simp [optional, ofBounds_has]

/-- A cardinality that is not the empty one has its bounds in order. This is what the structure of
cardinalities carries with it, read for the bounds as numbers. -/
theorem min_le_max {c : Cardinality} (hc : c ≠ empty) {m : UInt32} (hm : c.max = some m) :
    c.min.toNat ≤ m.toNat := by
  obtain ⟨min, max, h⟩ := c
  rcases h with h | ⟨rfl, rfl⟩
  · exact UInt32.le_iff_toNat_le.1 (h m hm)
  · exact absurd rfl hc

/-- The test for the empty cardinality compares bounds, and only that cardinality has its bounds. -/
theorem isEmpty_iff {c : Cardinality} : c.isEmpty = true ↔ c = empty := by simp [isEmpty]

/-- A cardinality that is not the empty one has its least count. -/
theorem has_min {c : Cardinality} (hc : c ≠ empty) : c.Has c.min.toNat :=
  ⟨Nat.le_refl _, fun _ hm => min_le_max hc hm⟩

/-- Only the empty cardinality has no count. All others have their least one. -/
theorem exists_has_iff {c : Cardinality} : (∃ k, c.Has k) ↔ c ≠ empty := by
  constructor
  · rintro ⟨k, hk⟩ rfl
    exact not_empty_has k hk
  · exact fun hc => ⟨_, has_min hc⟩

/-- No bound is greater than a number. The bounds of the empty cardinality are none. -/
def AtMost (c : Cardinality) (n : Nat) : Prop :=
  c ≠ empty → c.min.toNat ≤ n ∧ ∀ m, c.max = some m → m.toNat ≤ n

/-- Bounds that are at most a number are at most every greater one. -/
theorem AtMost.mono {c : Cardinality} {n n' : Nat} (h : c.AtMost n) (hn : n ≤ n') : c.AtMost n' :=
  fun hc => ⟨Nat.le_trans (h hc).1 hn, fun m hm => Nat.le_trans ((h hc).2 m hm) hn⟩

/-- The empty cardinality has no bounds that could be too great. -/
@[simp] theorem empty_atMost (n : Nat) : empty.AtMost n := fun h => absurd rfl h

/-- A range has the bounds that it is made from, or is empty. -/
theorem ofBounds_atMost {a : UInt32} {b : Option UInt32} {n : Nat} (ha : a.toNat ≤ n)
    (hb : ∀ m, b = some m → m.toNat ≤ n) : (ofBounds a b).AtMost n := by
  cases b with
  | none => exact fun _ => ⟨ha, hb⟩
  | some m =>
    by_cases h : a ≤ m
    · rw [ofBounds_of_le h]
      exact fun _ => ⟨ha, hb⟩
    · rw [ofBounds_of_lt (UInt32.not_le.1 h)]
      exact empty_atMost n

/-- A range without greatest count is bounded by its least one. -/
theorem atLeast_atMost {w : UInt32} {n : Nat} (h : w.toNat ≤ n) : (atLeast w).AtMost n := by
  unfold atLeast
  exact ofBounds_atMost h (by simp)

/-- The range of all counts begins with none. -/
theorem star_atMost (n : Nat) : star.AtMost n := atLeast_atMost (Nat.zero_le n)

/-- A range with one count is bounded by it. -/
theorem exactly_atMost {w : UInt32} {n : Nat} (h : w.toNat ≤ n) : (exactly w).AtMost n := by
  unfold exactly
  exact ofBounds_atMost h fun m hm => by cases hm; exact h

/-- The greater of two words, read as numbers. -/
theorem max_toNat_le {a b : UInt32} {k : Nat} :
    (Max.max a b).toNat ≤ k ↔ a.toNat ≤ k ∧ b.toNat ≤ k := by
  change (if a ≤ b then b else a).toNat ≤ k ↔ _
  split <;> rename_i h <;> rw [UInt32.le_iff_toNat_le] at h <;> omega

/-- The smaller of two words, read as numbers. -/
theorem le_min_toNat {a b : UInt32} {k : Nat} :
    k ≤ (Min.min a b).toNat ↔ k ≤ a.toNat ∧ k ≤ b.toNat := by
  change k ≤ (if a ≤ b then a else b).toNat ↔ _
  split <;> rename_i h <;> rw [UInt32.le_iff_toNat_le] at h <;> omega

/-- The empty cardinality absorbs on the left. The definition tests for it, so that crossed bounds
are not compared with others. -/
@[simp] theorem empty_inter (a : Cardinality) : empty.inter a = empty := by
  simp [inter, isEmpty_iff]

/-- The empty cardinality absorbs on the right. -/
@[simp] theorem inter_empty (a : Cardinality) : a.inter empty = empty := by
  simp [inter, isEmpty_iff]

/-- The intersection has the common counts: it takes the greater of the least and the smaller of the
greatest ones, and if these are crossed there is no common count. -/
theorem inter_has {a b : Cardinality} {k : Nat} : (a.inter b).Has k ↔ a.Has k ∧ b.Has k := by
  unfold inter
  split
  · rename_i h
    rw [Bool.or_eq_true, isEmpty_iff, isEmpty_iff] at h
    rcases h with rfl | rfl <;> simp
  · rw [ofBounds_has, max_toNat_le]
    unfold Has
    rw [and_and_and_comm]
    refine and_congr_right fun _ => ?_
    cases ha : a.max <;> cases hb : b.max <;> simp [le_min_toNat]

/-- The bounds of an intersection are among those of its parts. If the intersection is empty, it has
the bounds of the empty cardinality, which are as small as any. -/
theorem inter_atMost {a b : Cardinality} {n : Nat} (ha : a.AtMost n) (hb : b.AtMost n) :
    (a.inter b).AtMost n := by
  unfold inter
  split
  · exact empty_atMost n
  · rename_i h
    rw [Bool.or_eq_true, isEmpty_iff, isEmpty_iff, not_or] at h
    obtain ⟨hamin, hamax⟩ := ha h.1
    obtain ⟨hbmin, hbmax⟩ := hb h.2
    refine ofBounds_atMost (max_toNat_le.2 ⟨hamin, hbmin⟩) ?_
    cases hx : a.max with
    | none => cases hy : b.max <;> simp_all
    | some x =>
      have hxn := hamax x hx
      cases hy : b.max with
      | none => simpa using hxn
      | some y =>
        intro m hm
        cases hm
        exact Nat.le_trans (le_min_toNat.1 (Nat.le_refl _)).1 hxn

/-- Words are added like numbers as long as the sum is a word. -/
theorem add_toNat_of_lt {a b : UInt32} (h : a.toNat + b.toNat < UInt32.size) :
    (a + b).toNat = a.toNat + b.toNat := by
  rw [UInt32.toNat_add]
  exact Nat.mod_eq_of_lt h

/-- A sum that is cut off is the greatest word. -/
theorem saturatingSum_toNat (a b : UInt32) :
    (saturatingSum a b).toNat = Min.min (a.toNat + b.toNat) (UInt32.size - 1) := by
  unfold saturatingSum
  split
  · rename_i h
    rw [add_toNat_of_lt h]
    omega
  · rename_i h
    have hlast : (UInt32.ofNat (UInt32.size - 1)).toNat = UInt32.size - 1 := rfl
    omega

/-- A sum of words that is checked is there exactly if it is a word. -/
theorem sum?_eq_some_iff {a b m : UInt32} : sum? a b = some m ↔ a.toNat + b.toNat = m.toNat := by
  unfold sum?
  split
  · rename_i h
    rw [Option.some_inj, ← UInt32.toNat_inj, add_toNat_of_lt h]
  · rename_i h
    have : m.toNat < UInt32.size := m.toNat_lt
    exact iff_of_false (by simp) (by omega)

/-- The empty cardinality absorbs on the left of a sum, since there is nothing to add to. -/
@[simp] theorem empty_add (a : Cardinality) : empty + a = empty := by
  change empty.add a = empty
  simp [add, isEmpty_iff]

/-- The empty cardinality absorbs on the right of a sum. -/
@[simp] theorem add_empty (a : Cardinality) : a + empty = empty := by
  change a.add empty = empty
  simp [add, isEmpty_iff]

/-- The bounds of a sum are the sums of the bounds: the least one cut off at the greatest word, the
greatest one only if it is a word. -/
theorem add_bounds {a b : Cardinality} (ha : a ≠ empty) (hb : b ≠ empty) :
    (a + b).min.toNat = Min.min (a.min.toNat + b.min.toNat) (UInt32.size - 1) ∧
    ∀ m, (a + b).max = some m ↔
      ∃ x y, a.max = some x ∧ b.max = some y ∧ x.toNat + y.toNat = m.toNat := by
  obtain ⟨u, hu, hmax⟩ : ∃ u, a + b = ofBounds (saturatingSum a.min b.min) u ∧ ∀ m, u = some m ↔
      ∃ x y, a.max = some x ∧ b.max = some y ∧ x.toNat + y.toNat = m.toNat := by
    change ∃ u, a.add b = _ ∧ _
    unfold add
    rw [if_neg (by simp [isEmpty_iff, ha, hb])]
    refine ⟨_, rfl, fun m => ?_⟩
    cases a.max <;> cases b.max <;> simp [sum?_eq_some_iff]
  have horder : ∀ m, u = some m → saturatingSum a.min b.min ≤ m := by
    intro m hm
    obtain ⟨x, y, hx, hy, hxy⟩ := (hmax m).1 hm
    have := min_le_max ha hx
    have := min_le_max hb hy
    rw [UInt32.le_iff_toNat_le, saturatingSum_toNat]
    omega
  rw [hu, (ofBounds_bounds horder).1, (ofBounds_bounds horder).2]
  exact ⟨saturatingSum_toNat _ _, hmax⟩

/-- What a sum has: everything from the least count on, which may be cut off, up to the greatest
one, if that is a word. -/
theorem add_has_iff {a b : Cardinality} (ha : a ≠ empty) (hb : b ≠ empty) {k : Nat} :
    (a + b).Has k ↔ Min.min (a.min.toNat + b.min.toNat) (UInt32.size - 1) ≤ k ∧
      ∀ x y, a.max = some x → b.max = some y → x.toNat + y.toNat < UInt32.size →
        k ≤ x.toNat + y.toNat := by
  obtain ⟨hmin, hmax⟩ := add_bounds ha hb
  unfold Has
  rw [hmin]
  refine and_congr_right fun _ => ⟨fun h x y hx hy hxy => ?_, fun h m hm => ?_⟩
  · have hword := add_toNat_of_lt hxy
    rw [← hword]
    exact h _ ((hmax _).2 ⟨x, y, hx, hy, hword.symm⟩)
  · obtain ⟨x, y, hx, hy, hxy⟩ := (hmax m).1 hm
    rw [← hxy]
    exact h x y hx hy (hxy ▸ m.toNat_lt)

/-- The sums of a number in one range and a number in another fill the range between the sums of
the bounds. There is no gap, since either summand can be moved by one as long as it is not at a
bound. -/
theorem exists_sum_iff {a b : Cardinality} (ha : a ≠ empty) (hb : b ≠ empty) {k : Nat} :
    (∃ i j, i + j = k ∧ a.Has i ∧ b.Has j) ↔
      a.min.toNat + b.min.toNat ≤ k ∧
      ∀ x y, a.max = some x → b.max = some y → k ≤ x.toNat + y.toNat := by
  constructor
  · rintro ⟨i, j, rfl, ⟨hi, hi'⟩, hj, hj'⟩
    exact ⟨Nat.add_le_add hi hj, fun x y hx hy => Nat.add_le_add (hi' x hx) (hj' y hy)⟩
  · rintro ⟨hmin, hmax⟩
    -- as little of `a` as there may be, or what the greatest count of `b` leaves
    cases hy : b.max with
    | none =>
      exact ⟨a.min.toNat, k - a.min.toNat, by omega, has_min ha, by omega, by simp [hy]⟩
    | some y =>
      have hby := min_le_max hb hy
      refine ⟨Max.max a.min.toNat (k - y.toNat), k - Max.max a.min.toNat (k - y.toNat), by omega,
        ⟨by omega, fun x hx => ?_⟩, by omega, fun y' hy' => ?_⟩
      · have := min_le_max ha hx
        have := hmax x y hx hy
        omega
      · obtain rfl : y = y' := Option.some_inj.1 (hy.symm.trans hy')
        omega

/-- The sum has the sums, if no sum of bounds is cut off. `AtMost` is how later results know this:
the bounds that counting meets are at most the number of edges. -/
theorem add_has {a b : Cardinality} {m n k : Nat} (ham : a.AtMost m) (hbn : b.AtMost n)
    (hmn : m + n < UInt32.size) : (a + b).Has k ↔ ∃ i j, i + j = k ∧ a.Has i ∧ b.Has j := by
  by_cases ha : a = empty
  · simp [ha]
  by_cases hb : b = empty
  · simp [hb]
  obtain ⟨hamin, hamax⟩ := ham ha
  obtain ⟨hbmin, hbmax⟩ := hbn hb
  rw [add_has_iff ha hb, exists_sum_iff ha hb, Nat.min_eq_left (by omega)]
  refine and_congr_right fun _ => forall₄_congr fun x y hx hy => forall_prop_of_true ?_
  have := hamax x hx
  have := hbmax y hy
  omega

/-- The bounds of a sum are at most the sum of the bounds. Cutting off makes them smaller, or gives
them up. -/
theorem add_atMost {a b : Cardinality} {m n : Nat} (ham : a.AtMost m) (hbn : b.AtMost n) :
    (a + b).AtMost (m + n) := by
  by_cases ha : a = empty
  · simp [ha]
  by_cases hb : b = empty
  · simp [hb]
  obtain ⟨hamin, hamax⟩ := ham ha
  obtain ⟨hbmin, hbmax⟩ := hbn hb
  obtain ⟨hmin, hmax⟩ := add_bounds ha hb
  refine fun _ => ⟨by omega, fun u hu => ?_⟩
  obtain ⟨x, y, hx, hy, hxy⟩ := (hmax u).1 hu
  have := hamax x hx
  have := hbmax y hy
  omega

/-- The sums of `k` counts of a cardinality. Without a greatest count every number from `k` times
the least one on is such a sum, but the sum of no counts is zero. -/
def HasTimes (c : Cardinality) (k j : Nat) : Prop :=
  k * c.min.toNat ≤ j ∧ (∀ m, c.max = some m → j ≤ k * m.toNat) ∧ (k = 0 → j = 0)

/-- No counts sum up to nothing. -/
theorem hasTimes_zero {c : Cardinality} {j : Nat} : c.HasTimes 0 j ↔ j = 0 := by
  constructor
  · exact fun h => h.2.2 rfl
  · rintro rfl
    exact ⟨by simp, fun m _ => by simp, fun _ => rfl⟩

/-- One more count is a count and the sum of the others. The counts between the bounds leave no gap,
so every number between the sums of the bounds is such a sum. -/
theorem hasTimes_succ {c : Cardinality} (hc : c ≠ empty) {k j : Nat} :
    c.HasTimes (k + 1) j ↔ ∃ i j', i + j' = j ∧ c.Has i ∧ c.HasTimes k j' := by
  have hle := fun m => min_le_max (m := m) hc
  unfold HasTimes Has
  cases hmax : c.max with
  | none =>
    simp only [reduceCtorEq, false_imp_iff, implies_true, and_true, true_and, Nat.add_one_ne_zero,
      Nat.add_mul, Nat.one_mul]
    constructor
    · intro h
      by_cases hk : k = 0
      · subst hk
        exact ⟨j, 0, by simp, by omega, by simp⟩
      · exact ⟨c.min.toNat, j - c.min.toNat, by omega, Nat.le_refl _, by omega, by omega⟩
    · rintro ⟨i, j', rfl, hi, hj, _⟩
      omega
  | some m =>
    have hm := hle m hmax
    have hk : k * c.min.toNat ≤ k * m.toNat := Nat.mul_le_mul_left k hm
    simp only [Option.some.injEq, forall_eq', Nat.add_one_ne_zero, false_imp_iff, and_true,
      Nat.add_mul, Nat.one_mul]
    constructor
    · rintro ⟨h1, h2⟩
      refine ⟨Max.max c.min.toNat (j - k * m.toNat), j - Max.max c.min.toNat (j - k * m.toNat), ?_⟩
      refine ⟨by omega, by omega, by omega, by omega, fun h0 => ?_⟩
      subst h0
      omega
    · rintro ⟨i, j', rfl, ⟨hi, hi'⟩, hj, hj', _⟩
      omega

/-- A word is zero if it is zero as a number. -/
theorem eq_zero_iff_toNat {w : UInt32} : w = 0 ↔ w.toNat = 0 := by
  rw [← UInt32.toNat_inj]
  rfl

/-- How many whole groups of `m` hold `n` things, rounded up. The quotient is a word since `m` is at
least one. -/
theorem ceilDiv_toNat_le {n m : UInt32} (hn : n ≠ 0) (hm : m ≠ 0) {k : Nat} :
    (UInt32.ofNat ((n.toNat + m.toNat - 1) / m.toNat)).toNat ≤ k ↔ n.toNat ≤ k * m.toNat := by
  have hn := Nat.pos_of_ne_zero (mt eq_zero_iff_toNat.2 hn)
  have hm := Nat.pos_of_ne_zero (mt eq_zero_iff_toNat.2 hm)
  have hle : (n.toNat + m.toNat - 1) / m.toNat ≤ n.toNat := by
    refine Nat.div_le_of_le_mul ?_
    obtain ⟨a, ha⟩ := Nat.exists_eq_add_of_lt hm
    obtain ⟨b, hb⟩ := Nat.exists_eq_add_of_lt hn
    rw [ha, hb, Nat.mul_add, Nat.add_mul]
    omega
  rw [UInt32.toNat_ofNat_of_lt' (Nat.lt_of_le_of_lt hle n.toNat_lt),
    Nat.div_le_iff_le_mul_add_pred hm, Nat.mul_comm]
  omega

/-- The quotient of a number has the numbers of groups into which it can be divided. The least
number of groups comes from the greatest size of one, rounded up, and the greatest from the least
size, rounded down. -/
theorem quot_has {n : UInt32} {c : Cardinality} (hc : c ≠ empty) {k : Nat} :
    (quot n c).Has k ↔ c.HasTimes k n.toNat := by
  unfold quot HasTimes
  rw [if_neg (by rwa [isEmpty_iff])]
  by_cases hn : n = 0
  · rw [if_pos hn, eq_zero_iff_toNat.1 hn]
    by_cases hmin : c.min = 0
    · rw [if_pos hmin, eq_zero_iff_toNat.1 hmin]
      simp
    · rw [if_neg hmin]
      have := mt eq_zero_iff_toNat.2 hmin
      simp only [zero_has, Nat.le_zero, Nat.mul_eq_zero, this, or_false, Nat.zero_le]
      simp
  · have hn' := mt eq_zero_iff_toNat.2 hn
    rw [if_neg hn]
    have hupper : (∀ u, (if c.min = 0 then none else some (n / c.min)) = some u → k ≤ u.toNat) ↔
        k * c.min.toNat ≤ n.toNat := by
      by_cases hmin : c.min = 0
      · simp [hmin]
      · have hpos := Nat.pos_of_ne_zero (mt eq_zero_iff_toNat.2 hmin)
        simp [hmin, UInt32.toNat_div, Nat.le_div_iff_mul_le hpos]
    cases hmax : c.max with
    | none =>
      rw [ofBounds_has, hupper]
      simp only [reduceCtorEq, false_imp_iff, implies_true, true_and]
      rw [and_comm]
      refine and_congr_right fun _ => ?_
      change 1 ≤ k ↔ _
      omega
    | some m =>
      simp only [Option.some.injEq, forall_eq']
      by_cases hm : m = 0
      · rw [if_pos hm, eq_zero_iff_toNat.1 hm]
        refine iff_of_false (not_empty_has k) ?_
        omega
      · rw [if_neg hm, ofBounds_has, hupper, ceilDiv_toNat_le hn hm, and_comm]
        refine and_congr_right fun _ => ⟨fun h => ⟨h, fun h0 => ?_⟩, fun h => h.1⟩
        subst h0
        omega

/-- There are never more groups than things that are divided, as far as the number of groups is
bounded. -/
theorem quot_atMost {n : UInt32} {c : Cardinality} : (quot n c).AtMost n.toNat := by
  unfold quot
  split
  · exact empty_atMost _
  split
  · split
    · exact star_atMost _
    · exact exactly_atMost (Nat.zero_le _)
  · rename_i hn
    have hpos := Nat.pos_of_ne_zero (mt eq_zero_iff_toNat.2 hn)
    have hupper : ∀ u, (if c.min = 0 then none else some (n / c.min)) = some u →
        u.toNat ≤ n.toNat := by
      intro u hu
      split at hu
      · cases hu
      · cases hu
        rw [UInt32.toNat_div]
        exact Nat.div_le_self _ _
    cases c.max with
    | none => exact ofBounds_atMost hpos hupper
    | some m =>
      by_cases hm : m = 0
      · simp [hm]
      · have hm' := Nat.pos_of_ne_zero (mt eq_zero_iff_toNat.2 hm)
        simp only [if_neg hm]
        exact ofBounds_atMost ((ceilDiv_toNat_le hn hm).2 (Nat.le_mul_of_pos_right _ hm')) hupper

end Shex.Cardinality
