import Mathlib.Algebra.GroupWithZero.Nat
import Mathlib.Tactic.ByContra
import Shex.Proofs.Counts

/-!
# The algebra of cardinalities

The operations on cardinalities compute with the bounds, which are words. What they are meant to
compute is said of the counts: `inter` contains the common ones, `+` the sums, and `quot n c` the
numbers of groups of `c` into which `n` can be divided (`algebra_exact`). It is also what they
compute, for sums as long as the least one is a word.

Two cardinalities with the same counts are equal (`eq_of_has`), and the laws of `inter` are those of
the conjunction. A sum that is cut off contains numbers that are no sums, so the laws of `+` do not
come from its counts but from its bounds. They are those of addition, cut off or dropped at the
greatest word, and whether and where this happens does not depend on the order in which three are
added (`add_add_bounds`).
-/

namespace Shex.Cardinality

variable {a b c : Cardinality}

/-! ### Equality -/

/-- A cardinality is its two bounds. -/
theorem eq_of_bounds (hmin : a.min = b.min) (hmax : a.max = b.max) : a = b := by
  rw [← ofBounds_min_max a, hmin, hmax, ofBounds_min_max]

/-- The greatest count is the one after which there is none. It is stated with counts that need not
be words, so that the greatest word can be told from no bound. -/
theorem max_eq_some_iff (ha : a ≠ empty) {m : UInt32} :
    a.max = some m ↔ a.Has m.toNat ∧ ¬ a.Has (m.toNat + 1) := by
  constructor
  · intro hm
    refine ⟨⟨min_le_max ha hm, fun m' hm' => ?_⟩, fun h => Nat.lt_irrefl _ (h.2 m hm)⟩
    exact Nat.le_of_eq (congrArg _ (Option.some_inj.1 (hm.symm.trans hm')))
  · rintro ⟨⟨hmin, hmax⟩, hnext⟩
    cases hm : a.max with
    | none => exact absurd ⟨Nat.le_succ_of_le hmin, by simp [hm]⟩ hnext
    | some m' =>
      have hle := hmax m' hm
      have hlt : ¬ m.toNat + 1 ≤ m'.toNat := fun h =>
        hnext ⟨Nat.le_succ_of_le hmin, fun _ hm'' => Option.some_inj.1 (hm.symm.trans hm'') ▸ h⟩
      rw [Option.some_inj, ← UInt32.toNat_inj]
      omega

/-- Cardinalities with the same counts are equal: their bounds can be read off the counts, and for
the empty one there is only one pair of bounds. -/
theorem eq_of_has (h : ∀ k, a.Has k ↔ b.Has k) : a = b := by
  have hempty : a = empty ↔ b = empty := by
    rw [← not_iff_not, ← Ne, ← Ne, ← exists_has_iff, ← exists_has_iff, exists_congr h]
  by_cases ha : a = empty
  · rw [ha, hempty.1 ha]
  have hb := mt hempty.2 ha
  refine eq_of_bounds (UInt32.toNat_inj.1 (Nat.le_antisymm ?_ ?_)) (Option.ext fun m => ?_)
  · exact ((h _).2 (has_min hb)).1
  · exact ((h _).1 (has_min ha)).1
  · rw [max_eq_some_iff ha, max_eq_some_iff hb, h, h]

/-- Only the empty cardinality contains no word, since every other one contains its least count. -/
theorem eq_empty_iff_contains : a = empty ↔ ∀ k, ¬ a.contains k := by
  constructor
  · rintro rfl k hk
    exact not_empty_has _ (contains_iff_has.1 hk)
  · intro h
    by_contra ha
    exact h a.min (contains_iff_has.2 (has_min ha))

/-- A count that is a word is contained. Counts are numbers and what is contained are words, so this
is where the proofs come back from the former to the latter. -/
theorem Has.exists_contains {k : Nat} (h : a.Has k) (hk : k < UInt32.size) :
    ∃ w : UInt32, w.toNat = k ∧ a.contains w := by
  have hword : (UInt32.ofNat k).toNat = k := UInt32.toNat_ofNat_of_lt' hk
  exact ⟨.ofNat k, hword, contains_iff_has.2 (hword.symm ▸ h)⟩

/-- The greatest count is less than the least one. -/
def Crossed (a : Cardinality) : Prop := ∃ m, a.max = some m ∧ m < a.min

/-- Bounds are crossed in the empty cardinality only, which is the reason why it stands for all of
them. -/
theorem crossed_iff : a.Crossed ↔ a = empty := by
  constructor
  · rintro ⟨m, hm, hlt⟩
    by_contra ha
    exact UInt32.not_le.2 hlt (UInt32.le_iff_toNat_le.2 (min_le_max ha hm))
  · rintro rfl
    exact ⟨0, rfl, by decide⟩

/-! ### Intersections -/

/-- A word is in an intersection if it is in both cardinalities. The bounds are compared and nothing
is added, so nothing can be cut off. -/
theorem inter_contains {k : UInt32} : (a.inter b).contains k ↔ a.contains k ∧ b.contains k := by
  rw [contains_iff_has, contains_iff_has, contains_iff_has, inter_has]

/-- Intersection is commutative, as the counts of both sides are the same. -/
theorem inter_comm (a b : Cardinality) : a.inter b = b.inter a :=
  eq_of_has fun k => by rw [inter_has, inter_has, and_comm]

/-- Intersection is associative, as the counts of both sides are the same. -/
theorem inter_assoc (a b c : Cardinality) : (a.inter b).inter c = a.inter (b.inter c) :=
  eq_of_has fun k => by simp only [inter_has, and_assoc]

/-- A cardinality without bounds is neutral on the left of an intersection. -/
@[simp] theorem star_inter (a : Cardinality) : star.inter a = a :=
  eq_of_has fun k => by simp [inter_has]

/-- A cardinality without bounds is neutral on the right of an intersection. -/
@[simp] theorem inter_star (a : Cardinality) : a.inter star = a :=
  eq_of_has fun k => by simp [inter_has]

/-- Only cardinalities without a common word have the empty intersection. So the result is
canonical: no other crossed pair of bounds stands for it. -/
theorem inter_eq_empty_iff : a.inter b = empty ↔ ∀ k, ¬ (a.contains k ∧ b.contains k) := by
  simp only [eq_empty_iff_contains, inter_contains]

/-! ### Sums -/

/-- A word is a sum of two words that are contained iff it is one of two counts. The parts of a sum
that is a word are words. -/
theorem exists_word_sum_iff {k : UInt32} :
    (∃ i j : UInt32, i.toNat + j.toNat = k.toNat ∧ a.contains i ∧ b.contains j) ↔
      ∃ i j, i + j = k.toNat ∧ a.Has i ∧ b.Has j := by
  constructor
  · rintro ⟨i, j, hk, hi, hj⟩
    exact ⟨i.toNat, j.toNat, hk, contains_iff_has.1 hi, contains_iff_has.1 hj⟩
  · rintro ⟨i, j, hk, hi, hj⟩
    have hlt : k.toNat < UInt32.size := k.toNat_lt
    obtain ⟨v, rfl, hv⟩ := hi.exists_contains (by omega)
    obtain ⟨w, rfl, hw⟩ := hj.exists_contains (by omega)
    exact ⟨v, w, hk, hv, hw⟩

/-- A sum whose least count is a word contains those sums that are words. The greatest count may be
cut off, which takes nothing away since no greater word exists. -/
theorem add_contains {k : UInt32} (h : a.min.toNat + b.min.toNat < UInt32.size) :
    (a + b).contains k ↔
      ∃ i j : UInt32, i.toNat + j.toNat = k.toNat ∧ a.contains i ∧ b.contains j := by
  rw [contains_iff_has, exists_word_sum_iff]
  by_cases ha : a = empty
  · simp [ha]
  by_cases hb : b = empty
  · simp [hb]
  rw [add_has_iff ha hb, exists_sum_iff ha hb, Nat.min_eq_left (by omega)]
  refine and_congr_right fun _ => forall₄_congr fun x y hx hy => ?_
  -- a sum of greatest counts that is dropped is greater than every word
  have hlt : k.toNat < UInt32.size := k.toNat_lt
  omega

/-- Cutting off leaves something of every sum, so a sum is empty only if one of its parts is: a
least number that is too large is cut off, and a greatest one is given up. -/
theorem add_eq_empty_iff : a + b = empty ↔ a = empty ∨ b = empty := by
  constructor
  · intro h
    by_contra hab
    obtain ⟨ha, hb⟩ := not_or.1 hab
    obtain ⟨hmin, hmax⟩ := add_bounds ha hb
    rw [h] at hmin hmax
    -- greatest counts that add up to zero are zero, and so are the least ones
    obtain ⟨x, y, hx, hy, hxy⟩ := (hmax 0).1 rfl
    have := min_le_max ha hx
    have := min_le_max hb hy
    change 1 = _ at hmin
    change _ = 0 at hxy
    omega
  · rintro (rfl | rfl) <;> simp

/-- Addition is commutative, also where it cuts off. -/
protected theorem add_comm (a b : Cardinality) : a + b = b + a := by
  by_cases ha : a = empty
  · simp [ha]
  by_cases hb : b = empty
  · simp [hb]
  obtain ⟨hmin, hmax⟩ := add_bounds ha hb
  obtain ⟨hmin', hmax'⟩ := add_bounds hb ha
  refine eq_of_bounds (UInt32.toNat_inj.1 (by omega)) (Option.ext fun m => ?_)
  rw [hmax, hmax', exists_comm]
  refine exists_congr fun y => exists_congr fun x => ?_
  rw [and_left_comm, Nat.add_comm]

/-- The bounds of a sum of three: cutting off twice is cutting off once, and a sum of three words is
a word only if that of the first two is. -/
theorem add_add_bounds (ha : a ≠ empty) (hb : b ≠ empty) (hc : c ≠ empty) :
    (a + b + c).min.toNat =
      Min.min (a.min.toNat + b.min.toNat + c.min.toNat) (UInt32.size - 1) ∧
    ∀ m, (a + b + c).max = some m ↔ ∃ x y z, a.max = some x ∧ b.max = some y ∧ c.max = some z ∧
      x.toNat + y.toNat + z.toNat = m.toNat := by
  have hab : a + b ≠ empty := fun h => (add_eq_empty_iff.1 h).elim ha hb
  obtain ⟨hmin, hmax⟩ := add_bounds ha hb
  obtain ⟨hmin', hmax'⟩ := add_bounds hab hc
  refine ⟨by omega, fun m => ?_⟩
  rw [hmax']
  constructor
  · rintro ⟨s, z, hs, hz, hm⟩
    obtain ⟨x, y, hx, hy, hxy⟩ := (hmax s).1 hs
    exact ⟨x, y, z, hx, hy, hz, by rw [hxy, hm]⟩
  · rintro ⟨x, y, z, hx, hy, hz, hm⟩
    have hlt : m.toNat < UInt32.size := m.toNat_lt
    have hxy : (x + y).toNat = x.toNat + y.toNat := add_toNat_of_lt (by omega)
    exact ⟨x + y, z, (hmax _).2 ⟨x, y, hx, hy, hxy.symm⟩, hz, by rw [hxy, hm]⟩

/-- Addition is associative, also where it cuts off: both sides have the bounds of `add_add_bounds`,
in which the three parts are alike. -/
protected theorem add_assoc (a b c : Cardinality) : a + b + c = a + (b + c) := by
  by_cases ha : a = empty
  · simp [ha]
  by_cases hb : b = empty
  · simp [hb]
  by_cases hc : c = empty
  · simp [hc]
  rw [Cardinality.add_comm a (b + c)]
  obtain ⟨hmin, hmax⟩ := add_add_bounds ha hb hc
  obtain ⟨hmin', hmax'⟩ := add_add_bounds hb hc ha
  refine eq_of_bounds (UInt32.toNat_inj.1 (by omega)) (Option.ext fun m => ?_)
  rw [hmax, hmax']
  constructor
  · rintro ⟨x, y, z, hx, hy, hz, hm⟩
    exact ⟨y, z, x, hy, hz, hx, by omega⟩
  · rintro ⟨y, z, x, hy, hz, hx, hm⟩
    exact ⟨x, y, z, hx, hy, hz, by omega⟩

/-- The cardinality of no occurrence is neutral on the left of a sum. Nothing is cut off, since the
bounds of the other part are words already. -/
@[simp] protected theorem zero_add (a : Cardinality) : zero + a = a := by
  by_cases ha : a = empty
  · simp [ha]
  obtain ⟨hmin, hmax⟩ := add_bounds (a := zero) (by decide) ha
  refine eq_of_bounds (UInt32.toNat_inj.1 ?_) (Option.ext fun m => ?_)
  · have hlt : a.min.toNat < UInt32.size := a.min.toNat_lt
    change _ = Min.min (0 + _) _ at hmin
    omega
  · rw [hmax]
    constructor
    · rintro ⟨x, y, hx, hy, hxy⟩
      obtain rfl : 0 = x := Option.some_inj.1 hx
      rw [hy, UInt32.toNat_inj.1 ((Nat.zero_add _).symm.trans hxy)]
    · exact fun hm => ⟨0, m, rfl, hm, Nat.zero_add _⟩

/-- The cardinality of no occurrence is neutral on the right of a sum. -/
@[simp] protected theorem add_zero (a : Cardinality) : a + zero = a := by
  rw [Cardinality.add_comm, Cardinality.zero_add]

/-! ### Divisions -/

/-- A number is divided into groups, whose sizes are counts of a cardinality. -/
def IsDivision (c : Cardinality) (n : Nat) (groups : List UInt32) : Prop :=
  (groups.map UInt32.toNat).sum = n ∧ ∀ g ∈ groups, c.contains g

/-- A division into groups is a first group and a division of the rest. -/
theorem isDivision_cons {g : UInt32} {groups : List UInt32} {n : Nat} :
    c.IsDivision n (g :: groups) ↔
      ∃ n', g.toNat + n' = n ∧ c.contains g ∧ c.IsDivision n' groups := by
  simp [IsDivision, and_left_comm]

/-- The sums of `k` counts are what can be divided into `k` groups. For a number that is a word all
groups are words, and so the groups can be listed as such. -/
theorem hasTimes_iff_division (hc : c ≠ empty) {k n : Nat} (hn : n < UInt32.size) :
    c.HasTimes k n ↔ ∃ groups, groups.length = k ∧ c.IsDivision n groups := by
  induction k generalizing n with
  | zero =>
    rw [hasTimes_zero]
    simp [IsDivision, @eq_comm _ n]
  | succ k ih =>
    rw [hasTimes_succ hc]
    constructor
    · rintro ⟨i, n', rfl, hi, hn'⟩
      obtain ⟨groups, hlen, hgroups⟩ := (ih (by omega)).1 hn'
      obtain ⟨g, rfl, hg⟩ := hi.exists_contains (by omega)
      exact ⟨g :: groups, by rw [List.length_cons, hlen], isDivision_cons.2 ⟨n', rfl, hg, hgroups⟩⟩
    · rintro ⟨_ | ⟨g, groups⟩, hlen, h⟩
      · cases hlen
      · obtain ⟨n', rfl, hg, hgroups⟩ := isDivision_cons.1 h
        exact ⟨g.toNat, n', rfl, contains_iff_has.1 hg,
          (ih (by omega)).2 ⟨groups, Nat.succ.inj hlen, hgroups⟩⟩

/-- The counts of a quotient are the numbers of groups into which a word can be divided. This
restates what the bounds of `quot` mean in terms of actual divisions. -/
theorem quot_has_iff (hc : c ≠ empty) {n : UInt32} {k : Nat} :
    (quot n c).Has k ↔ ∃ groups, groups.length = k ∧ c.IsDivision n.toNat groups := by
  rw [quot_has hc, hasTimes_iff_division hc n.toNat_lt]

/-- The division is empty if there is none, into whatever number of groups. Only the lower bound
needs care: if there is a division, one of the numbers of groups is a word. -/
theorem quot_eq_empty_iff (hc : c ≠ empty) {n : UInt32} :
    quot n c = empty ↔ ∀ groups, ¬ c.IsDivision n.toNat groups := by
  rw [← not_iff_not, ← Ne, ← exists_has_iff, not_forall_not]
  simp only [quot_has_iff hc]
  constructor
  · rintro ⟨_, groups, -, h⟩
    exact ⟨groups, h⟩
  · rintro ⟨groups, h⟩
    exact ⟨_, groups, rfl, h⟩

/-! ### The algebra -/

/-- The operations contain the words that they are meant to contain, where no least count is cut
off, and their laws hold without exception. Bounds are crossed in the empty cardinality only, and
that is the result exactly if there is nothing to be contained. -/
theorem algebra_exact (a b c : Cardinality) (n k : UInt32) :
    ((a.inter b).contains k ↔ a.contains k ∧ b.contains k) ∧
    (a.min.toNat + b.min.toNat < UInt32.size → ((a + b).contains k ↔
      ∃ i j : UInt32, i.toNat + j.toNat = k.toNat ∧ a.contains i ∧ b.contains j)) ∧
    (c ≠ empty → ((quot n c).contains k ↔
      ∃ groups, groups.length = k.toNat ∧ c.IsDivision n.toNat groups)) ∧
    (a + b = b + a ∧ a + b + c = a + (b + c) ∧ zero + a = a ∧ a + zero = a) ∧
    (a.inter b = b.inter a ∧ (a.inter b).inter c = a.inter (b.inter c) ∧
      star.inter a = a ∧ a.inter star = a) ∧
    (((a.inter b).Crossed ↔ a.inter b = empty) ∧
      (a.inter b = empty ↔ ∀ i, ¬ (a.contains i ∧ b.contains i))) ∧
    (((a + b).Crossed ↔ a + b = empty) ∧ (a + b = empty ↔ a = empty ∨ b = empty)) ∧
    ((quot n c).Crossed ↔ quot n c = empty) ∧
      (quot n c = empty ↔ c = empty ∨ ∀ groups, ¬ c.IsDivision n.toNat groups) := by
  refine ⟨inter_contains, add_contains, fun hc => ?_,
    ⟨Cardinality.add_comm a b, Cardinality.add_assoc a b c, a.zero_add, a.add_zero⟩,
    ⟨inter_comm a b, inter_assoc a b c, star_inter a, inter_star a⟩,
    ⟨crossed_iff, inter_eq_empty_iff⟩, ⟨crossed_iff, add_eq_empty_iff⟩, crossed_iff, ?_⟩
  · rw [contains_iff_has, quot_has_iff hc]
  · by_cases hc : c = empty
    · simp [hc, quot, isEmpty_iff]
    · rw [quot_eq_empty_iff hc, or_iff_right hc]

-- the greatest word is no sum of one and a word that is not less
example : (atLeast 4294967295 + one).contains 4294967295 = true := by decide

/-- Every word but zero. -/
def positive : Cardinality := ofBounds 1 (some 4294967295)

/-- Two or three. -/
def twoOrThree : Cardinality := ofBounds 2 (some 3)

/-- The sum of the greatest counts is no word here, and there are many ways of dividing the greatest
word. -/
theorem greatestWord_exact :
    (positive.min.toNat + twoOrThree.min.toNat < UInt32.size ∧ twoOrThree ≠ empty) ∧
    (∃ i j : UInt32, i.toNat + j.toNat = 2000000000 ∧ positive.contains i ∧
      twoOrThree.contains j) ∧
    ∃ groups, groups.length = 2000000000 ∧ twoOrThree.IsDivision 4294967295 groups := by
  have hmin : positive.min.toNat + twoOrThree.min.toNat < UInt32.size := by decide
  have hne : twoOrThree ≠ empty := by decide
  obtain ⟨-, hsum, hquot, -⟩ := algebra_exact positive twoOrThree twoOrThree 4294967295 2000000000
  exact ⟨⟨hmin, hne⟩, (hsum hmin).1 (by decide), (hquot hne).1 (by decide)⟩

end Shex.Cardinality
