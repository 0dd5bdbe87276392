import Shex.Proofs.Counting

/-!
# Numbers of repetitions

The interval that is computed for a single-occurrence expression is exact in both bounds: it has the
numbers `k` for which the bag, restricted to the constraints of the expression, is a sum of `k` bags
of the expression (`TripleExpr.interval_exact`). These are natural numbers, not words: since no
bound is greater than the bag, no least count is cut off, and no greatest count is lost because it
is not a word.
-/

namespace Shex

namespace BagLanguage

variable {α : Type} {L : BagLanguage α}

/-- The sums of `k` bags are the sums of the lists of `k` bags. Lists are easier to cut and to put
together than iterated sums of languages. -/
theorem mem_times_iff_exists_list {k : Nat} {M : Multiset α} :
    M ∈ times L k ↔ ∃ Ms : List (Multiset α), Ms.length = k ∧ (∀ N ∈ Ms, N ∈ L) ∧ Ms.sum = M := by
  induction k generalizing M with
  | zero =>
    constructor
    · intro h
      exact ⟨[], rfl, by simp, (Set.mem_zero.1 h).symm⟩
    · rintro ⟨Ms, hlen, -, rfl⟩
      obtain rfl := List.length_eq_zero_iff.1 hlen
      exact Set.mem_zero.2 rfl
  | succ k ih =>
    rw [times_succ]
    constructor
    · intro h
      obtain ⟨N, hN, K, hK, rfl⟩ := Set.mem_add.1 h
      obtain ⟨Ms, hlen, hMs, rfl⟩ := ih.1 hK
      exact ⟨N :: Ms, by simp [hlen], List.forall_mem_cons.2 ⟨hN, hMs⟩, List.sum_cons⟩
    · rintro ⟨Ms, hlen, hMs, rfl⟩
      obtain ⟨N, Ms, rfl⟩ := List.exists_cons_of_length_eq_add_one hlen
      rw [List.forall_mem_cons] at hMs
      rw [List.sum_cons]
      exact Set.add_mem_add hMs.1 (ih.2 ⟨Ms, by simpa using hlen, hMs.2, rfl⟩)

end BagLanguage

namespace TripleExpr

/-- A bag is a sum of `k` bags that each match the expression. -/
def IsSumOf (e : TripleExpr) (k : Nat) (M : Multiset ExprId) : Prop :=
  ∃ Ms : List (Multiset ExprId), Ms.length = k ∧ (∀ N ∈ Ms, N ∈ e.bags) ∧ Ms.sum = M

/-- A single-occurrence expression without empty cardinalities has an interval for every bag, and it
has the numbers of repetitions that make up what the bag has of the constraints of the expression.
Its bounds are no greater than that part of the bag. -/
theorem interval_exact {e : TripleExpr} (hs : e.isSorbe = true) (ha : e.avoidsEmpty = true)
    {b : Bag} (hb : b.length < UInt32.size) :
    ∃ i, e.interval b = .ok i ∧
      (∀ k : Nat, i.Has k ↔ e.IsSumOf k (b.part e.constraintIds)) ∧
      (∀ k : UInt32, i.contains k = true ↔ e.IsSumOf k.toNat (b.part e.constraintIds)) ∧
      i.AtMost (b.part e.constraintIds).card := by
  rw [isSorbe, Bool.and_eq_true, decide_eq_true_iff] at hs
  obtain ⟨hcountable, hnodup⟩ := hs
  obtain ⟨i, hi⟩ := interval_total b hcountable
  have hcounts := interval_counts hb hcountable ha hnodup hi
  have hhas : ∀ k, i.Has k ↔ e.IsSumOf k (b.part e.constraintIds) := fun k =>
    (hcounts.has k).trans BagLanguage.mem_times_iff_exists_list
  exact ⟨i, hi, hhas, fun k => Cardinality.contains_iff_has.trans (hhas _), hcounts.atMost⟩

/-- `( p . ; ( q . {1,2} | r . )? )+` -/
def groups : TripleExpr :=
  .repeated (.written ⟨⟨0⟩, []⟩)
    (.eachOf (.written ⟨⟨1⟩, []⟩)
      [.constraint (.written ⟨⟨2⟩, []⟩) ⟨⟨"p"⟩, false⟩ none,
        .repeated (.written ⟨⟨3⟩, []⟩)
          (.oneOf (.written ⟨⟨4⟩, []⟩)
            [.repeated (.written ⟨⟨5⟩, []⟩)
                (.constraint (.written ⟨⟨6⟩, []⟩) ⟨⟨"q"⟩, false⟩ none) (.ofBounds 1 (some 2)),
              .constraint (.written ⟨⟨7⟩, []⟩) ⟨⟨"r"⟩, false⟩ none])
          .optional])
    .plus

/-- Four of `p`, three of `q` and one of `r`. -/
def eightEdges : Bag := [⟨2⟩, ⟨2⟩, ⟨2⟩, ⟨2⟩, ⟨6⟩, ⟨6⟩, ⟨6⟩, ⟨7⟩]

/-- The eight make up one, two, three or four repetitions of `groups`. -/
theorem eightEdges_isSumOf :
    (groups.isSorbe = true ∧ groups.avoidsEmpty = true ∧ eightEdges.length < UInt32.size) ∧
      ∀ k, groups.IsSumOf k (eightEdges : Multiset ExprId) ↔ 1 ≤ k ∧ k ≤ 4 := by
  refine ⟨⟨by decide, by decide, by decide⟩, fun k => ?_⟩
  obtain ⟨i, hi, hhas, -⟩ :=
    interval_exact (e := groups) (b := eightEdges) (by decide) (by decide) (by decide)
  have hinterval : groups.interval eightEdges = .ok (.ofBounds 1 (some 4)) := by decide +kernel
  obtain rfl := Except.ok.inj (hinterval.symm.trans hi)
  have hpart : eightEdges.part groups.constraintIds = eightEdges := Bag.part_eq_self (by decide)
  rw [← hpart, ← hhas, Cardinality.ofBounds_has]
  simp

end TripleExpr

end Shex
