import Shex.Matching.Interval
import Shex.Proofs.Language

/-!
# What intervals count

An interval counts a bag for a language if it contains exactly the numbers of elements of the
language that the bag is a sum of (`Cardinality.Counts`). The operations on intervals, which are
those of the counting algorithm, keep this: intersection for a group, addition for an alternative,
and the cases for a repeated expression. These lemmas are about languages, whatever expressions they
are of. What is counted for an expression are its bags of identities (`TripleExpr.bags`).
-/

open scoped Pointwise

namespace Shex

open BagLanguage

namespace TripleExpr

/-- Every triple constraint read as the bag of its own identity. -/
def byIdentity : AtomLanguage ExprId := fun m _ _ => {({m.id} : Multiset ExprId)}

/-- The bags of identities that an expression without references stands for. -/
def bags (e : TripleExpr) : BagLanguage ExprId := e.language byIdentity fun _ => ∅

mutual

/-- Whether no repetition has the empty cardinality. -/
def avoidsEmpty : TripleExpr → Bool
  | .eachOf _ es => allAvoidEmpty es
  | .oneOf _ es => allAvoidEmpty es
  | .repeated _ e c => !c.isEmpty && e.avoidsEmpty
  | .constraint _ _ _ => true
  | .ref _ _ => true
  | .empty _ => true

/-- Whether no repetition in the expressions of a list has the empty cardinality. -/
def allAvoidEmpty : List TripleExpr → Bool
  | [] => true
  | e :: es => e.avoidsEmpty && allAvoidEmpty es

end

mutual

/-- Countable expressions have no references, so their languages do not depend on the schema.
Counting could not deal with one: the interval of a reference is not defined. -/
theorem refs_of_isCountable : ∀ {e : TripleExpr}, e.isCountable = true → e.refs = []
  | .eachOf m es, h => by
    rw [refs, refsIn_of_allCountable (by rwa [isCountable] at h)]
  | .oneOf m es, h => by
    rw [refs, refsIn_of_allCountable (by rwa [isCountable] at h)]
  | .repeated m e c, h => by
    rw [isCountable] at h
    rw [refs]
    cases e with
    | constraint => rw [refs]
    | _ =>
      simp only [isConstraint, Bool.false_or, Bool.and_eq_true] at h
      exact refs_of_isCountable h.1.2
  | .constraint m a v, _ => by rw [refs]
  | .ref m l, h => by simp [isCountable] at h
  | .empty m, _ => by rw [refs]

/-- The same for the members of a group. -/
theorem refsIn_of_allCountable : ∀ {es : List TripleExpr}, allCountable es = true → refsIn es = []
  | [], _ => by rw [refsIn]
  | e :: es, h => by
    rw [allCountable, Bool.and_eq_true] at h
    rw [refsIn, refs_of_isCountable h.1, refsIn_of_allCountable h.2, List.append_nil]

end

section
variable {α : Type} {atom : AtomLanguage α} {target : Label → BagLanguage α}

mutual

/-- Whether the empty bag matches is read off an expression rightly. It is one of the few things
that are asked of a group without counting. -/
theorem matchesEmpty_iff (hatom : ∀ m a v, 0 ∉ atom m a v) :
    ∀ {e : TripleExpr}, e.refs = [] → (e.matchesEmpty = true ↔ 0 ∈ e.language atom target)
  | .eachOf m es, hr => by
    rw [matchesEmpty, language_eachOf, allMatchEmpty_iff hatom (by rwa [refs] at hr)]
  | .oneOf m es, hr => by
    rw [matchesEmpty, language_oneOf, anyMatchesEmpty_iff hatom (by rwa [refs] at hr)]
  | .repeated m e c, hr => by
    rw [matchesEmpty, language_repeated, Bool.and_eq_true, Bool.or_eq_true, decide_eq_true_iff,
      matchesEmpty_iff hatom (by rwa [refs] at hr), Bool.not_eq_true', Bool.eq_false_iff, Ne,
      Cardinality.isEmpty_iff]
    by_cases hc : c = .empty
    · simp [hc, repeated_empty]
    · simp [hc, zero_mem_repeated hc]
  | .constraint m a v, _ => by
    rw [matchesEmpty, language_constraint]
    simp [hatom]
  | .ref m l, hr => by simp [refs] at hr
  | .empty m, _ => by simp [matchesEmpty]

/-- A group matches the empty bag if all of its members do. -/
theorem allMatchEmpty_iff (hatom : ∀ m a v, 0 ∉ atom m a v) :
    ∀ {es : List TripleExpr}, refsIn es = [] →
      (allMatchEmpty es = true ↔ 0 ∈ languageOfAll atom target es)
  | [], _ => by simp [allMatchEmpty, languageOfAll]
  | e :: es, hr => by
    rw [refsIn, List.append_eq_nil_iff] at hr
    rw [allMatchEmpty, languageOfAll, Bool.and_eq_true, zero_mem_add, matchesEmpty_iff hatom hr.1,
      allMatchEmpty_iff hatom hr.2]

/-- An alternative matches the empty bag if one of its members does. -/
theorem anyMatchesEmpty_iff (hatom : ∀ m a v, 0 ∉ atom m a v) :
    ∀ {es : List TripleExpr}, refsIn es = [] →
      (anyMatchesEmpty es = true ↔ 0 ∈ languageOfAny atom target es)
  | [], _ => by simp [anyMatchesEmpty, languageOfAny]
  | e :: es, hr => by
    rw [refsIn, List.append_eq_nil_iff] at hr
    rw [anyMatchesEmpty, languageOfAny, Bool.or_eq_true, Set.mem_union, matchesEmpty_iff hatom hr.1,
      anyMatchesEmpty_iff hatom hr.2]

end

end

/-- The empty bag is not that of a constraint. -/
theorem zero_notMem_byIdentity (m : TripleMark) (a : Arc) (v : Option ShapeExpr) :
    0 ∉ byIdentity m a v := by simp [byIdentity]

end TripleExpr

/-! ### What an interval counts -/

/-- An interval tells into how many bags of a language a bag can be divided. Its bounds are no
greater than the bag, so that sums of bounds of disjoint bags are words if their size is. -/
structure Cardinality.Counts (i : Cardinality) (L : BagLanguage ExprId) (P : Multiset ExprId) :
    Prop where
  has : ∀ k, i.Has k ↔ P ∈ times L k
  atMost : i.AtMost P.card

namespace Cardinality.Counts

variable {i j c : Cardinality} {L K : BagLanguage ExprId} {P Q : Multiset ExprId}

/-- Nothing is counted if the bag is no sum of bags of the language. -/
theorem none (h : ∀ k, P ∉ times L k) : empty.Counts L P :=
  ⟨fun k => iff_of_false (not_empty_has k) (h k), empty_atMost _⟩

/-- The empty bag is any number of empty bags, if the language has the empty bag. -/
theorem star (h : 0 ∈ L) : star.Counts L 0 :=
  ⟨fun k => iff_of_true (star_has k) (zero_mem_times.2 (.inr h)), star_atMost _⟩

/-- The empty bag is no bags if the language does not have it, and only that. -/
theorem zero (h : 0 ∉ L) : zero.Counts L 0 := by
  refine ⟨fun k => ?_, exactly_atMost (Nat.zero_le _)⟩
  rw [zero_has, zero_mem_times]
  simp [h]

section
variable {A B : ExprId → Prop}

/-- What two parts without common letters can both be divided into: `k` bags of the group are `k`
bags of either part, and the letters tell which part a bag belongs to. -/
theorem inter (hi : i.Counts L P) (hj : j.Counts K Q) (hAB : ∀ a, A a → ¬ B a) (hL : L.Over A)
    (hK : K.Over B) (hP : ∀ a ∈ P, A a) (hQ : ∀ a ∈ Q, B a) :
    (i.inter j).Counts (L + K) (P + Q) := by
  refine ⟨fun k => ?_, ?_⟩
  · rw [inter_has, hi.has, hj.has, times_sum, add_mem_add_iff hAB hL.times hK.times hP hQ]
  · rw [Multiset.card_add]
    exact inter_atMost (hi.atMost.mono (by omega)) (hj.atMost.mono (by omega))

/-- What two parts without common letters can be divided into, some of the one and some of the
other. The sum must not be cut off, hence the bound on the size of the bags. -/
theorem add (hi : i.Counts L P) (hj : j.Counts K Q) (hAB : ∀ a, A a → ¬ B a) (hL : L.Over A)
    (hK : K.Over B) (hP : ∀ a ∈ P, A a) (hQ : ∀ a ∈ Q, B a)
    (hsize : P.card + Q.card < UInt32.size) : (i + j).Counts (L ∪ K) (P + Q) := by
  refine ⟨fun k => ?_, ?_⟩
  · rw [add_has hi.atMost hj.atMost hsize, mem_times_union]
    refine exists_congr fun m => exists_congr fun n => and_congr_right fun _ => ?_
    rw [hi.has, hj.has, add_mem_add_iff hAB hL.times hK.times hP hQ]
  · rw [Multiset.card_add]
    exact add_atMost hi.atMost hj.atMost

end

/-- The bag of one constraint, several times over, is divided in one way only. -/
theorem replicate_mem_times {id : ExprId} {n k : Nat} :
    Multiset.replicate n id ∈ times {({id} : Multiset ExprId)} k ↔ n = k := by
  have htimes : ∀ k, times {({id} : Multiset ExprId)} k = {Multiset.replicate k id} := by
    intro k
    induction k with
    | zero => rfl
    | succ k ih => rw [times_succ, ih, Set.singleton_add_singleton, Multiset.singleton_add,
        Multiset.replicate_succ]
  rw [htimes, Set.mem_singleton_iff]
  exact ⟨fun h => by simpa using congrArg Multiset.card h, fun h => h ▸ rfl⟩

/-- A triple constraint under a cardinality: its occurrences are divided into groups of a size that
the cardinality admits, and into how many is what the quotient says. -/
theorem quot (hc : c ≠ empty) {id : ExprId} {n : Nat} (hn : n < UInt32.size) :
    (quot (UInt32.ofNat n) c).Counts (repeated {({id} : Multiset ExprId)} c)
      (Multiset.replicate n id) := by
  have hword : (UInt32.ofNat n).toNat = n := UInt32.toNat_ofNat_of_lt' hn
  refine ⟨fun k => ?_, ?_⟩
  · rw [quot_has hc, mem_times_repeated hc, hword]
    simp only [replicate_mem_times]
    exact ⟨fun h => ⟨n, h, rfl⟩, fun ⟨j, hj, h⟩ => h ▸ hj⟩
  · rw [Multiset.card_replicate]
    have := quot_atMost (n := UInt32.ofNat n) (c := c)
    rwa [hword] at this

/-- A triple constraint is divided into as many bags as it occurs times. -/
theorem exactly {id : ExprId} {n : Nat} (hn : n < UInt32.size) :
    (exactly (UInt32.ofNat n)).Counts {({id} : Multiset ExprId)} (Multiset.replicate n id) := by
  have hword : (UInt32.ofNat n).toNat = n := UInt32.toNat_ofNat_of_lt' hn
  refine ⟨fun k => ?_, exactly_atMost (by rw [hword, Multiset.card_replicate])⟩
  rw [exactly_has, hword, replicate_mem_times, eq_comm]

/-! Groups under a cardinality, for a bag that is not empty. -/

/-- What cannot be divided into bags of a language at all cannot be divided into groups of them. -/
theorem none_repeated (hc : c ≠ empty) (h : empty.Counts L P) : empty.Counts (repeated L c) P :=
  none fun k hk => by
    obtain ⟨j, _, hj⟩ := (mem_times_repeated hc).1 hk
    exact not_empty_has j ((h.has j).2 hj)

/-- A bag that is not empty is no sum of groups that are empty. -/
theorem repeated_zero (hP : P ≠ 0) : empty.Counts (repeated L .zero) P :=
  none fun k hk => by
    obtain ⟨j, hj, hmem⟩ := (mem_times_repeated (by decide)).1 hk
    obtain rfl : j = 0 := by simpa using hj.2.1 0 rfl
    exact hP hmem

/-- A bag that can be divided at all can be divided into any positive number of groups, since groups
may be of any size and may be empty. -/
theorem repeated_star (h : i.Counts L P) (hP : P ≠ 0) (hi : i ≠ empty) :
    plus.Counts (repeated L .star) P := by
  obtain ⟨n, hn⟩ := exists_has_iff.2 hi
  refine ⟨fun k => ?_, atLeast_atMost (Multiset.card_pos.2 hP)⟩
  rw [plus_has, mem_times_repeated (by decide)]
  constructor
  · intro hk
    refine ⟨n, ⟨?_, fun _ hm => (by cases hm), fun h0 => by omega⟩, (h.has n).1 hn⟩
    change k * 0 ≤ n
    omega
  · rintro ⟨j, hj, hmem⟩
    by_contra hk
    obtain rfl := hj.2.2 (by omega)
    exact hP hmem

/-- With groups that are not empty, at most as many groups as the bag can be divided into bags, and
at least one. -/
theorem repeated_plus (h : i.Counts L P) (hP : P ≠ 0) (hi : i ≠ empty) :
    (ofBounds 1 i.max).Counts (repeated L .plus) P := by
  refine ⟨fun k => ?_, ofBounds_atMost (Multiset.card_pos.2 hP) (h.atMost hi).2⟩
  rw [ofBounds_has, mem_times_repeated (by decide)]
  have hmin := (has_min hi).2
  constructor
  · rintro ⟨hk, hmax⟩
    refine ⟨Max.max k i.min.toNat, ⟨?_, fun _ hm => (by cases hm), fun h0 => ?_⟩, (h.has _).1 ?_⟩
    · change k * 1 ≤ _
      omega
    · subst h0
      cases hk
    · exact ⟨by omega, fun m hm => Nat.max_le.2 ⟨hmax m hm, hmin m hm⟩⟩
  · rintro ⟨j, hj, hmem⟩
    have hle : k * 1 ≤ j := hj.1
    refine ⟨?_, fun m hm => ?_⟩
    · by_contra hk
      change ¬ 1 ≤ k at hk
      obtain rfl := hj.2.2 (by omega)
      exact hP hmem
    · have := ((h.has j).2 hmem).2 m hm
      omega

/-- With groups of at most one bag, at least as many groups as the bag can be divided into bags, and
empty ones as one likes. -/
theorem repeated_optional (h : i.Counts L P) (hP : P ≠ 0) (hi : i ≠ empty) :
    (atLeast (Max.max i.min 1)).Counts (repeated L .optional) P := by
  refine ⟨fun k => ?_, atLeast_atMost
    (max_toNat_le.2 ⟨(h.atMost hi).1, Multiset.card_pos.2 hP⟩)⟩
  rw [atLeast_has, max_toNat_le, mem_times_repeated (by decide)]
  constructor
  · rintro ⟨hmin, hk⟩
    refine ⟨i.min.toNat, ⟨?_, fun m hm => ?_, fun h0 => ?_⟩, (h.has _).1 (has_min hi)⟩
    · change k * 0 ≤ _
      omega
    · cases hm
      change _ ≤ k * 1
      omega
    · subst h0
      cases hk
  · rintro ⟨j, hj, hmem⟩
    have hle : j ≤ k * 1 := hj.2.1 1 rfl
    refine ⟨?_, ?_⟩
    · have := ((h.has j).2 hmem).1
      omega
    · by_contra hk
      change ¬ 1 ≤ k at hk
      obtain rfl := hj.2.2 (by omega)
      exact hP hmem

end Cardinality.Counts

end Shex
