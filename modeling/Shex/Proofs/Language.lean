import Mathlib.Algebra.Group.Pointwise.Set.Basic
import Mathlib.Algebra.Order.Group.Multiset
import Shex.Expr.Nested
import Shex.Proofs.Counts

/-!
# The language of a triple expression

A triple expression stands for a set of bags: those of a group are sums of bags of its operands, and
those of a repetition are sums of as many bags of its operand as the cardinality admits. What the
bags are made of is left open: `TripleExpr.language` takes the languages of triple constraints and
of labels as arguments, so that the same definition speaks of bags of edges and of bags of
identities. The two are related by `TripleExpr.language_pull`.
-/

open scoped Pointwise

namespace Shex

/-- A set of bags. -/
abbrev BagLanguage (α : Type) := Set (Multiset α)

namespace BagLanguage

variable {α β : Type} {L K : BagLanguage α} {M : Multiset α}

/-- The sums of `k` bags. -/
def times (L : BagLanguage α) : Nat → BagLanguage α
  | 0 => 0
  | k + 1 => L + times L k

/-- The sums of as many bags as a cardinality admits. -/
def repeated (L : BagLanguage α) (c : Cardinality) : BagLanguage α :=
  {M | ∃ k, c.Has k ∧ M ∈ times L k}

/-- No bags make the empty bag. -/
@[simp] theorem times_zero : times L 0 = 0 := rfl

/-- One more bag is taken from the language, in front of the others. -/
theorem times_succ {k : Nat} : times L (k + 1) = L + times L k := rfl

/-- One bag is a bag of the language. -/
@[simp] theorem times_one : times L 1 = L := by rw [times_succ, times_zero, add_zero]

/-- Some bags and then others are all of them together. -/
theorem times_add {j k : Nat} : times L (j + k) = times L j + times L k := by
  induction j with
  | zero => rw [Nat.zero_add, times_zero, zero_add]
  | succ j ih => rw [Nat.add_right_comm, times_succ, ih, times_succ, add_assoc]

/-- Each of `k` sums is divided into its two parts. -/
theorem times_sum {k : Nat} : times (L + K) k = times L k + times K k := by
  induction k with
  | zero => simp
  | succ k ih => rw [times_succ, ih, times_succ, times_succ, add_add_add_comm]

/-- Some of `k` bags are taken from one language and the others from the other. The bags of a sum
have no order, so those of each language may be put together. -/
theorem mem_times_union {k : Nat} :
    M ∈ times (L ∪ K) k ↔ ∃ i j, i + j = k ∧ M ∈ times L i + times K j := by
  induction k generalizing M with
  | zero =>
    constructor
    · exact fun h => ⟨0, 0, rfl, by simpa using h⟩
    · rintro ⟨i, j, h, hM⟩
      obtain ⟨rfl, rfl⟩ : i = 0 ∧ j = 0 := by omega
      simpa using hM
  | succ k ih =>
    rw [times_succ]
    constructor
    · intro h
      obtain ⟨A, hA, B, hB, rfl⟩ := Set.mem_add.1 h
      obtain ⟨i, j, rfl, hij⟩ := ih.1 hB
      rcases hA with hA | hA
      · refine ⟨i + 1, j, by omega, ?_⟩
        rw [times_succ, add_assoc]
        exact Set.add_mem_add hA hij
      · refine ⟨i, j + 1, by omega, ?_⟩
        rw [times_succ, add_left_comm]
        exact Set.add_mem_add hA hij
    · rintro ⟨i, j, hk, hM⟩
      cases i with
      | succ i =>
        rw [times_succ, add_assoc] at hM
        obtain ⟨A, hA, B, hB, rfl⟩ := Set.mem_add.1 hM
        exact Set.add_mem_add (.inl hA) (ih.2 ⟨i, j, by omega, hB⟩)
      | zero =>
        obtain rfl : j = k + 1 := by omega
        rw [times_succ, add_left_comm] at hM
        obtain ⟨A, hA, B, hB, rfl⟩ := Set.mem_add.1 hM
        exact Set.add_mem_add (.inr hA) (ih.2 ⟨0, k, by omega, hB⟩)

/-- Groups of groups: `k` groups, each of a number of bags that the cardinality admits, are as many
bags as there are sums of `k` of its counts. -/
theorem mem_times_repeated {c : Cardinality} (hc : c ≠ .empty) {k : Nat} :
    M ∈ times (repeated L c) k ↔ ∃ j, c.HasTimes k j ∧ M ∈ times L j := by
  induction k generalizing M with
  | zero => simp [Cardinality.hasTimes_zero]
  | succ k ih =>
    rw [times_succ]
    constructor
    · intro h
      obtain ⟨A, ⟨i, hi, hA⟩, B, hB, rfl⟩ := Set.mem_add.1 h
      obtain ⟨j, hj, hB⟩ := ih.1 hB
      refine ⟨i + j, (Cardinality.hasTimes_succ hc).2 ⟨i, j, rfl, hi, hj⟩, ?_⟩
      rw [times_add]
      exact Set.add_mem_add hA hB
    · rintro ⟨_, hj, hM⟩
      obtain ⟨i, j, rfl, hi, hj⟩ := (Cardinality.hasTimes_succ hc).1 hj
      rw [times_add] at hM
      obtain ⟨A, hA, B, hB, rfl⟩ := Set.mem_add.1 hM
      exact Set.add_mem_add ⟨i, hi, hA⟩ (ih.2 ⟨j, hj, hB⟩)

/-- A sum of bags is empty only if all of them are. -/
theorem zero_mem_add : 0 ∈ L + K ↔ 0 ∈ L ∧ 0 ∈ K := by
  constructor
  · intro h
    obtain ⟨A, hA, B, hB, hAB⟩ := Set.mem_add.1 h
    have hA0 : A = 0 := Multiset.le_zero.1 (hAB ▸ Multiset.le_add_right A B)
    have hB0 : B = 0 := Multiset.le_zero.1 (hAB ▸ Multiset.le_add_left B A)
    exact ⟨hA0 ▸ hA, hB0 ▸ hB⟩
  · rintro ⟨hA, hB⟩
    exact Set.mem_add.2 ⟨0, hA, 0, hB, rfl⟩

/-- Many bags are empty together only if each of them is, or if there are none. -/
theorem zero_mem_times {k : Nat} : 0 ∈ times L k ↔ k = 0 ∨ 0 ∈ L := by
  induction k with
  | zero => simp
  | succ k ih =>
    rw [times_succ, zero_mem_add, ih]
    constructor
    · exact fun h => .inr h.1
    · exact fun h => h.elim (by omega) fun h => ⟨h, .inr h⟩

/-- A repetition has the empty bag if it may be left out or repeats a language that has it. The
empty cardinality is excluded, since it admits no number of repetitions at all. -/
theorem zero_mem_repeated {c : Cardinality} (hc : c ≠ .empty) :
    0 ∈ repeated L c ↔ c.min = 0 ∨ 0 ∈ L := by
  constructor
  · rintro ⟨k, hk, h0⟩
    rcases zero_mem_times.1 h0 with rfl | h0
    · exact .inl (Cardinality.eq_zero_iff_toNat.2 (Nat.le_zero.1 hk.1))
    · exact .inr h0
  · rintro (h | h)
    · exact ⟨0, by simpa [h] using Cardinality.has_min hc, by simp⟩
    · exact ⟨_, Cardinality.has_min hc, zero_mem_times.2 (.inr h)⟩

/-- If the empty bag is in a language, then nothing is gained by leaving out the least count. -/
theorem repeated_plus_eq_star (h : 0 ∈ L) : repeated L .plus = repeated L .star := by
  ext M
  constructor
  · exact fun ⟨k, _, hM⟩ => ⟨k, by simp, hM⟩
  · rintro ⟨k, _, hM⟩
    refine ⟨k + 1, by simp, ?_⟩
    rw [times_succ]
    exact Set.mem_add.2 ⟨0, h, M, hM, by simp⟩

/-- Between a least and a greatest count: as many bags as the least, and others that may be left
out. -/
theorem times_add_optional {c : Cardinality} (hc : c ≠ .empty) {m : UInt32} (hm : c.max = some m) :
    times L c.min.toNat + times (repeated L .optional) (m.toNat - c.min.toNat) = repeated L c := by
  have hle := Cardinality.min_le_max hc hm
  ext M
  constructor
  · intro h
    obtain ⟨A, hA, B, hB, rfl⟩ := Set.mem_add.1 h
    obtain ⟨j, hj, hB⟩ := (mem_times_repeated (by decide)).1 hB
    have hmax : j ≤ (m.toNat - c.min.toNat) * 1 := hj.2.1 1 rfl
    refine ⟨c.min.toNat + j, ⟨by omega, fun m' hm' => ?_⟩, ?_⟩
    · cases hm.symm.trans hm'
      omega
    · rw [times_add]
      exact Set.add_mem_add hA hB
  · rintro ⟨k, ⟨hmin, hmax⟩, hM⟩
    have hk := hmax m hm
    rw [show k = c.min.toNat + (k - c.min.toNat) by omega, times_add] at hM
    obtain ⟨A, hA, B, hB, rfl⟩ := Set.mem_add.1 hM
    refine Set.add_mem_add hA ((mem_times_repeated (by decide)).2 ⟨_, ⟨?_, fun _ h => ?_, ?_⟩, hB⟩)
    · change _ * 0 ≤ _
      omega
    · cases h
      change _ ≤ _ * 1
      omega
    · omega

/-- Without a greatest count: all but one of the least count, and one or more. This is how such a
repetition is written out. -/
theorem times_add_plus {c : Cardinality} (hmax : c.max = none) (hmin : 1 ≤ c.min.toNat) :
    times L (c.min.toNat - 1) + repeated L .plus = repeated L c := by
  ext M
  constructor
  · intro h
    obtain ⟨A, hA, B, ⟨j, hj, hB⟩, rfl⟩ := Set.mem_add.1 h
    rw [Cardinality.plus_has] at hj
    refine ⟨c.min.toNat - 1 + j, ⟨by omega, fun m hm => by simp [hmax] at hm⟩, ?_⟩
    rw [times_add]
    exact Set.add_mem_add hA hB
  · rintro ⟨k, ⟨hk, _⟩, hM⟩
    rw [show k = (c.min.toNat - 1) + (k - (c.min.toNat - 1)) by omega, times_add] at hM
    obtain ⟨A, hA, B, hB, rfl⟩ := Set.mem_add.1 hM
    exact Set.add_mem_add hA ⟨_, Cardinality.plus_has.2 (by omega), hB⟩

/-- To be repeated once changes nothing. -/
theorem repeated_one : repeated L .one = L := by
  ext M
  simp [repeated]

/-- The empty cardinality admits no number of bags, not even none. -/
theorem repeated_empty : repeated L .empty = ∅ := by
  ext M
  simp [repeated]

/-! ### Alphabets -/

/-- All bags of a language are made of things with a property. -/
def Over (L : BagLanguage α) (A : α → Prop) : Prop := ∀ M ∈ L, ∀ a ∈ M, A a

variable {A B : α → Prop}

/-- The letters of sums are letters of their parts. -/
theorem Over.add (hL : L.Over A) (hK : K.Over A) : (L + K).Over A := by
  intro M hM a ha
  obtain ⟨X, hX, Y, hY, rfl⟩ := Set.mem_add.1 hM
  exact (Multiset.mem_add.1 ha).elim (hL X hX a) (hK Y hY a)

/-- The letters of repeated sums are letters of what is repeated. -/
theorem Over.times (hL : L.Over A) {k : Nat} : (times L k).Over A := by
  induction k with
  | zero =>
    rintro M rfl a ha
    exact absurd ha (Multiset.notMem_zero a)
  | succ k ih => exact hL.add ih

/-- A language over some letters is one over more letters. -/
theorem Over.mono (hL : L.Over A) (h : ∀ a, A a → B a) : L.Over B :=
  fun M hM a ha => h a (hL M hM a ha)

/-- A bag is divided in one way only between languages without common letters. Each part can be told
from the letters, so it is in its own language. -/
theorem add_mem_add_iff (hAB : ∀ a, A a → ¬ B a) (hL : L.Over A) (hK : K.Over B)
    {X Y : Multiset α} (hX : ∀ a ∈ X, A a) (hY : ∀ a ∈ Y, B a) :
    X + Y ∈ L + K ↔ X ∈ L ∧ Y ∈ K := by
  classical
  constructor
  · intro h
    obtain ⟨X', hX', Y', hY', heq⟩ := Set.mem_add.1 h
    have hpart : ∀ {Z W : Multiset α}, (∀ a ∈ Z, A a) → (∀ a ∈ W, B a) →
        (Z + W).filter A = Z := by
      intro Z W hZ hW
      rw [Multiset.filter_add, Multiset.filter_eq_self.2 hZ,
        Multiset.filter_eq_nil.2 fun a ha h => hAB a h (hW a ha), add_zero]
    obtain rfl : X' = X := by rw [← hpart hX hY, ← heq, hpart (hL X' hX') (hK Y' hY')]
    obtain rfl : Y' = Y := add_left_cancel heq
    exact ⟨hX', hY'⟩
  · exact fun h => Set.add_mem_add h.1 h.2

/-! ### Related bags -/

/-- The bags that are related, thing by thing, to a bag of a language. -/
def pull (R : β → α → Prop) (L : BagLanguage α) : BagLanguage β :=
  {M | ∃ B ∈ L, Multiset.Rel R M B}

variable {R : β → α → Prop}

/-- The empty bag is only related to itself, so pulling it back gives the empty bag. -/
theorem pull_zero : pull R (0 : BagLanguage α) = 0 := by
  ext M
  simp [pull]

/-- A bag is related to a sum exactly if it can be divided into parts that are related to the
summands. -/
theorem pull_add : pull R (L + K) = pull R L + pull R K := by
  ext M
  constructor
  · rintro ⟨_, hB, hrel⟩
    obtain ⟨X, hX, Y, hY, rfl⟩ := Set.mem_add.1 hB
    obtain ⟨X', Y', hX', hY', rfl⟩ := Multiset.rel_add_right.1 hrel
    exact Set.add_mem_add ⟨X, hX, hX'⟩ ⟨Y, hY, hY'⟩
  · intro h
    obtain ⟨X', ⟨X, hX, hX'⟩, Y', ⟨Y, hY, hY'⟩, rfl⟩ := Set.mem_add.1 h
    exact ⟨X + Y, Set.add_mem_add hX hY, hX'.add hY'⟩

/-- Pulling back goes through repeated sums, by induction on their number. -/
theorem pull_times {k : Nat} : pull R (times L k) = times (pull R L) k := by
  induction k with
  | zero => exact pull_zero
  | succ k ih => rw [times_succ, pull_add, ih, times_succ]

/-- Pulling back goes through repetitions, since the cardinality only looks at how many bags there
are. -/
theorem pull_repeated {c : Cardinality} : pull R (repeated L c) = repeated (pull R L) c := by
  ext M
  constructor
  · rintro ⟨B, ⟨k, hk, hB⟩, hrel⟩
    refine ⟨k, hk, ?_⟩
    rw [← pull_times]
    exact ⟨B, hB, hrel⟩
  · rintro ⟨k, hk, hM⟩
    rw [← pull_times] at hM
    obtain ⟨B, hB, hrel⟩ := hM
    exact ⟨B, ⟨k, hk, hB⟩, hrel⟩

/-- Pulling back goes through alternatives. -/
theorem pull_union : pull R (L ∪ K) = pull R L ∪ pull R K := by
  ext M
  simp [pull, or_and_right, exists_or]

/-- Pulling back along equality changes nothing. -/
theorem pull_eq : pull Eq L = L := by
  ext M
  simp [pull, Multiset.rel_eq]

end BagLanguage

/-- What a triple constraint stands for. -/
abbrev AtomLanguage (α : Type) := TripleMark → Arc → Option ShapeExpr → BagLanguage α

namespace TripleExpr

section
variable {α : Type} (atom : AtomLanguage α) (target : Label → BagLanguage α)

mutual

/-- The bags that an expression stands for. `atom` gives those of the triple constraints, and
`target` those of the labels. -/
def language : TripleExpr → BagLanguage α
  | .eachOf _ es => languageOfAll es
  | .oneOf _ es => languageOfAny es
  | .repeated _ e c => e.language.repeated c
  | .constraint m a v => atom m a v
  | .ref _ l => target l
  | .empty _ => 0

/-- The sums of one bag for each expression of a list. -/
def languageOfAll : List TripleExpr → BagLanguage α
  | [] => 0
  | e :: es => e.language + languageOfAll es

/-- The bags of some expression of a list. -/
def languageOfAny : List TripleExpr → BagLanguage α
  | [] => ∅
  | e :: es => e.language ∪ languageOfAny es

end

end

variable {α β : Type} {atom : AtomLanguage α} {target : Label → BagLanguage α}

/-- The bags of a group are sums of bags of its members. -/
@[simp] theorem language_eachOf (m : TripleMark) (es : List TripleExpr) :
    (eachOf m es).language atom target = languageOfAll atom target es := by rw [language]

/-- The bags of an alternative are those of its members. -/
@[simp] theorem language_oneOf (m : TripleMark) (es : List TripleExpr) :
    (oneOf m es).language atom target = languageOfAny atom target es := by rw [language]

/-- The bags of a repetition are sums of as many bags as the cardinality admits. -/
@[simp] theorem language_repeated (m : TripleMark) (e : TripleExpr) (c : Cardinality) :
    (repeated m e c).language atom target = (e.language atom target).repeated c := by rw [language]

/-- The bags of a triple constraint are those that the reading of constraints gives it. -/
@[simp] theorem language_constraint (m : TripleMark) (a : Arc) (v : Option ShapeExpr) :
    (constraint m a v).language atom target = atom m a v := by rw [language]

/-- The bags of a reference are those of the label, which are given from outside. -/
@[simp] theorem language_ref (m : TripleMark) (l : Label) :
    (ref m l).language atom target = target l := by rw [language]

/-- The empty expression has the empty bag only. -/
@[simp] theorem language_empty (m : TripleMark) : (empty m).language atom target = 0 := by
  rw [language]

/-- Groups can be joined: the bags of both lists of members are added up. -/
theorem languageOfAll_append (es fs : List TripleExpr) :
    languageOfAll atom target (es ++ fs) =
      languageOfAll atom target es + languageOfAll atom target fs := by
  induction es with
  | nil => simp [languageOfAll]
  | cons e es ih => rw [List.cons_append, languageOfAll, ih, languageOfAll, add_assoc]

variable {atom' : AtomLanguage β} {target' : Label → BagLanguage β} {R : β → α → Prop}

mutual

/-- If two readings of triple constraints are related, so are the readings of the expressions made
of them. -/
theorem language_pull :
    ∀ {e : TripleExpr}, e.refs = [] →
      (∀ c ∈ e.constraints, atom' c.mark c.arc c.value = (atom c.mark c.arc c.value).pull R) →
      e.language atom' target' = (e.language atom target).pull R
  | .eachOf m es, hr, h => by
    rw [language_eachOf, language_eachOf]
    exact languageOfAll_pull (by rwa [refs] at hr) (by rwa [constraints] at h)
  | .oneOf m es, hr, h => by
    rw [language_oneOf, language_oneOf]
    exact languageOfAny_pull (by rwa [refs] at hr) (by rwa [constraints] at h)
  | .repeated m e c, hr, h => by
    rw [language_repeated, language_repeated, BagLanguage.pull_repeated,
      language_pull (by rwa [refs] at hr) (by rwa [constraints] at h)]
  | .constraint m a v, _, h => by
    rw [language_constraint, language_constraint]
    exact h ⟨m, a, v⟩ (by simp [constraints])
  | .ref m l, hr, _ => by simp [refs] at hr
  | .empty m, _, _ => by
    rw [language_empty, language_empty, BagLanguage.pull_zero]

/-- The same for the members of a group, whose readings are added up (`pull_add`). -/
theorem languageOfAll_pull :
    ∀ {es : List TripleExpr}, refsIn es = [] →
      (∀ c ∈ constraintsIn es, atom' c.mark c.arc c.value = (atom c.mark c.arc c.value).pull R) →
      languageOfAll atom' target' es = (languageOfAll atom target es).pull R
  | [], _, _ => by rw [languageOfAll, languageOfAll, BagLanguage.pull_zero]
  | e :: es, hr, h => by
    rw [refsIn, List.append_eq_nil_iff] at hr
    rw [constraintsIn] at h
    rw [languageOfAll, languageOfAll, BagLanguage.pull_add,
      language_pull hr.1 fun c hc => h c (List.mem_append_left _ hc),
      languageOfAll_pull hr.2 fun c hc => h c (List.mem_append_right _ hc)]

/-- The same for the members of an alternative, of whose readings one is taken (`pull_union`).
Members have constraints of their own, and the hypothesis is about each of them. -/
theorem languageOfAny_pull :
    ∀ {es : List TripleExpr}, refsIn es = [] →
      (∀ c ∈ constraintsIn es, atom' c.mark c.arc c.value = (atom c.mark c.arc c.value).pull R) →
      languageOfAny atom' target' es = (languageOfAny atom target es).pull R
  | [], _, _ => by
    rw [languageOfAny, languageOfAny]
    ext M
    simp [BagLanguage.pull]
  | e :: es, hr, h => by
    rw [refsIn, List.append_eq_nil_iff] at hr
    rw [constraintsIn] at h
    rw [languageOfAny, languageOfAny, BagLanguage.pull_union,
      language_pull hr.1 fun c hc => h c (List.mem_append_left _ hc),
      languageOfAny_pull hr.2 fun c hc => h c (List.mem_append_right _ hc)]

end

/-- Without references the languages of labels do not matter. -/
theorem language_target {e : TripleExpr} (hr : e.refs = [])
    (target target' : Label → BagLanguage α) :
    e.language atom target = e.language atom target' := by
  rw [language_pull (R := Eq) hr fun c _ => BagLanguage.pull_eq.symm, BagLanguage.pull_eq]

end TripleExpr

end Shex
