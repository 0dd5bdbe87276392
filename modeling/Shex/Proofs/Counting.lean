import Shex.Proofs.IntervalCounts

/-!
# Counting is matching

The interval that is computed for a countable expression and a bag contains the numbers of
repetitions of the expression that the bag, restricted to the constraints of the expression, can be
divided into (`TripleExpr.interval_counts`). So a bag of constraints matches an expression if and
only if it is in its language (`TripleExpr.matchesBag_iff`). This needs the bag to have fewer
elements than there are words, since counts are words, and no repetition with the empty cardinality,
which counting takes to spoil the whole of an alternative.
-/

open scoped Pointwise

namespace Shex

open BagLanguage

namespace Bag

/-- The elements of a bag that are in a list. -/
def part (b : Bag) (ids : List ExprId) : Multiset ExprId := (b : Multiset ExprId).filter (· ∈ ids)

variable {b : Bag} {ids : List ExprId}

/-- What is in the part of a bag for a list is in the list. -/
theorem mem_of_mem_part {a : ExprId} (h : a ∈ b.part ids) : a ∈ ids := (Multiset.mem_filter.1 h).2

/-- A part of a bag is not larger than the bag, so that counts that fit into words do so for all
parts. -/
theorem card_part_le : (b.part ids).card ≤ b.length :=
  Multiset.card_le_card (Multiset.filter_le _ _)

/-- No constraints make no part. -/
@[simp] theorem part_nil : b.part [] = 0 := by simp [part]

/-- The part for two lists without common constraints is made of the parts for each. This is where
it matters that a constraint occurs once in an expression. -/
theorem part_append {A B : List ExprId} (h : ∀ a ∈ A, a ∉ B) :
    b.part (A ++ B) = b.part A + b.part B := by
  have hboth : (b : Multiset ExprId).filter (fun a => a ∈ A ∧ a ∈ B) = 0 :=
    Multiset.filter_eq_nil.2 fun a _ hab => h a hab.1 hab.2
  unfold part
  rw [Multiset.filter_add_filter, hboth, add_zero]
  exact Multiset.filter_congr fun a _ => List.mem_append

/-- The part for one constraint is as many copies of it as the bag has. -/
theorem part_singleton {id : ExprId} : b.part [id] = Multiset.replicate (b.count id) id := by
  rw [part, ← Multiset.coe_count, ← Multiset.filter_eq']
  exact Multiset.filter_congr fun a _ => List.mem_singleton

/-- A bag that has only constraints of a list is all part of it. -/
theorem part_eq_self (h : ∀ a ∈ b, a ∈ ids) : b.part ids = b := Multiset.filter_eq_self.2 h

end Bag

namespace TripleExpr

variable {b : Bag}

/-- An expression is absent from a bag exactly if its part of the bag is empty. Being absent is
computed without the part, by a look at each of the constraints. -/
theorem isAbsent_iff {e : TripleExpr} : e.isAbsent b = true ↔ b.part e.constraintIds = 0 := by
  rw [isAbsent, List.all_eq_true]
  constructor
  · intro h
    refine Multiset.filter_eq_nil.2 fun a ha hid => ?_
    have := h a hid
    simp only [Bool.not_eq_true', List.contains_eq_mem, decide_eq_false_iff_not] at this
    exact this (Multiset.mem_coe.1 ha)
  · intro h a hid
    have := Multiset.filter_eq_nil.1 h a
    simp only [Bool.not_eq_true', List.contains_eq_mem, decide_eq_false_iff_not]
    exact fun ha => this (Multiset.mem_coe.2 ha) hid

/-- The constraints of a group are those of its members. -/
theorem constraintIds_eachOf (m : TripleMark) (es : List TripleExpr) :
    (eachOf m es).constraintIds = (constraintsIn es).map TripleConstraint.id := by
  rw [constraintIds, constraints]

/-- The constraints of an alternative are those of its members. -/
theorem constraintIds_oneOf (m : TripleMark) (es : List TripleExpr) :
    (oneOf m es).constraintIds = (constraintsIn es).map TripleConstraint.id := by
  rw [constraintIds, constraints]

/-- A repetition has the constraints of what it repeats. -/
theorem constraintIds_repeated (m : TripleMark) (e : TripleExpr) (c : Cardinality) :
    (repeated m e c).constraintIds = e.constraintIds := by
  rw [constraintIds, constraints, constraintIds]

/-- A triple constraint has only itself. -/
theorem constraintIds_constraint (m : TripleMark) (a : Arc) (v : Option ShapeExpr) :
    (constraint m a v).constraintIds = [m.id] := by
  rw [constraintIds, constraints]
  rfl

/-- The empty expression has no constraints. -/
theorem constraintIds_empty (m : TripleMark) : (empty m).constraintIds = [] := by
  rw [constraintIds, constraints]
  rfl

/-- The constraints of the first member come before those of the others. -/
theorem constraintsIn_cons_ids (e : TripleExpr) (es : List TripleExpr) :
    (constraintsIn (e :: es)).map TripleConstraint.id =
      e.constraintIds ++ (constraintsIn es).map TripleConstraint.id := by
  rw [constraintsIn, List.map_append, constraintIds]

mutual

/-- The bags of an expression are made of its constraints. Without references nothing else can be in
them. -/
theorem bags_over : ∀ {e : TripleExpr}, e.refs = [] → e.bags.Over (· ∈ e.constraintIds)
  | .eachOf m es, hr => by
    rw [bags, language_eachOf, constraintIds_eachOf]
    exact allBags_over (by rwa [refs] at hr)
  | .oneOf m es, hr => by
    rw [bags, language_oneOf, constraintIds_oneOf]
    exact anyBags_over (by rwa [refs] at hr)
  | .repeated m e c, hr => by
    rw [bags, language_repeated, constraintIds_repeated]
    rintro M ⟨k, _, hM⟩
    exact (bags_over (by rwa [refs] at hr)).times M hM
  | .constraint m a v, _ => by
    rw [bags, language_constraint, constraintIds_constraint]
    rintro M rfl a ha
    simpa using ha
  | .ref m l, hr => by simp [refs] at hr
  | .empty m, _ => by
    rw [bags, language_empty]
    rintro M rfl a ha
    exact absurd ha (Multiset.notMem_zero a)

/-- The same for the members of a group: the sum of bags over some constraints is over those of all
members. -/
theorem allBags_over : ∀ {es : List TripleExpr}, refsIn es = [] →
    (languageOfAll byIdentity (fun _ => ∅) es).Over
      (· ∈ (constraintsIn es).map TripleConstraint.id)
  | [], _ => by
    rw [languageOfAll]
    rintro M rfl a ha
    exact absurd ha (Multiset.notMem_zero a)
  | e :: es, hr => by
    rw [refsIn, List.append_eq_nil_iff] at hr
    rw [languageOfAll, constraintsIn_cons_ids]
    exact ((bags_over hr.1).mono fun _ => List.mem_append_left _).add
      ((allBags_over hr.2).mono fun _ => List.mem_append_right _)

/-- The same for the members of an alternative: a bag over the constraints of one of them is over
those of all. -/
theorem anyBags_over : ∀ {es : List TripleExpr}, refsIn es = [] →
    (languageOfAny byIdentity (fun _ => ∅) es).Over
      (· ∈ (constraintsIn es).map TripleConstraint.id)
  | [], _ => by
    rw [languageOfAny]
    rintro M ⟨⟩
  | e :: es, hr => by
    rw [refsIn, List.append_eq_nil_iff] at hr
    rw [languageOfAny, constraintsIn_cons_ids]
    rintro M (hM | hM)
    · exact ((bags_over hr.1).mono fun _ => List.mem_append_left _) M hM
    · exact ((anyBags_over hr.2).mono fun _ => List.mem_append_right _) M hM

end

/-- A triple constraint counts how often it is in the bag. -/
theorem constraint_counts (hb : b.length < UInt32.size) (m : TripleMark) (a : Arc)
    (v : Option ShapeExpr) :
    (Cardinality.exactly (b.amount m.id)).Counts (constraint m a v).bags
      (b.part (constraint m a v).constraintIds) := by
  rw [bags, language_constraint, constraintIds_constraint, Bag.part_singleton]
  exact .exactly (Nat.lt_of_le_of_lt List.count_le_length hb)

section
variable {m : TripleMark} {e : TripleExpr} {i : Cardinality}

/-- What the algorithm does with a group that may not occur: the bag must not have any of it. -/
theorem interval_zero (h : e.isConstraint = false) :
    (repeated m e .zero).interval b = .ok (if e.isAbsent b then .star else .empty) := by
  rw [interval, h]
  rfl

/-- What the algorithm does with a group under `*`: any positive number of repetitions, if the bag
can be divided into the group at all. -/
theorem interval_star (h : e.isConstraint = false) :
    (repeated m e .star).interval b =
      if e.isAbsent b then .ok .star
      else (e.interval b).map fun i => if i.isEmpty then .empty else .plus := by
  rw [interval, h]
  cases e.interval b <;> rfl

/-- What the algorithm does with a group under `+`: the greatest number of repetitions is that of
the group. -/
theorem interval_plus (h : e.isConstraint = false) :
    (repeated m e .plus).interval b =
      if e.isAbsent b then .ok .zero
      else (e.interval b).map fun i => if i.isEmpty then .empty else .ofBounds 1 i.max := by
  rw [interval, h]
  cases e.interval b <;> rfl

/-- What the algorithm does with a group under `?`: the least number of repetitions is that of the
group. -/
theorem interval_optional (h : e.isConstraint = false) :
    (repeated m e .optional).interval b =
      if e.isAbsent b then .ok .star
      else (e.interval b).map fun i => if i.isEmpty then .empty else .atLeast (max i.min 1) := by
  rw [interval, h]
  cases e.interval b <;> rfl

/-- A bag that is not empty is divided into groups as the interval of the group tells. The four
cardinalities that the algorithm knows for groups only differ in `answer`. -/
theorem present_counts {c : Cardinality} {answer : Cardinality → Cardinality} (hc : c ≠ .empty)
    (he : ∀ i, e.interval b = .ok i → i.Counts e.bags (b.part e.constraintIds))
    (hanswer : ∀ i, i.Counts e.bags (b.part e.constraintIds) → i ≠ .empty →
      (answer i).Counts (e.bags.repeated c) (b.part e.constraintIds))
    (hi : (e.interval b).map (fun i => if i.isEmpty then .empty else answer i) = .ok i) :
    i.Counts (e.bags.repeated c) (b.part e.constraintIds) := by
  cases hv : e.interval b with
  | error f => rw [hv] at hi; cases hi
  | ok j =>
    rw [hv] at hi
    cases hi
    have hj := he j hv
    by_cases hempty : j = .empty
    · subst hempty
      exact .none_repeated hc hj
    · have hne : j.isEmpty ≠ true := by rwa [Ne, Cardinality.isEmpty_iff]
      simp only [if_neg hne]
      exact hanswer j hj hempty

/-- The interval of a repetition of a group. A bag without any of the group is settled by whether
the group matches the empty bag, all others by the interval of the group. -/
theorem repeated_counts {c : Cardinality} (hgroup : e.isConstraint = false)
    (hcountable : (repeated m e c).isCountable = true) (hc : c ≠ .empty)
    (he : ∀ i, e.interval b = .ok i → i.Counts e.bags (b.part e.constraintIds))
    (hi : (repeated m e c).interval b = .ok i) :
    i.Counts (repeated m e c).bags (b.part (repeated m e c).constraintIds) := by
  rw [bags, language_repeated, constraintIds_repeated]
  change i.Counts (e.bags.repeated c) _
  rw [isCountable, hgroup] at hcountable
  simp only [Cardinality.isStandard, Bool.false_or, Bool.and_eq_true, Bool.or_eq_true,
    Bool.not_eq_true', Cardinality.isEmpty_iff, or_iff_left hc, decide_eq_true_iff] at hcountable
  obtain ⟨⟨hstd, hcount⟩, hplus⟩ := hcountable
  have habsent := isAbsent_iff (b := b) (e := e)
  rcases hstd with ((rfl | rfl) | rfl) | rfl
  · rw [interval_optional hgroup] at hi
    split at hi
    · rename_i habs
      cases hi
      rw [habsent.1 habs]
      exact .star ((zero_mem_repeated hc).2 (.inl rfl))
    · rename_i habs
      exact present_counts hc he (fun _ h => h.repeated_optional (habsent.not.1 habs)) hi
  · rw [interval_star hgroup] at hi
    split at hi
    · rename_i habs
      cases hi
      rw [habsent.1 habs]
      exact .star ((zero_mem_repeated hc).2 (.inl rfl))
    · rename_i habs
      exact present_counts hc he (fun _ h => h.repeated_star (habsent.not.1 habs)) hi
  · rw [interval_plus hgroup] at hi
    split at hi
    · rename_i habs
      cases hi
      rw [habsent.1 habs]
      refine .zero fun h0 => ?_
      rcases (zero_mem_repeated hc).1 h0 with h | h
      · cases h
      · rw [bags, ← matchesEmpty_iff zero_notMem_byIdentity (refs_of_isCountable hcount)] at h
        simp [h] at hplus
    · rename_i habs
      exact present_counts hc he (fun _ h => h.repeated_plus (habsent.not.1 habs)) hi
  · rw [interval_zero hgroup] at hi
    cases hi
    split
    · rename_i habs
      rw [habsent.1 habs]
      exact .star ((zero_mem_repeated hc).2 (.inl rfl))
    · rename_i habs
      exact .repeated_zero (habsent.not.1 habs)

end

mutual

/-- The interval of an expression tells into how many bags of its language the bag can be divided.
The induction is on the expression; where operands are counted together, it matters that no
constraint is in two of them. -/
theorem interval_counts (hb : b.length < UInt32.size) :
    ∀ {e : TripleExpr} {i : Cardinality}, e.isCountable = true → e.avoidsEmpty = true →
      e.constraintIds.Nodup → e.interval b = .ok i → i.Counts e.bags (b.part e.constraintIds)
  | .eachOf m es, i, hc, ha, hnd, hi => by
    rw [isCountable] at hc
    rw [avoidsEmpty] at ha
    rw [interval] at hi
    rw [constraintIds_eachOf] at hnd ⊢
    rw [bags, language_eachOf]
    have := intervalOfAll_counts hb (A := []) (K := 0) hc ha hnd
      (by rintro M rfl a ha; exact absurd ha (Multiset.notMem_zero a))
      (by rw [Bag.part_nil]; exact .star rfl) hi
    rwa [zero_add, List.nil_append] at this
  | .oneOf m es, i, hc, ha, hnd, hi => by
    rw [isCountable] at hc
    rw [avoidsEmpty] at ha
    rw [interval] at hi
    rw [constraintIds_oneOf] at hnd ⊢
    rw [bags, language_oneOf]
    have := intervalOfAny_counts hb (A := []) (K := ∅) hc ha hnd (by rintro M ⟨⟩)
      (by rw [Bag.part_nil]; exact .zero (Set.notMem_empty 0)) hi
    rwa [Set.empty_union, List.nil_append] at this
  | .repeated m e c, i, hc, ha, hnd, hi => by
    have hne : c ≠ .empty ∧ e.avoidsEmpty = true := by
      rwa [avoidsEmpty, Bool.and_eq_true, Bool.not_eq_true', Bool.eq_false_iff, Ne,
        Cardinality.isEmpty_iff] at ha
    rw [constraintIds_repeated] at hnd
    cases hgroup : e.isConstraint with
    | true =>
      obtain ⟨m', a, v, rfl⟩ : ∃ m' a v, e = .constraint m' a v := by
        cases e <;> simp_all [isConstraint]
      rw [interval, hgroup] at hi
      cases hi
      rw [bags, language_repeated, language_constraint, constraintIds_repeated,
        constraintIds_constraint, Bag.part_singleton]
      exact .quot hne.1 (Nat.lt_of_le_of_lt List.count_le_length hb)
    | false =>
      refine repeated_counts hgroup hc hne.1 (fun j hj => ?_) hi
      refine interval_counts hb ?_ hne.2 hnd hj
      rw [isCountable, hgroup] at hc
      simp only [Bool.false_or, Bool.and_eq_true] at hc
      exact hc.1.2
  | .constraint m a v, i, _, _, _, hi => by
    rw [interval] at hi
    cases hi
    exact constraint_counts hb m a v
  | .ref m l, i, hc, _, _, _ => by simp [isCountable] at hc
  | .empty m, i, _, _, _, hi => by
    rw [interval] at hi
    cases hi
    rw [bags, language_empty, constraintIds_empty, Bag.part_nil]
    exact .star rfl

/-- Further operands of a group that takes all of them. `A` has the constraints of the earlier ones,
and what was counted for those so far is intersected with the next. -/
theorem intervalOfAll_counts (hb : b.length < UInt32.size) :
    ∀ {es : List TripleExpr} {A : List ExprId} {K : BagLanguage ExprId} {acc i : Cardinality},
      allCountable es = true → allAvoidEmpty es = true →
      (A ++ (constraintsIn es).map TripleConstraint.id).Nodup → K.Over (· ∈ A) →
      acc.Counts K (b.part A) → intervalOfAll b acc es = .ok i →
      i.Counts (K + languageOfAll byIdentity (fun _ => ∅) es)
        (b.part (A ++ (constraintsIn es).map TripleConstraint.id))
  | [], A, K, acc, i, _, _, _, _, hacc, hi => by
    rw [intervalOfAll] at hi
    cases hi
    rw [languageOfAll, add_zero, constraintsIn, List.map_nil, List.append_nil]
    exact hacc
  | e :: es, A, K, acc, i, hc, ha, hnd, hK, hacc, hi => by
    rw [allCountable, Bool.and_eq_true] at hc
    rw [allAvoidEmpty, Bool.and_eq_true] at ha
    rw [intervalOfAll] at hi
    rw [constraintsIn_cons_ids, ← List.append_assoc] at hnd ⊢
    cases hj : e.interval b with
    | error f => rw [hj] at hi; cases hi
    | ok j =>
      rw [hj] at hi
      have hhead := (List.nodup_append.1 hnd).1
      have hdisj : ∀ a ∈ A, a ∉ e.constraintIds := fun a hA he =>
        (List.nodup_append.1 hhead).2.2 a hA a he rfl
      have hover := bags_over (refs_of_isCountable hc.1)
      have hcounts := interval_counts hb hc.1 ha.1 (List.nodup_append.1 hhead).2.1 hj
      rw [languageOfAll, ← add_assoc]
      refine intervalOfAll_counts hb hc.2 ha.2 hnd ?_ ?_ hi
      · exact (hK.mono fun _ => List.mem_append_left _).add
          (hover.mono fun _ => List.mem_append_right _)
      · rw [Bag.part_append hdisj]
        exact hacc.inter hcounts hdisj hK hover (fun _ => Bag.mem_of_mem_part)
          fun _ => Bag.mem_of_mem_part

/-- Further operands of a group that takes one of them. `A` has the constraints of the earlier ones,
and what was counted for those so far is added to the next. -/
theorem intervalOfAny_counts (hb : b.length < UInt32.size) :
    ∀ {es : List TripleExpr} {A : List ExprId} {K : BagLanguage ExprId} {acc i : Cardinality},
      allCountable es = true → allAvoidEmpty es = true →
      (A ++ (constraintsIn es).map TripleConstraint.id).Nodup → K.Over (· ∈ A) →
      acc.Counts K (b.part A) → intervalOfAny b acc es = .ok i →
      i.Counts (K ∪ languageOfAny byIdentity (fun _ => ∅) es)
        (b.part (A ++ (constraintsIn es).map TripleConstraint.id))
  | [], A, K, acc, i, _, _, _, _, hacc, hi => by
    rw [intervalOfAny] at hi
    cases hi
    rw [languageOfAny, Set.union_empty, constraintsIn, List.map_nil, List.append_nil]
    exact hacc
  | e :: es, A, K, acc, i, hc, ha, hnd, hK, hacc, hi => by
    rw [allCountable, Bool.and_eq_true] at hc
    rw [allAvoidEmpty, Bool.and_eq_true] at ha
    rw [intervalOfAny] at hi
    rw [constraintsIn_cons_ids, ← List.append_assoc] at hnd ⊢
    cases hj : e.interval b with
    | error f => rw [hj] at hi; cases hi
    | ok j =>
      rw [hj] at hi
      have hhead := (List.nodup_append.1 hnd).1
      have hdisj : ∀ a ∈ A, a ∉ e.constraintIds := fun a hA he =>
        (List.nodup_append.1 hhead).2.2 a hA a he rfl
      have hover := bags_over (refs_of_isCountable hc.1)
      have hcounts := interval_counts hb hc.1 ha.1 (List.nodup_append.1 hhead).2.1 hj
      have hsize : (b.part A).card + (b.part e.constraintIds).card < UInt32.size := by
        rw [← Multiset.card_add, ← Bag.part_append hdisj]
        exact Nat.lt_of_le_of_lt Bag.card_part_le hb
      rw [languageOfAny, ← Set.union_assoc]
      refine intervalOfAny_counts hb hc.2 ha.2 hnd ?_ ?_ hi
      · rintro M (hM | hM)
        · exact (hK.mono fun _ => List.mem_append_left _) M hM
        · exact (hover.mono fun _ => List.mem_append_right _) M hM
      · rw [Bag.part_append hdisj]
        exact hacc.add hcounts hdisj hK hover (fun _ => Bag.mem_of_mem_part)
          (fun _ => Bag.mem_of_mem_part) hsize

end

mutual

/-- A countable expression has an interval for every bag: the algorithm only fails at references and
at groups under cardinalities that it does not know. -/
theorem interval_total (b : Bag) :
    ∀ {e : TripleExpr}, e.isCountable = true → ∃ i, e.interval b = .ok i
  | .eachOf m es, hc => by
    rw [isCountable] at hc
    rw [interval]
    exact intervalOfAll_total b hc
  | .oneOf m es, hc => by
    rw [isCountable] at hc
    rw [interval]
    exact intervalOfAny_total b hc
  | .repeated m e c, hc => by
    cases hgroup : e.isConstraint with
    | true => exact ⟨_, by rw [interval, hgroup]; rfl⟩
    | false =>
      rw [isCountable, hgroup] at hc
      simp only [Cardinality.isStandard, Bool.false_or, Bool.and_eq_true, Bool.or_eq_true,
        Cardinality.isEmpty_iff, decide_eq_true_iff] at hc
      obtain ⟨j, hj⟩ := interval_total b hc.1.2
      obtain ⟨(((rfl | rfl) | rfl) | rfl) | rfl, _⟩ := hc.1
      · rw [interval_optional hgroup, hj]
        split <;> exact ⟨_, rfl⟩
      · rw [interval_star hgroup, hj]
        split <;> exact ⟨_, rfl⟩
      · rw [interval_plus hgroup, hj]
        split <;> exact ⟨_, rfl⟩
      · exact ⟨_, interval_zero hgroup⟩
      · exact ⟨_, by rw [interval, hgroup]; rfl⟩
  | .constraint m a v, _ => ⟨_, by rw [interval]⟩
  | .ref m l, hc => by simp [isCountable] at hc
  | .empty m, _ => ⟨_, by rw [interval]⟩

/-- The same for the members of a group. -/
theorem intervalOfAll_total (b : Bag) :
    ∀ {es : List TripleExpr} {acc : Cardinality}, allCountable es = true →
      ∃ i, intervalOfAll b acc es = .ok i
  | [], acc, _ => ⟨acc, by rw [intervalOfAll]⟩
  | e :: es, acc, hc => by
    rw [allCountable, Bool.and_eq_true] at hc
    obtain ⟨j, hj⟩ := interval_total b hc.1
    rw [intervalOfAll, hj]
    exact intervalOfAll_total b hc.2

/-- The same for the members of an alternative. -/
theorem intervalOfAny_total (b : Bag) :
    ∀ {es : List TripleExpr} {acc : Cardinality}, allCountable es = true →
      ∃ i, intervalOfAny b acc es = .ok i
  | [], acc, _ => ⟨acc, by rw [intervalOfAny]⟩
  | e :: es, acc, hc => by
    rw [allCountable, Bool.and_eq_true] at hc
    obtain ⟨j, hj⟩ := interval_total b hc.1
    rw [intervalOfAny, hj]
    exact intervalOfAny_total b hc.2

end

/-- It can be told of every bag whether it matches a countable expression. -/
theorem matchesBag_total {e : TripleExpr} (hc : e.isCountable = true) (b : Bag) :
    ∃ m, e.matchesBag b = .ok m := by
  obtain ⟨i, hi⟩ := interval_total b hc
  exact ⟨_, by rw [matchesBag, hi]; rfl⟩

/-- A bag of constraints matches a single-occurrence expression if and only if it is in its
language: a bag is in the language if it can be divided into one bag of it. -/
theorem matchesBag_iff {e : TripleExpr} {b : Bag} (hc : e.isCountable = true)
    (ha : e.avoidsEmpty = true) (hnd : e.constraintIds.Nodup) (hb : b.length < UInt32.size)
    (hmem : ∀ id ∈ b, id ∈ e.constraintIds) :
    e.matchesBag b = .ok true ↔ (b : Multiset ExprId) ∈ e.bags := by
  obtain ⟨i, hi⟩ := interval_total b hc
  have hcounts := interval_counts hb hc ha hnd hi
  rw [Bag.part_eq_self hmem] at hcounts
  have hok : e.matchesBag b = .ok (i.contains 1) := by
    rw [matchesBag, hi]
    rfl
  rw [hok, Except.ok.injEq, Cardinality.contains_iff_has]
  exact (hcounts.has 1).trans (by rw [times_one])

end TripleExpr

end Shex
