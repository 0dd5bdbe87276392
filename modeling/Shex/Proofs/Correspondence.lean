import Mathlib.Data.List.Forall2
import Mathlib.Logic.Relator
import Shex.Proofs.Counting

/-!
# Expressions of the same structure

`TripleExpr.Corresponds A e e'` says that two triple expressions have the same structure, and that
their triple constraints are related by `A` one by one. What counting computes from a bag depends on
the structure alone, if identities correspond one to one (`TripleExpr.Corresponds.matchesBag_eq`).
-/

namespace Shex

/-- Two marks with the same effect: they are the same, or neither has semantic actions. -/
def Mark.ActsAs (m m' : Mark) : Prop := m = m' ∨ m.actions = [] ∧ m'.actions = []

/-- A node acts as itself. -/
theorem Mark.ActsAs.refl (m : Mark) : m.ActsAs m := .inl rfl

/-- Nodes that act alike have the same actions. -/
theorem Mark.ActsAs.actions {m m' : Mark} (h : m.ActsAs m') : m.actions = m'.actions := by
  rcases h with rfl | ⟨h, h'⟩
  · rfl
  · rw [h, h']

/-- To act alike is symmetric. -/
theorem Mark.ActsAs.symm {m m' : Mark} (h : m.ActsAs m') : m'.ActsAs m :=
  h.imp Eq.symm And.symm

/-- To act alike is transitive. Nodes without actions act alike whatever their identities are, so
the middle one may have another identity than both others. -/
theorem Mark.ActsAs.trans {m m' m'' : Mark} (h : m.ActsAs m') (h' : m'.ActsAs m'') :
    m.ActsAs m'' := by
  rcases h with rfl | ⟨h, hm'⟩
  · exact h'
  · exact .inr ⟨h, h'.actions.symm.trans hm'⟩

namespace TripleExpr

mutual

/-- Two expressions have the same structure, their sources have the same effect, and their triple
constraints are related by `A`. -/
inductive Corresponds (A : TripleConstraint → TripleConstraint → Prop) :
    TripleExpr → TripleExpr → Prop
  | eachOf {m m' : TripleMark} {es es' : List TripleExpr} (hm : m.source.ActsAs m'.source)
      (hes : AllCorrespond A es es') : Corresponds A (.eachOf m es) (.eachOf m' es')
  | oneOf {m m' : TripleMark} {es es' : List TripleExpr} (hm : m.source.ActsAs m'.source)
      (hes : AllCorrespond A es es') : Corresponds A (.oneOf m es) (.oneOf m' es')
  | repeated {m m' : TripleMark} {e e' : TripleExpr} {c : Cardinality}
      (hm : m.source.ActsAs m'.source) (he : Corresponds A e e') :
      Corresponds A (.repeated m e c) (.repeated m' e' c)
  | constraint {m m' : TripleMark} {a a' : Arc} {v v' : Option ShapeExpr}
      (hm : m.source.ActsAs m'.source) (h : A ⟨m, a, v⟩ ⟨m', a', v'⟩) :
      Corresponds A (.constraint m a v) (.constraint m' a' v')
  | ref {m m' : TripleMark} {l : Label} (hm : m.source.ActsAs m'.source) :
      Corresponds A (.ref m l) (.ref m' l)
  | empty {m m' : TripleMark} (hm : m.source.ActsAs m'.source) :
      Corresponds A (.empty m) (.empty m')

/-- The expressions of two lists correspond one by one. -/
inductive AllCorrespond (A : TripleConstraint → TripleConstraint → Prop) :
    List TripleExpr → List TripleExpr → Prop
  | nil : AllCorrespond A [] []
  | cons {e e' : TripleExpr} {es es' : List TripleExpr} (he : Corresponds A e e')
      (hes : AllCorrespond A es es') : AllCorrespond A (e :: es) (e' :: es')

end

variable {A A' : TripleConstraint → TripleConstraint → Prop}

/-- Lists of expressions have the same structure if their members have, one by one. With it the
parts of groups and choices are treated by the lemmas on `List.Forall₂`. -/
theorem allCorrespond_iff {es es' : List TripleExpr} :
    AllCorrespond A es es' ↔ List.Forall₂ (Corresponds A) es es' := by
  constructor
  · intro h
    induction es generalizing es' with
    | nil =>
      cases h
      exact .nil
    | cons e es ih =>
      cases h with
      | cons he hes => exact .cons he (ih hes)
  · intro h
    induction h with
    | nil => exact .nil
    | cons he _ ih => exact .cons he ih

mutual

/-- An expression has its own structure, if its constraints are related to themselves. -/
theorem Corresponds.refl (h : ∀ c, A c c) : ∀ e : TripleExpr, Corresponds A e e
  | .eachOf _ es => .eachOf (.refl _) (AllCorrespond.refl h es)
  | .oneOf _ es => .oneOf (.refl _) (AllCorrespond.refl h es)
  | .repeated _ e _ => .repeated (.refl _) (Corresponds.refl h e)
  | .constraint _ _ _ => .constraint (.refl _) (h _)
  | .ref _ _ => .ref (.refl _)
  | .empty _ => .empty (.refl _)

/-- The same for lists of expressions. -/
theorem AllCorrespond.refl (h : ∀ c, A c c) : ∀ es : List TripleExpr, AllCorrespond A es es
  | [] => .nil
  | e :: es => .cons (Corresponds.refl h e) (AllCorrespond.refl h es)

end

mutual

/-- The structure is the same the other way round. The relation of the constraints is turned round
as well. -/
theorem Corresponds.symm (h : ∀ c d, A c d → A' d c) :
    ∀ {e e' : TripleExpr}, Corresponds A e e' → Corresponds A' e' e
  | _, _, .eachOf hm hes => .eachOf hm.symm (hes.symm h)
  | _, _, .oneOf hm hes => .oneOf hm.symm (hes.symm h)
  | _, _, .repeated hm he => .repeated hm.symm (he.symm h)
  | _, _, .constraint hm hc => .constraint hm.symm (h _ _ hc)
  | _, _, .ref hm => .ref hm.symm
  | _, _, .empty hm => .empty hm.symm

/-- The same for lists of expressions. -/
theorem AllCorrespond.symm (h : ∀ c d, A c d → A' d c) :
    ∀ {es es' : List TripleExpr}, AllCorrespond A es es' → AllCorrespond A' es' es
  | _, _, .nil => .nil
  | _, _, .cons he hes => .cons (he.symm h) (hes.symm h)

end

mutual

/-- Expressions of the structure of a third one have the same structure, where the relations of the
constraints compose. -/
theorem Corresponds.trans {A'' : TripleConstraint → TripleConstraint → Prop}
    (h : ∀ c d k, A c d → A' d k → A'' c k) : ∀ {e e' e'' : TripleExpr},
      Corresponds A e e' → Corresponds A' e' e'' → Corresponds A'' e e''
  | _, _, _, .eachOf hm hes, .eachOf hm' hes' => .eachOf (hm.trans hm') (hes.trans h hes')
  | _, _, _, .oneOf hm hes, .oneOf hm' hes' => .oneOf (hm.trans hm') (hes.trans h hes')
  | _, _, _, .repeated hm he, .repeated hm' he' => .repeated (hm.trans hm') (he.trans h he')
  | _, _, _, .constraint hm hc, .constraint hm' hc' => .constraint (hm.trans hm') (h _ _ _ hc hc')
  | _, _, _, .ref hm, .ref hm' => .ref (hm.trans hm')
  | _, _, _, .empty hm, .empty hm' => .empty (hm.trans hm')

/-- The same for lists of expressions. -/
theorem AllCorrespond.trans {A'' : TripleConstraint → TripleConstraint → Prop}
    (h : ∀ c d k, A c d → A' d k → A'' c k) : ∀ {es es' es'' : List TripleExpr},
      AllCorrespond A es es' → AllCorrespond A' es' es'' → AllCorrespond A'' es es''
  | _, _, _, .nil, .nil => .nil
  | _, _, _, .cons he hes, .cons he' hes' => .cons (he.trans h he') (hes.trans h hes')

end

namespace Corresponds

variable {e e' : TripleExpr}

/-- The structure says whether an expression is a triple constraint. -/
theorem isConstraint_eq (h : Corresponds A e e') : e.isConstraint = e'.isConstraint := by
  cases h <;> rfl

end Corresponds

mutual

/-- Whether the empty bag matches is a matter of structure. -/
theorem Corresponds.matchesEmpty_eq : ∀ {e e' : TripleExpr}, Corresponds A e e' →
    e.matchesEmpty = e'.matchesEmpty
  | _, _, .eachOf _ hes => by rw [matchesEmpty, matchesEmpty, hes.allMatchEmpty_eq]
  | _, _, .oneOf _ hes => by rw [matchesEmpty, matchesEmpty, hes.anyMatchesEmpty_eq]
  | _, _, .repeated _ he => by rw [matchesEmpty, matchesEmpty, he.matchesEmpty_eq]
  | _, _, .constraint _ _ => by rw [matchesEmpty, matchesEmpty]
  | _, _, .ref _ => by rw [matchesEmpty, matchesEmpty]
  | _, _, .empty _ => by rw [matchesEmpty, matchesEmpty]

/-- The same for the members of a group. -/
theorem AllCorrespond.allMatchEmpty_eq : ∀ {es es' : List TripleExpr}, AllCorrespond A es es' →
    allMatchEmpty es = allMatchEmpty es'
  | _, _, .nil => rfl
  | _, _, .cons he hes => by
    rw [allMatchEmpty, allMatchEmpty, he.matchesEmpty_eq, hes.allMatchEmpty_eq]

/-- The same for the members of an alternative. -/
theorem AllCorrespond.anyMatchesEmpty_eq : ∀ {es es' : List TripleExpr}, AllCorrespond A es es' →
    anyMatchesEmpty es = anyMatchesEmpty es'
  | _, _, .nil => rfl
  | _, _, .cons he hes => by
    rw [anyMatchesEmpty, anyMatchesEmpty, he.matchesEmpty_eq, hes.anyMatchesEmpty_eq]

end

mutual

/-- Whether an expression can be counted is a matter of structure. -/
theorem Corresponds.isCountable_eq : ∀ {e e' : TripleExpr}, Corresponds A e e' →
    e.isCountable = e'.isCountable
  | _, _, .eachOf _ hes => by rw [isCountable, isCountable, hes.allCountable_eq]
  | _, _, .oneOf _ hes => by rw [isCountable, isCountable, hes.allCountable_eq]
  | _, _, .repeated _ he => by
    rw [isCountable, isCountable, he.isConstraint_eq, he.isCountable_eq, he.matchesEmpty_eq]
  | _, _, .constraint _ _ => by rw [isCountable, isCountable]
  | _, _, .ref _ => by rw [isCountable, isCountable]
  | _, _, .empty _ => by rw [isCountable, isCountable]

/-- The same for lists of expressions. -/
theorem AllCorrespond.allCountable_eq : ∀ {es es' : List TripleExpr}, AllCorrespond A es es' →
    allCountable es = allCountable es'
  | _, _, .nil => rfl
  | _, _, .cons he hes => by
    rw [allCountable, allCountable, he.isCountable_eq, hes.allCountable_eq]

end

mutual

/-- The constraints correspond one by one, in the order in which they are met. So bags of
constraints of one expression can be read as bags of the other. -/
theorem Corresponds.constraints : ∀ {e e' : TripleExpr}, Corresponds A e e' →
    List.Forall₂ A e.constraints e'.constraints
  | _, _, .eachOf _ hes => by
    rw [TripleExpr.constraints, TripleExpr.constraints]
    exact hes.constraintsIn
  | _, _, .oneOf _ hes => by
    rw [TripleExpr.constraints, TripleExpr.constraints]
    exact hes.constraintsIn
  | _, _, .repeated _ he => by
    rw [TripleExpr.constraints, TripleExpr.constraints]
    exact he.constraints
  | _, _, .constraint _ h => by
    rw [TripleExpr.constraints, TripleExpr.constraints]
    exact .cons h .nil
  | _, _, .ref _ => by
    rw [TripleExpr.constraints, TripleExpr.constraints]
    exact .nil
  | _, _, .empty _ => by
    rw [TripleExpr.constraints, TripleExpr.constraints]
    exact .nil

/-- The same for lists of expressions. -/
theorem AllCorrespond.constraintsIn : ∀ {es es' : List TripleExpr}, AllCorrespond A es es' →
    List.Forall₂ A (TripleExpr.constraintsIn es) (TripleExpr.constraintsIn es')
  | _, _, .nil => .nil
  | _, _, .cons he hes => by
    rw [TripleExpr.constraintsIn, TripleExpr.constraintsIn]
    exact List.rel_append he.constraints hes.constraintsIn

end

mutual

/-- Related constraints may be related otherwise if they have the same place. That is less to show
than for all related constraints, since which one stands where is known. -/
theorem Corresponds.imp : ∀ {e e' : TripleExpr}, Corresponds A e e' →
    (∀ x ∈ e.constraints.zip e'.constraints, A x.1 x.2 → A' x.1 x.2) → Corresponds A' e e'
  | _, _, .eachOf hm hes, h => .eachOf hm (hes.imp (by simpa only [TripleExpr.constraints] using h))
  | _, _, .oneOf hm hes, h => .oneOf hm (hes.imp (by simpa only [TripleExpr.constraints] using h))
  | _, _, .repeated hm he, h =>
    .repeated hm (he.imp (by simpa only [TripleExpr.constraints] using h))
  | _, _, .constraint hm hc, h => by
    rw [TripleExpr.constraints, TripleExpr.constraints] at h
    exact .constraint hm (h _ (List.mem_singleton_self _) hc)
  | _, _, .ref hm, _ => .ref hm
  | _, _, .empty hm, _ => .empty hm

/-- The same for lists of expressions. -/
theorem AllCorrespond.imp : ∀ {es es' : List TripleExpr}, AllCorrespond A es es' →
    (∀ x ∈ (constraintsIn es).zip (constraintsIn es'), A x.1 x.2 → A' x.1 x.2) →
      AllCorrespond A' es es'
  | _, _, .nil, _ => .nil
  | _, _, .cons he hes, h => by
    rw [constraintsIn, constraintsIn, List.zip_append he.constraints.length_eq,
      List.forall_mem_append] at h
    exact .cons (he.imp h.1) (hes.imp h.2)

end

/-! ### Counting -/

section
variable {I : ExprId → ExprId → Prop} {b b' : Bag}

/-- The identities of the constraints correspond if those of related constraints do. -/
theorem Corresponds.constraintIds {e e' : TripleExpr} (hA : ∀ c d, A c d → I c.id d.id)
    (h : Corresponds A e e') : List.Forall₂ I e.constraintIds e'.constraintIds := by
  rw [TripleExpr.constraintIds, TripleExpr.constraintIds]
  exact List.rel_map (fun c d => hA c d) h.constraints

/-- Corresponding identities are as often in corresponding bags. For this the relation must be one
to one: otherwise two letters of one bag could correspond to one of the other. -/
theorem count_eq_of_forall₂ (hI : Relator.BiUnique I) (hb : List.Forall₂ I b b') {i j : ExprId}
    (hij : I i j) : b.count i = b'.count j := by
  induction hb with
  | nil => rfl
  | @cons x y b b' hxy _ ih =>
    have hsame : x = i ↔ y = j := Relator.rel_eq hI hxy hij
    rw [List.count_cons, List.count_cons, ih]
    by_cases hx : x = i
    · simp [hx, hsame.1 hx]
    · simp [hx, mt hsame.2 hx]

/-- Corresponding expressions are absent from corresponding bags, or neither is. That identities
correspond one to one is needed here: a constraint must not be found for the sake of another one. -/
theorem Corresponds.isAbsent_eq (hI : Relator.BiUnique I) (hb : List.Forall₂ I b b')
    (hA : ∀ c d, A c d → I c.id d.id) {e e' : TripleExpr} (h : Corresponds A e e') :
    e.isAbsent b = e'.isAbsent b' := by
  have hids := h.constraintIds hA
  unfold isAbsent
  generalize e.constraintIds = is at hids
  generalize e'.constraintIds = js at hids
  induction hids with
  | nil => rfl
  | @cons i j is js hij _ ih =>
    have hcontains : b.contains i = b'.contains j := by
      rw [Bool.eq_iff_iff, List.contains_iff_mem, List.contains_iff_mem, ← List.count_pos_iff,
        ← List.count_pos_iff, count_eq_of_forall₂ hI hb hij]
    rw [List.all_cons, List.all_cons, hcontains, ih]

mutual

/-- Counting gives the same for corresponding bags, since it asks of an identity only how often it
is in the bag. -/
theorem Corresponds.interval_eq (hI : Relator.BiUnique I) (hb : List.Forall₂ I b b')
    (hA : ∀ c d, A c d → I c.id d.id) : ∀ {e e' : TripleExpr}, Corresponds A e e' →
      e.isCountable = true → e.interval b = e'.interval b'
  | _, _, .eachOf _ hes, hc => by
    rw [isCountable] at hc
    rw [interval, interval, hes.intervalOfAll_eq hI hb hA hc]
  | _, _, .oneOf _ hes, hc => by
    rw [isCountable] at hc
    rw [interval, interval, hes.intervalOfAny_eq hI hb hA hc]
  | .repeated m e c, .repeated m' e' _, .repeated _ he, hc => by
    cases hgroup : e.isConstraint with
    | true =>
      have hgroup' := he.isConstraint_eq.symm.trans hgroup
      rw [interval, interval, if_pos hgroup, if_pos hgroup']
      cases he with
      | constraint _ h =>
        rw [Bag.amount, Bag.amount]
        exact congrArg (fun n => Except.ok (Cardinality.quot (UInt32.ofNat n) c))
          (count_eq_of_forall₂ hI hb (hA _ _ h))
      | eachOf => cases hgroup
      | oneOf => cases hgroup
      | repeated => cases hgroup
      | ref => cases hgroup
      | empty => cases hgroup
    | false =>
      have hgroup' := he.isConstraint_eq.symm.trans hgroup
      rw [isCountable, hgroup] at hc
      simp only [Cardinality.isStandard, Bool.false_or, Bool.and_eq_true, Bool.or_eq_true,
        Cardinality.isEmpty_iff, decide_eq_true_iff] at hc
      have hinner := he.interval_eq hI hb hA hc.1.2
      have habsent := he.isAbsent_eq hI hb hA
      obtain ⟨(((rfl | rfl) | rfl) | rfl) | rfl, _⟩ := hc.1
      · rw [interval_optional hgroup, interval_optional hgroup', hinner, habsent]
      · rw [interval_star hgroup, interval_star hgroup', hinner, habsent]
      · rw [interval_plus hgroup, interval_plus hgroup', hinner, habsent]
      · rw [interval_zero hgroup, interval_zero hgroup', habsent]
      · rw [interval, interval, hgroup, hgroup']
        rfl
  | _, _, .constraint _ h, _ => by
    rw [interval, interval, Bag.amount, Bag.amount]
    exact congrArg (fun n => Except.ok (Cardinality.exactly (UInt32.ofNat n)))
      (count_eq_of_forall₂ hI hb (hA _ _ h))
  | _, _, .ref _, hc => by simp [isCountable] at hc
  | _, _, .empty _, _ => by rw [interval, interval]

/-- The same for the members of a group. -/
theorem AllCorrespond.intervalOfAll_eq (hI : Relator.BiUnique I) (hb : List.Forall₂ I b b')
    (hA : ∀ c d, A c d → I c.id d.id) : ∀ {es es' : List TripleExpr} {acc : Cardinality},
    AllCorrespond A es es' → allCountable es = true →
      intervalOfAll b acc es = intervalOfAll b' acc es'
  | _, _, _, .nil, _ => rfl
  | _, _, _, .cons he hes, hc => by
    rw [allCountable, Bool.and_eq_true] at hc
    rw [intervalOfAll, intervalOfAll, he.interval_eq hI hb hA hc.1]
    exact bind_congr fun i => hes.intervalOfAll_eq hI hb hA hc.2

/-- The same for the members of an alternative. -/
theorem AllCorrespond.intervalOfAny_eq (hI : Relator.BiUnique I) (hb : List.Forall₂ I b b')
    (hA : ∀ c d, A c d → I c.id d.id) : ∀ {es es' : List TripleExpr} {acc : Cardinality},
    AllCorrespond A es es' → allCountable es = true →
      intervalOfAny b acc es = intervalOfAny b' acc es'
  | _, _, _, .nil, _ => rfl
  | _, _, _, .cons he hes, hc => by
    rw [allCountable, Bool.and_eq_true] at hc
    rw [intervalOfAny, intervalOfAny, he.interval_eq hI hb hA hc.1]
    exact bind_congr fun i => hes.intervalOfAny_eq hI hb hA hc.2

end

/-- Corresponding bags match both of two corresponding expressions, or neither. -/
theorem Corresponds.matchesBag_eq (hI : Relator.BiUnique I) (hb : List.Forall₂ I b b')
    (hA : ∀ c d, A c d → I c.id d.id) {e e' : TripleExpr} (h : Corresponds A e e')
    (hc : e.isCountable = true) : e.matchesBag b = e'.matchesBag b' := by
  rw [matchesBag, matchesBag, h.interval_eq hI hb hA hc]

end

end TripleExpr

end Shex
