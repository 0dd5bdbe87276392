import Shex.Proofs.FirstMatch
import Shex.Proofs.Normalization

/-!
# Branches that match nothing

A branch under the empty cardinality adds no bag to the language of an alternative. The computed
intervals deviate from this: the interval of such a branch is empty even where none of its
constraints is used, and so is every sum with it. The whole alternative is taken to match nothing,
not even the bag that it matched without the branch, unless a group around it is repeated and none
of its constraints is used, because then the group is not looked into
(`TripleExpr.Gains.interval_eq`).

So an additional branch of this kind changes the outcome of matching exactly if the edges can be
divided among the constraints, but not in a way that leaves such a group aside
(`deadBranch_neutral_iff`).
-/

namespace Shex

namespace TripleExpr

variable {B : Bag} {b e e' : TripleExpr} {gs es fs : List TripleExpr}

/-! ## One operand of a group -/

/-- The interval of a group is computed from the left. -/
theorem intervalOfAll_append (acc : Cardinality) (es fs : List TripleExpr) :
    intervalOfAll B acc (es ++ fs) = (intervalOfAll B acc es).bind (intervalOfAll B · fs) := by
  induction es generalizing acc with
  | nil => rfl
  | cons e es ih =>
    rw [List.cons_append, intervalOfAll, intervalOfAll]
    cases e.interval B with
    | error f => rfl
    | ok i => exact ih _

/-- The interval of a choice is computed from the left. -/
theorem intervalOfAny_append (acc : Cardinality) (es fs : List TripleExpr) :
    intervalOfAny B acc (es ++ fs) = (intervalOfAny B acc es).bind (intervalOfAny B · fs) := by
  induction es generalizing acc with
  | nil => rfl
  | cons e es ih =>
    rw [List.cons_append, intervalOfAny, intervalOfAny]
    cases e.interval B with
    | error f => rfl
    | ok i => exact ih _

/-- A list can be checked part by part. -/
theorem allCountable_append :
    allCountable (es ++ fs) = true ↔ allCountable es = true ∧ allCountable fs = true := by
  simp [Normalize.allCountable_eq_all]

/-- Nothing has counts in common with nothing. -/
theorem intervalOfAll_of_empty (hc : allCountable fs = true) :
    intervalOfAll B .empty fs = .ok .empty := by
  induction fs with
  | nil => rfl
  | cons e es ih =>
    rw [allCountable, Bool.and_eq_true] at hc
    obtain ⟨i, hi⟩ := interval_total B hc.1
    rw [intervalOfAll, hi]
    change intervalOfAll B (Cardinality.empty.inter i) es = _
    rw [Cardinality.empty_inter, ih hc.2]

/-- Nothing can be added to nothing. -/
theorem intervalOfAny_of_empty (hc : allCountable fs = true) :
    intervalOfAny B .empty fs = .ok .empty := by
  induction fs with
  | nil => rfl
  | cons e es ih =>
    rw [allCountable, Bool.and_eq_true] at hc
    obtain ⟨i, hi⟩ := interval_total B hc.1
    rw [intervalOfAny, hi]
    change intervalOfAny B (Cardinality.empty + i) es = _
    rw [Cardinality.empty_add, ih hc.2]

/-- A group that takes all of its operands matches nothing if one operand does. -/
theorem intervalOfAll_of_dead (h : e.interval B = .ok .empty) (hes : allCountable es = true)
    (hfs : allCountable fs = true) (acc : Cardinality) :
    intervalOfAll B acc (es ++ e :: fs) = .ok .empty := by
  obtain ⟨i, hi⟩ : ∃ i, intervalOfAll B acc es = .ok i := intervalOfAll_total B hes
  rw [intervalOfAll_append, hi]
  change intervalOfAll B i (e :: fs) = _
  rw [intervalOfAll, h]
  change intervalOfAll B (i.inter .empty) fs = _
  rw [Cardinality.inter_empty, intervalOfAll_of_empty hfs]

/-- The interval of a group that takes one of its operands is empty if that of one operand is. -/
theorem intervalOfAny_of_dead (h : e.interval B = .ok .empty) (hes : allCountable es = true)
    (hfs : allCountable fs = true) (acc : Cardinality) :
    intervalOfAny B acc (es ++ e :: fs) = .ok .empty := by
  obtain ⟨i, hi⟩ : ∃ i, intervalOfAny B acc es = .ok i := intervalOfAny_total B hes
  rw [intervalOfAny_append, hi]
  change intervalOfAny B i (e :: fs) = _
  rw [intervalOfAny, h]
  change intervalOfAny B (i + .empty) fs = _
  rw [Cardinality.add_empty, intervalOfAny_of_empty hfs]

/-- The interval of a group depends on a part by its interval only. -/
theorem intervalOfAll_congr (h : e'.interval B = e.interval B) (acc : Cardinality) :
    intervalOfAll B acc (es ++ e' :: fs) = intervalOfAll B acc (es ++ e :: fs) := by
  simp only [intervalOfAll_append, intervalOfAll, h]

/-- The interval of a choice depends on an alternative by its interval only. -/
theorem intervalOfAny_congr (h : e'.interval B = e.interval B) (acc : Cardinality) :
    intervalOfAny B acc (es ++ e' :: fs) = intervalOfAny B acc (es ++ e :: fs) := by
  simp only [intervalOfAny_append, intervalOfAny, h]

/-- What is repeated with the empty cardinality has the empty interval, be it used or not. -/
theorem interval_repeated_empty (m : TripleMark) (e : TripleExpr) :
    (repeated m e .empty).interval B = .ok .empty := by
  rw [interval]
  split <;> rfl

/-! ## An additional branch -/

/-- `e'` is `e` with a branch `b` more in an alternative that is somewhere in it. `gs` are the
repeated groups around the alternative, the outermost first. The nodes around the branch may be new
ones. -/
inductive Gains (b : TripleExpr) : List TripleExpr → TripleExpr → TripleExpr → Prop
  | here {m m' : TripleMark} (es fs : List TripleExpr) :
      Gains b [] (.oneOf m (es ++ fs)) (.oneOf m' (es ++ b :: fs))
  | eachOf {m m' : TripleMark} (es fs : List TripleExpr) {gs : List TripleExpr}
      {e e' : TripleExpr} (h : Gains b gs e e') :
      Gains b gs (.eachOf m (es ++ e :: fs)) (.eachOf m' (es ++ e' :: fs))
  | oneOf {m m' : TripleMark} (es fs : List TripleExpr) {gs : List TripleExpr}
      {e e' : TripleExpr} (h : Gains b gs e e') :
      Gains b gs (.oneOf m (es ++ e :: fs)) (.oneOf m' (es ++ e' :: fs))
  | repeated {m m' : TripleMark} {c : Cardinality} {gs : List TripleExpr} {e e' : TripleExpr}
      (h : Gains b gs e e') : Gains b (e :: gs) (.repeated m e c) (.repeated m' e' c)

/-- Whether some of the groups has none of its constraints in the bag. -/
def someAbsent (B : Bag) (gs : List TripleExpr) : Bool := gs.any (·.isAbsent B)

namespace Gains

/-- The constraints are those of the expression and those of the branch. As sets: the branch stands
somewhere inside, so the order is not that of a list put behind another. -/
theorem mem_constraints_iff (h : Gains b gs e e') {c : TripleConstraint} :
    c ∈ e'.constraints ↔ c ∈ e.constraints ∨ c ∈ b.constraints := by
  induction h with
  | here =>
    simp only [constraints, Normalize.constraintsIn_eq_flatMap, List.flatMap_append,
      List.flatMap_cons, List.mem_append]
    tauto
  | eachOf _ _ _ ih | oneOf _ _ _ ih =>
    simp only [constraints, Normalize.constraintsIn_eq_flatMap, List.flatMap_append,
      List.flatMap_cons, List.mem_append, ih]
    tauto
  | repeated _ ih => rw [constraints, constraints, ih]

/-- The branch is no triple constraint on its own. -/
theorem isConstraint_eq_false (h : Gains b gs e e') :
    e.isConstraint = false ∧ e'.isConstraint = false := by
  cases h <;> exact ⟨rfl, rfl⟩

/-- As long as the branch is not used, the same groups are absent: it adds constraints to them, and
none of these occurs in the bag. -/
theorem isAbsent_eq (h : Gains b gs e e') (hb : b.isAbsent B = true) :
    e'.isAbsent B = e.isAbsent B := by
  rw [isAbsent, List.all_eq_true] at hb
  rw [Bool.eq_iff_iff, isAbsent, isAbsent, List.all_eq_true, List.all_eq_true]
  constructor
  · intro hall id hid
    obtain ⟨c, hc, rfl⟩ := List.mem_map.1 hid
    exact hall _ (List.mem_map_of_mem (h.mem_constraints_iff.2 (.inl hc)))
  · intro hall id hid
    obtain ⟨c, hc, rfl⟩ := List.mem_map.1 hid
    rcases h.mem_constraints_iff.1 hc with hc | hc
    · exact hall _ (List.mem_map_of_mem hc)
    · exact hb _ (List.mem_map_of_mem hc)

/-- A branch whose interval is empty makes the interval of the expression empty, unless a repeated
group around it is absent. -/
theorem interval_eq (h : Gains b gs e e') (hdead : b.interval B = .ok .empty)
    (hb : b.isAbsent B = true) (hc : e.isCountable = true) :
    e'.interval B = if someAbsent B gs then e.interval B else .ok .empty := by
  induction h with
  | here =>
    rw [isCountable, allCountable_append] at hc
    rw [interval, intervalOfAny_of_dead hdead hc.1 hc.2]
    rfl
  | eachOf _ _ _ ih =>
    rw [isCountable, allCountable_append, allCountable, Bool.and_eq_true] at hc
    have ih := ih hc.2.1
    rw [interval, interval]
    split at ih
    · rw [intervalOfAll_congr ih, if_pos ‹_›]
    · rw [intervalOfAll_of_dead ih hc.1 hc.2.2, if_neg ‹_›]
  | oneOf _ _ _ ih =>
    rw [isCountable, allCountable_append, allCountable, Bool.and_eq_true] at hc
    have ih := ih hc.2.1
    rw [interval, interval]
    split at ih
    · rw [intervalOfAny_congr ih, if_pos ‹_›]
    · rw [intervalOfAny_of_dead ih hc.1 hc.2.2, if_neg ‹_›]
  | @repeated m m' c gs e e' h ih =>
    obtain ⟨hgroup, hgroup'⟩ := h.isConstraint_eq_false
    rw [isCountable, hgroup] at hc
    simp only [Cardinality.isStandard, Bool.false_or, Bool.and_eq_true, Bool.or_eq_true,
      Cardinality.isEmpty_iff, decide_eq_true_iff] at hc
    have ih := ih hc.1.2
    rw [someAbsent, List.any_cons, ← someAbsent]
    -- an absent group is not looked into, and from an empty interval comes an empty one
    have hlook : ∀ (i : Cardinality) (answer : Cardinality → Cardinality), answer .empty = .empty →
        (if e.isAbsent B then .ok i else (e'.interval B).map answer) =
          if e.isAbsent B || someAbsent B gs then
            if e.isAbsent B then .ok i else (e.interval B).map answer
          else (.ok .empty : Except MalformedForm Cardinality) := by
      intro i answer hanswer
      rw [ih]
      cases e.isAbsent B <;> cases someAbsent B gs <;> simp [Except.map, hanswer]
    obtain ⟨(((rfl | rfl) | rfl) | rfl) | rfl, _⟩ := hc.1
    · rw [interval_optional hgroup, interval_optional hgroup', h.isAbsent_eq hb]
      exact hlook _ _ rfl
    · rw [interval_star hgroup, interval_star hgroup', h.isAbsent_eq hb]
      exact hlook _ _ rfl
    · rw [interval_plus hgroup, interval_plus hgroup', h.isAbsent_eq hb]
      exact hlook _ _ rfl
    · rw [interval_zero hgroup, interval_zero hgroup', h.isAbsent_eq hb]
      cases e.isAbsent B <;> cases someAbsent B gs <;> rfl
    · rw [interval_repeated_empty, interval_repeated_empty, ite_self]

end Gains

end TripleExpr

/-! ## What matching makes of it -/

/-- Relations that agree on the elements of the first list relate the same lists. -/
theorem forall₂_congr_of_mem {α β : Type} {R S : α → β → Prop} {as : List α} {bs : List β}
    (h : ∀ a ∈ as, ∀ b, R a b ↔ S a b) : List.Forall₂ R as bs ↔ List.Forall₂ S as bs := by
  induction as generalizing bs with
  | nil => simp
  | cons a as ih =>
    rw [List.forall_mem_cons] at h
    cases bs with
    | nil => simp
    | cons b bs => rw [List.forall₂_cons, List.forall₂_cons, h.1, ih h.2]

/-- The referee that gives the verdicts of `V` and runs no semantic actions. -/
def Referee.ofVerdicts (V : Term → ShapeExpr → Verdict) : Referee (Except ValidationFault) where
  verdict t e := .ok (V t e)
  accepts _ _ := .ok true
  tick := .ok ()

namespace Form

variable {V : Term → ShapeExpr → Verdict} {extra : List Iri} {f f' : Form} {edges : List Edge}

/-- Matching finds an assignment. -/
def Matches (V : Term → ShapeExpr → Verdict) (extra : List Iri) (f : Form) (edges : List Edge) :
    Prop :=
  ∃ a, findAssignment (.ofVerdicts V) f extra edges = .ok (.matched a)

/-- A referee without a limit counts as long as it is asked to. -/
theorem ofVerdicts_ticks (n : Nat) : (Referee.ofVerdicts V).ticks n = .ok () := by
  induction n with
  | zero => rfl
  | succ n ih => exact ih

/-- Where every semantic action accepts, the bag alone decides. The order of what is given does not
matter to it. -/
theorem approves_iff {chosen : List (Edge × Option ExprId)} :
    f.Approves (fun _ _ => true) (matchedBy chosen) ↔
      f.expr.matchesBag (chosen.filterMap Prod.snd) = .ok true := by
  rw [TripleExpr.matchesBag]
  constructor
  · rintro ⟨⟨i, hi, hone⟩, -⟩
    rw [map_snd_matchedBy] at hi
    rw [hi, ← hone]
    rfl
  · intro h
    cases hi : f.expr.interval (chosen.filterMap Prod.snd) with
    | error fault => rw [hi] at h; cases h
    | ok i =>
      rw [hi] at h
      exact ⟨⟨i, by rw [map_snd_matchedBy, hi], Except.ok.inj h⟩, fun _ _ => rfl⟩

/-- Matching finds an assignment if there is a choice whose bag makes up the expression once. This
is the outcome of the search in terms of choices alone (`findAssignment_exact`), where nothing
rejects an assignment. -/
theorem matches_iff (hcoh : f.IsCoherent)
    (htotal : ∀ chosen, f.IsChoice V extra edges chosen →
      ∃ i, f.expr.interval (chosen.filterMap Prod.snd) = .ok i) :
    f.Matches V extra edges ↔ ∃ chosen, f.IsChoice V extra edges chosen ∧
      f.expr.matchesBag (chosen.filterMap Prod.snd) = .ok true := by
  obtain ⟨s, result, n, hs, hends, heq⟩ := findAssignment_ends (r := .ofVerdicts V)
    (A := fun _ _ => true) (fun _ _ => rfl) (fun _ _ => rfl) hcoh htotal
  have hresult : findAssignment (.ofVerdicts V) f extra edges = .ok result := by
    rw [heq, ofVerdicts_ticks]
    rfl
  simp only [Matches, hresult, Except.ok.injEq, ← approves_iff]
  cases hends with
  | stuck hfail =>
    refine iff_of_false (fun ⟨_, h⟩ => nomatch h) ?_
    rintro ⟨chosen, hchoice, -⟩
    obtain ⟨mf, hmf⟩ := List.exists_mem_of_ne_nil _ hfail
    obtain ⟨e, he, hstuck, -⟩ := hs.mem_failures_iff.1 hmf
    exact hchoice.not_isStuck he hstuck
  | @found _ _ _ chosen hsplit happroved _ =>
    refine iff_of_true ⟨_, rfl⟩ ⟨chosen, ?_, happroved⟩
    rw [← mem_combinations_choices, hsplit]
    simp
  | exhausted _ hnone =>
    refine iff_of_false (fun ⟨_, h⟩ => nomatch h) ?_
    rintro ⟨chosen, hchoice, happroved⟩
    exact hnone chosen (mem_combinations_choices.2 hchoice) happroved

end Form

section
variable {V : Term → ShapeExpr → Verdict} {extra : List Iri} {edges : List Edge}
  {mk : TripleMark} {x e e' : TripleExpr} {gs : List TripleExpr} {as as' : List Annotated}
  {chosen : List (Edge × Option ExprId)}

/-- Edges that have no arc of the branch have the same choices with and without it. The constraints
of the branch are not among those that an edge may be given to, so its options are the same. -/
theorem TripleExpr.Gains.isChoice_iff (h : Gains (.repeated mk x .empty) gs e e')
    (harcs : ∀ c ∈ x.constraints, ∀ d ∈ edges, c.arc ≠ d.arc) :
    Form.IsChoice V extra ⟨e', as'⟩ edges chosen ↔ Form.IsChoice V extra ⟨e, as⟩ edges chosen := by
  have hwith : ∀ d ∈ edges, ∀ c, c ∈ e'.constraints ∧ c.arc = d.arc ↔
      c ∈ e.constraints ∧ c.arc = d.arc := by
    intro d hd c
    rw [h.mem_constraints_iff, constraints]
    constructor
    · rintro ⟨hc | hc, harc⟩
      · exact ⟨hc, harc⟩
      · exact absurd harc (harcs c hc d hd)
    · exact fun ⟨hc, harc⟩ => ⟨.inl hc, harc⟩
  have hconcerns : edges.filter (Form.concerns ⟨e', as'⟩) =
      edges.filter (Form.concerns ⟨e, as⟩) := by
    refine List.filter_congr fun d hd => ?_
    rw [Bool.eq_iff_iff, Form.concerns_iff, Form.concerns_iff]
    exact exists_congr fun c => hwith d hd c
  have hallows : ∀ d ∈ edges, ∀ o,
      Form.Allows (fun t v => V t v = .conforms) extra ⟨e', as'⟩ d o ↔
        Form.Allows (fun t v => V t v = .conforms) extra ⟨e, as⟩ d o := by
    intro d hd o
    cases o with
    | none => exact Iff.rfl
    | some id =>
      refine exists_congr fun c => ?_
      have := hwith d hd c
      constructor
      · rintro ⟨hc, harc, hrest⟩
        exact ⟨(this.1 ⟨hc, harc⟩).1, harc, hrest⟩
      · rintro ⟨hc, harc, hrest⟩
        exact ⟨(this.2 ⟨hc, harc⟩).1, harc, hrest⟩
  unfold Form.IsChoice
  rw [hconcerns]
  refine forall₂_congr_of_mem fun d hd c => ?_
  rw [hallows d (List.mem_filter.1 hd).1]

/-- Without the branch, there are no other value expressions. -/
theorem TripleExpr.Gains.isCoherent (h : Gains (.repeated mk x .empty) gs e e')
    (hcoh : Form.IsCoherent ⟨e', as'⟩) : Form.IsCoherent ⟨e, as⟩ := by
  have hsub : ∀ v ∈ e.values, v ∈ e'.values := fun v hv => by
    obtain ⟨c, hc, hcv⟩ := List.mem_filterMap.1 hv
    exact List.mem_filterMap.2 ⟨c, h.mem_constraints_iff.2 (.inl hc), hcv⟩
  exact fun v hv v' hv' => hcoh v (hsub v hv) v' (hsub v' hv')

/-- The bag of a choice has only constraints of the expression. -/
theorem Form.IsChoice.mem_constraintIds {f : Form} (h : f.IsChoice V extra edges chosen)
    {id : ExprId} (hid : id ∈ chosen.filterMap Prod.snd) : id ∈ f.expr.constraintIds := by
  obtain ⟨⟨d, o⟩, hc, ho⟩ := List.mem_filterMap.1 hid
  obtain rfl : o = some id := ho
  obtain ⟨k, hk, -, -, rfl⟩ := h.allows hc
  exact List.mem_map_of_mem hk

/-- The interval with the branch, for the bag of a choice. -/
theorem TripleExpr.Gains.interval_choice (h : Gains (.repeated mk x .empty) gs e e')
    (hcount : e.isCountable = true) (hfresh : ∀ id ∈ x.constraintIds, id ∉ e.constraintIds)
    (hchoice : Form.IsChoice V extra ⟨e, as⟩ edges chosen) :
    e'.interval (chosen.filterMap Prod.snd) =
      if someAbsent (chosen.filterMap Prod.snd) gs then e.interval (chosen.filterMap Prod.snd)
      else .ok .empty := by
  refine h.interval_eq (interval_repeated_empty mk x) ?_ hcount
  rw [isAbsent, List.all_eq_true, constraintIds_repeated]
  intro id hid
  rw [Bool.not_eq_true', Bool.eq_false_iff, Ne, List.contains_iff_mem]
  exact fun hmem => hfresh id hid (hchoice.mem_constraintIds hmem)

/-- Edges can be divided among the constraints such that the bag makes up the expression and some of
the groups is left aside. -/
def TripleExpr.MatchesAside (V : Term → ShapeExpr → Verdict) (extra : List Iri)
    (gs : List TripleExpr) (e : TripleExpr) (edges : List Edge) : Prop :=
  ∃ chosen, Form.IsChoice V extra ⟨e, []⟩ edges chosen ∧
    e.matchesBag (chosen.filterMap Prod.snd) = .ok true ∧
    ∃ g ∈ gs, ∀ id ∈ g.constraintIds, id ∉ chosen.filterMap Prod.snd

/-- With the branch, matching finds an assignment only if it can leave a group aside. -/
theorem TripleExpr.Gains.matches_iff (h : Gains (.repeated mk x .empty) gs e e')
    (hcount : e.isCountable = true) (hfresh : ∀ id ∈ x.constraintIds, id ∉ e.constraintIds)
    (hcoh : Form.IsCoherent ⟨e', as'⟩)
    (harcs : ∀ c ∈ x.constraints, ∀ d ∈ edges, c.arc ≠ d.arc) :
    Form.Matches V extra ⟨e', as'⟩ edges ↔ e.MatchesAside V extra gs edges := by
  have hchoices : ∀ {chosen}, Form.IsChoice V extra ⟨e', as'⟩ edges chosen ↔
      Form.IsChoice V extra ⟨e, []⟩ edges chosen := h.isChoice_iff harcs
  rw [Form.matches_iff hcoh]
  · refine exists_congr fun chosen => ?_
    rw [hchoices]
    refine and_congr_right fun hchoice => ?_
    have hinterval := h.interval_choice hcount hfresh hchoice
    have haside : someAbsent (chosen.filterMap Prod.snd) gs = true ↔
        ∃ g ∈ gs, ∀ id ∈ g.constraintIds, id ∉ chosen.filterMap Prod.snd := by
      simp [someAbsent, isAbsent]
    rw [← haside, matchesBag, matchesBag, hinterval]
    cases someAbsent (chosen.filterMap Prod.snd) gs with
    | true => simp
    | false =>
      simp only [Bool.false_eq_true, and_false, iff_false]
      intro h
      cases h
  · -- the branch is not required to be countable, so there is an interval for choices only
    intro chosen hchoice
    have hchoice := hchoices.1 hchoice
    rw [h.interval_choice hcount hfresh hchoice]
    split
    · exact interval_total _ hcount
    · exact ⟨_, rfl⟩

/-- An additional branch under the empty cardinality, with constraints of its own whose arcs no edge
has, makes no difference to matching if and only if edges that can be matched at all can be matched
without the constraints of some group that is repeated around the branch. -/
theorem deadBranch_neutral_iff (h : TripleExpr.Gains (.repeated mk x .empty) gs e e')
    (hsorbe : e.isSorbe = true) (hfresh : ∀ id ∈ x.constraintIds, id ∉ e.constraintIds)
    (hcoh : Form.IsCoherent ⟨e', as'⟩)
    (harcs : ∀ c ∈ x.constraints, ∀ d ∈ edges, c.arc ≠ d.arc) :
    (Form.Matches V extra ⟨e', as'⟩ edges ↔ Form.Matches V extra ⟨e, as⟩ edges) ↔
      (Form.Matches V extra ⟨e, as⟩ edges → e.MatchesAside V extra gs edges) := by
  rw [TripleExpr.isSorbe, Bool.and_eq_true] at hsorbe
  have hcoh' : Form.IsCoherent ⟨e, as⟩ := h.isCoherent hcoh
  rw [h.matches_iff hsorbe.1 hfresh hcoh harcs]
  refine ⟨fun hiff => hiff.2, fun himp => ⟨?_, himp⟩⟩
  rintro ⟨chosen, hchoice, hbag, -⟩
  exact (Form.matches_iff hcoh' fun _ _ => TripleExpr.interval_total _ hsorbe.1).2
    ⟨chosen, hchoice, hbag⟩

end

/-- A triple constraint for an outgoing arc without a value expression. -/
def arcOnly (id : Nat) (predicate : String) : TripleExpr :=
  .constraint (.written ⟨⟨id⟩, []⟩) ⟨⟨predicate⟩, false⟩ none

/-- An alternative. -/
def alternative (id : Nat) (es : List TripleExpr) : TripleExpr := .oneOf (.written ⟨⟨id⟩, []⟩) es

/-- `q . {1,0}` -/
def deadBranch : TripleExpr := .repeated (.written ⟨⟨10⟩, []⟩) (arcOnly 11 "q") .empty

/-- One edge under `p` matches `p .`, and it does not match `p . | q . {1,0}`. The interval of the
second alternative is empty for every bag, and so is that of the whole choice. -/
theorem deadBranch_not_neutral :
    (alternative 0 [arcOnly 1 "p"]).isSorbe = true ∧
      TripleExpr.Gains deadBranch [] (alternative 0 [arcOnly 1 "p"])
        (alternative 0 [arcOnly 1 "p", deadBranch]) ∧
      (∀ id ∈ (arcOnly 11 "q").constraintIds, id ∉ (alternative 0 [arcOnly 1 "p"]).constraintIds) ∧
      (∀ c ∈ (arcOnly 11 "q").constraints, ∀ d ∈ [edgeTo "o"], c.arc ≠ d.arc) ∧
      ¬ (Form.Matches (fun _ _ => .conforms) [] ⟨alternative 0 [arcOnly 1 "p", deadBranch], []⟩
            [edgeTo "o"] ↔
          Form.Matches (fun _ _ => .conforms) [] ⟨alternative 0 [arcOnly 1 "p"], []⟩
            [edgeTo "o"]) := by
  have hwith : ¬ Form.Matches (fun _ _ => .conforms) []
      ⟨alternative 0 [arcOnly 1 "p", deadBranch], []⟩ [edgeTo "o"] := by
    rintro ⟨a, ha⟩
    have hfails : findAssignment (.ofVerdicts fun _ _ => .conforms)
        ⟨alternative 0 [arcOnly 1 "p", deadBranch], []⟩ [] [edgeTo "o"] =
          .ok (.failed [.noAssignment 1]) := rfl
    rw [hfails] at ha
    cases ha
  have hwithout : Form.Matches (fun _ _ => .conforms) [] ⟨alternative 0 [arcOnly 1 "p"], []⟩
      [edgeTo "o"] := ⟨⟨[(edgeTo "o", ⟨1⟩)], []⟩, rfl⟩
  exact ⟨by decide, .here [arcOnly 1 "p"] [], by decide, by decide,
    fun h => hwith (h.2 hwithout)⟩

/-- `p . ; (r .)*` -/
def asideGroup : TripleExpr :=
  .eachOf (.written ⟨⟨2⟩, []⟩)
    [arcOnly 3 "p", .repeated (.written ⟨⟨4⟩, []⟩) (alternative 0 [arcOnly 1 "r"]) .star]

/-- `p . ; (r . | q . {1,0})*` -/
def asideGroupWith : TripleExpr :=
  .eachOf (.written ⟨⟨2⟩, []⟩)
    [arcOnly 3 "p",
      .repeated (.written ⟨⟨4⟩, []⟩) (alternative 0 [arcOnly 1 "r", deadBranch]) .star]

/-- The branch is neutral where the group with the alternative is not used. -/
theorem asideGroup_neutral :
    Form.Matches (fun _ _ => .conforms) [] ⟨asideGroupWith, []⟩ [edgeTo "o"] ↔
      Form.Matches (fun _ _ => .conforms) [] ⟨asideGroup, []⟩ [edgeTo "o"] := by
  have hgains : TripleExpr.Gains deadBranch [alternative 0 [arcOnly 1 "r"]] asideGroup
      asideGroupWith :=
    .eachOf [arcOnly 3 "p"] [] (.repeated (.here [arcOnly 1 "r"] []))
  have hvalues : asideGroupWith.values = [] := by decide
  refine (deadBranch_neutral_iff hgains (by decide) (by decide)
    (fun v hv => absurd (hvalues ▸ hv) List.not_mem_nil) (by decide)).2 fun _ => ?_
  exact ⟨[(edgeTo "o", some ⟨3⟩)], Form.mem_combinations_choices.1 (by decide), by rfl,
    alternative 0 [arcOnly 1 "r"], by simp, by decide⟩

end Shex
