import Shex.Proofs.Descents

/-!
# Descents that enter a label once

A descent that enters a labelled triple expression from inside itself can be cut short
(`Schema.LeadsTo.exists_simple`), but the shorter one may turn the sign less often. So no label is
missed among the dependencies of an expression, while a sign may be (`dependency_missed`), unless
labelled triple expressions are only entered from inside themselves with the same sign and in shapes
with the same extra predicates (`Schema.dependencies_exact`).
-/

namespace Shex

namespace Schema

variable {s : Schema} {x y z : Place} {l : Label} {ps qs : List Passage}

/-- What is met in a triple expression behind references is met by a descent. The extra predicates
on the way are kept: only a shape names new ones. -/
theorem Inside.exists_descent {via : List Label} {t u : TripleExpr} (h : s.Inside via t u)
    (extra : List Iri) : ∃ ps, s.Descent (.triple extra t) ps (.triple extra u) := by
  induction h with
  | self => exact ⟨[], .refl _⟩
  | eachOf he _ ih =>
    obtain ⟨ps, hps⟩ := ih
    exact ⟨_, .head (.eachOf he) hps⟩
  | oneOf he _ ih =>
    obtain ⟨ps, hps⟩ := ih
    exact ⟨_, .head (.oneOf he) hps⟩
  | repeated _ ih =>
    obtain ⟨ps, hps⟩ := ih
    exact ⟨_, .head .repeated hps⟩
  | ref hl _ ih =>
    obtain ⟨ps, hps⟩ := ih
    exact ⟨_, .head (.ref hl) hps⟩

/-- The two lists have the same predicates. -/
def SameExtra (extra extra' : List Iri) : Prop := ∀ i, i ∈ extra ↔ i ∈ extra'

/-- The two lists of extra predicates turn the same signs. -/
theorem SameExtra.contains_eq {extra extra' : List Iri} (h : SameExtra extra extra') (i : Iri) :
    extra.contains i = extra'.contains i := by
  rw [Bool.eq_iff_iff, List.contains_iff_mem, List.contains_iff_mem]
  exact h i

/-- A step from a triple expression leads to a value expression, or it is the same whatever the
extra predicates are. -/
theorem Descends.of_triple {extra : List Iri} {t : TripleExpr} {step : Passage}
    (h : s.Descends (.triple extra t) step y) :
    (∃ m a v, t = .constraint m a (some v) ∧ step = .value (extra.contains a.predicate) ∧
      y = .shape v) ∨
    ∃ u, y = .triple extra u ∧ ∀ extra', s.Descends (.triple extra' t) step (.triple extra' u) := by
  cases h with
  | value => exact .inl ⟨_, _, _, rfl, rfl, rfl⟩
  | eachOf ht => exact .inr ⟨_, rfl, fun _ => .eachOf ht⟩
  | oneOf ht => exact .inr ⟨_, rfl, fun _ => .oneOf ht⟩
  | repeated => exact .inr ⟨_, rfl, fun _ => .repeated⟩
  | ref hl => exact .inr ⟨_, rfl, fun _ => .ref hl⟩

/-- What a triple expression leads to does not depend on the shape that it is in. Only the sign
does, if the shapes have different extra predicates. -/
theorem LeadsTo.of_triple {extra : List Iri} {t : TripleExpr}
    (h : s.LeadsTo (.triple extra t) ps l) (extra' : List Iri) :
    ∃ qs, s.LeadsTo (.triple extra' t) qs l ∧ enteredOn qs = enteredOn ps ∧
      (SameExtra extra extra' → turnsOn qs = turnsOn ps) := by
  obtain ⟨z, hdescent, hnames⟩ := h
  generalize hx : Place.triple extra t = x at hdescent
  induction hdescent generalizing t with
  | refl =>
    subst hx
    cases hnames
  | @head x y z step ps hstep hrest ih =>
    subst hx
    rcases hstep.of_triple with ⟨m, a, v, rfl, rfl, rfl⟩ | ⟨u, rfl, hstep'⟩
    · -- From here on the extra predicates are not looked at any more.
      refine ⟨_, ⟨z, .head .value hrest, hnames⟩, by simp [Passage.label?], fun hsame => ?_⟩
      rw [turnsOn_cons, turnsOn_cons, hsame.contains_eq]
    · obtain ⟨qs, ⟨z', hqs, hnames'⟩, hentered, hturns⟩ := ih hnames rfl
      refine ⟨step :: qs, ⟨z', .head (hstep' extra') hqs, hnames'⟩, ?_, fun hsame => ?_⟩
      · rw [enteredOn_cons, enteredOn_cons, hentered]
      · rw [turnsOn_cons, turnsOn_cons, hturns hsame]

/-- A descent that enters a label comes to a reference to it, and goes on from its declaration. So
it can be cut there and be continued otherwise. -/
theorem LeadsTo.split {a : Label} (h : s.LeadsTo x ps l) (ha : a ∈ enteredOn ps) :
    ∃ before after extra m t, ps = before ++ .entry a :: after ∧
      s.Descent x before (.triple extra (.ref m a)) ∧ s.tripleExpr? a = some t ∧
        s.LeadsTo (.triple extra t) after l := by
  obtain ⟨z, hdescent, hnames⟩ := h
  induction hdescent with
  | refl => cases ha
  | @head x y z step ps hstep hrest ih =>
    by_cases hentry : step = .entry a
    · subst hentry
      cases hstep with
      | ref hl => exact ⟨[], ps, _, _, _, rfl, .refl _, hl, ⟨z, hrest, hnames⟩⟩
    · have ha' : a ∈ enteredOn ps := by
        rw [enteredOn_cons, List.mem_append] at ha
        refine ha.resolve_left fun hlabel => hentry ?_
        cases step <;> simp_all [Passage.label?]
      obtain ⟨before, after, extra, m, t, rfl, hbefore, hl, hafter⟩ := ih ha' hnames
      exact ⟨step :: before, after, extra, m, t, rfl, .head hstep hbefore, hl, hafter⟩

/-- Where a labelled triple expression is entered from inside itself, the sign is the one with which
it was entered before, and the extra predicates are the same. -/
def ReentersAlike (s : Schema) (x : Place) : Prop :=
  ∀ ps extra m l t, s.Descent x ps (.triple extra (.ref m l)) → s.tripleExpr? l = some t →
    ∀ qs extra' m', s.Descent (.triple extra t) qs (.triple extra' (.ref m' l)) →
      Even (turnsOn qs) ∧ SameExtra extra' extra

/-- The condition is handed on by a step: what can be met below a part can be met below the
whole. -/
theorem ReentersAlike.of_descends {step : Passage} (h : s.ReentersAlike x)
    (hstep : s.Descends x step y) : s.ReentersAlike y :=
  fun ps extra m l t hps => h (step :: ps) extra m l t (.head hstep hps)

/-- A label that is led to is led to by a descent that enters no labelled triple expression twice.
What lies between two entries of the same one is cut out, and this keeps the sign if the entries are
alike. -/
theorem LeadsTo.exists_simple (h : s.LeadsTo x ps l) :
    ∃ qs, s.LeadsTo x qs l ∧ (enteredOn qs).Nodup ∧
      (s.ReentersAlike x → (Even (turnsOn qs) ↔ Even (turnsOn ps))) := by
  obtain ⟨z, hdescent, hnames⟩ := h
  induction hdescent with
  | refl x => exact ⟨[], ⟨x, .refl x, hnames⟩, List.nodup_nil, fun _ => Iff.rfl⟩
  | @head x y z step ps hstep hrest ih =>
    obtain ⟨qs, hqs, hnodup, heven⟩ := ih hnames
    by_cases hagain : ∃ a, step = .entry a ∧ a ∈ enteredOn qs
    · obtain ⟨a, rfl, ha⟩ := hagain
      obtain ⟨before, after, extra', m', t, rfl, hbefore, hl, hafter⟩ := hqs.split ha
      cases hstep with
      | @ref extra m _ t' hl' =>
        cases hl.symm.trans hl'
        obtain ⟨after', ⟨z', hafter', hnames'⟩, hentered, hturns⟩ := hafter.of_triple extra
        refine ⟨.entry a :: after', ⟨z', .head (.ref hl) hafter', hnames'⟩, ?_, fun halike => ?_⟩
        · rw [enteredOn_append] at hnodup
          rw [enteredOn_cons, hentered, ← enteredOn_cons]
          exact (List.nodup_append.1 hnodup).2.1
        · obtain ⟨hmiddle, hsame⟩ := halike [] extra m a t (.refl _) hl before extra' m' hbefore
          have hcut := heven (halike.of_descends (.ref hl))
          rw [turnsOn_append, turnsOn_cons, Nat.even_add, iff_true_left hmiddle] at hcut
          simpa [Passage.turns, hturns hsame] using hcut
    · obtain ⟨z', hqs, hnames'⟩ := hqs
      refine ⟨step :: qs, ⟨z', .head hstep hqs, hnames'⟩, ?_, fun halike => ?_⟩
      · cases step <;> simp_all [Passage.label?]
      · have := heven (halike.of_descends hstep)
        rw [turnsOn_cons, turnsOn_cons, Nat.even_add, Nat.even_add, this]

/-- The dependencies of an expression are what descents lead to that enter no labelled triple
expression twice, with the sign that such a descent ends with. -/
theorem mem_dependencies_iff_leadsTo {e : ShapeExpr} {p : Polarity} :
    (l, p) ∈ s.dependencies e ↔ ∃ ps, s.LeadsTo (.shape e) ps l ∧ (enteredOn ps).Nodup ∧
      (p = .positive ↔ Even (turnsOn ps)) := by
  rw [mem_dependencies_iff_finds]
  exact exists_congr fun ps =>
    and_congr_right fun _ => and_congr (and_iff_left nofun) signAfter_positive_iff

/-- No label is missed. -/
theorem exists_mem_dependencies_iff {e : ShapeExpr} :
    (∃ p, (l, p) ∈ s.dependencies e) ↔ ∃ ps, s.LeadsTo (.shape e) ps l := by
  simp only [mem_dependencies_iff_leadsTo]
  constructor
  · rintro ⟨p, ps, hps, -⟩
    exact ⟨ps, hps⟩
  · rintro ⟨ps, hps⟩
    obtain ⟨qs, hqs, hnodup, -⟩ := hps.exists_simple
    exact ⟨signAfter .positive qs, qs, hqs, hnodup, signAfter_positive_iff.1 rfl⟩

/-- The dependencies of an expression are what descents lead to that enter no labelled triple
expression twice. The sign is negative if it is turned an odd number of times. For the labels all
descents may be taken, and for the signs as well if labelled triple expressions are re-entered
alike. -/
theorem dependencies_exact (s : Schema) (e : ShapeExpr) :
    (∀ l p, (l, p) ∈ s.dependencies e ↔
      ∃ ps, s.LeadsTo (.shape e) ps l ∧ (enteredOn ps).Nodup ∧
        (p = .positive ↔ Even (turnsOn ps))) ∧
    (∀ l, (∃ p, (l, p) ∈ s.dependencies e) ↔ ∃ ps, s.LeadsTo (.shape e) ps l) ∧
    (s.ReentersAlike (.shape e) → ∀ l p, (l, p) ∈ s.dependencies e ↔
      ∃ ps, s.LeadsTo (.shape e) ps l ∧ (p = .positive ↔ Even (turnsOn ps))) := by
  refine ⟨fun _ _ => mem_dependencies_iff_leadsTo, fun _ => exists_mem_dependencies_iff,
    fun halike l p => mem_dependencies_iff_leadsTo.trans ⟨?_, ?_⟩⟩
  · rintro ⟨ps, hps, -, hsign⟩
    exact ⟨ps, hps, hsign⟩
  · rintro ⟨ps, hps, hsign⟩
    obtain ⟨qs, hqs, hnodup, heven⟩ := hps.exists_simple
    exact ⟨qs, hqs, hnodup, hsign.trans (heven halike).symm⟩

end Schema

/-! ### Examples -/

/-- `{ &<T> }` -/
def enteringShape (i j : Nat) : ShapeExpr :=
  .shape ⟨⟨i⟩, []⟩ .plain (some (.ref (.written ⟨⟨j⟩, []⟩) (.iri ⟨"T"⟩)))

/-- `p ( again AND also )` -/
def enteringConstraint (again also : ShapeExpr) : TripleExpr :=
  .constraint (.written ⟨⟨2⟩, []⟩) ⟨⟨"p"⟩, false⟩ (some (.and ⟨⟨3⟩, []⟩ [again, also]))

/-- `<S> { &<T> }` with `$<T> p ( again AND also )` -/
def enteringSchema (again also : ShapeExpr) : Schema :=
  (Schema.empty.addShape (.iri ⟨"S"⟩) ⟨false, enteringShape 0 1⟩).addTripleExpr (.iri ⟨"T"⟩)
    (enteringConstraint again also)

/-- `NOT @<S>` -/
def notReference : ShapeExpr := .not ⟨⟨6⟩, []⟩ (.ref ⟨⟨7⟩, []⟩ (.iri ⟨"S"⟩))

/-- `<S> { &<T> }` with `$<T> p ( { &<T> } AND NOT @<S> )` -/
def plainReentry : Schema := enteringSchema (enteringShape 4 5) notReference

/-- `<S> { &<T> }` with `$<T> p ( NOT { &<T> } AND @<S> )` -/
def turnedReentry : Schema :=
  enteringSchema (.not ⟨⟨6⟩, []⟩ (enteringShape 4 5)) (.ref ⟨⟨7⟩, []⟩ (.iri ⟨"S"⟩))

/-- The places of `plainReentry` outside the negation. -/
inductive PlainPlace : Place → Prop
  | entering (i j : Nat) : PlainPlace (.shape (enteringShape i j))
  | ref (j : Nat) : PlainPlace (.triple [] (.ref (.written ⟨⟨j⟩, []⟩) (.iri ⟨"T"⟩)))
  | declared : PlainPlace (.triple [] (enteringConstraint (enteringShape 4 5) notReference))
  | value : PlainPlace (.shape (.and ⟨⟨3⟩, []⟩ [enteringShape 4 5, notReference]))

/-- A step that leaves these places goes to the negation, and there are no other steps that turn the
sign. -/
theorem PlainPlace.step {x y : Place} {step : Passage} (hx : PlainPlace x)
    (h : plainReentry.Descends x step y) :
    PlainPlace y ∧ step.turns = false ∨ y = .shape notReference := by
  cases hx with
  | entering i j =>
    cases h
    exact .inl ⟨.ref j, rfl⟩
  | ref j =>
    cases h with
    | ref hl =>
      cases hl
      exact .inl ⟨.declared, rfl⟩
  | declared =>
    cases h
    exact .inl ⟨.value, rfl⟩
  | value =>
    cases h with
    | and he =>
      obtain rfl | rfl : _ ∨ _ := by simpa using he
      · exact .inl ⟨.entering 4 5, rfl⟩
      · exact .inr rfl

/-- No descent leads from the negation to a triple expression, since it stands over a reference to a
shape, and no other step turns the sign. -/
theorem PlainPlace.turnsOn_eq {x : Place} {ps : List Passage} {extra : List Iri} {t : TripleExpr}
    (hx : PlainPlace x) (h : plainReentry.Descent x ps (.triple extra t)) :
    turnsOn ps = 0 ∧ extra = [] := by
  generalize hz : Place.triple extra t = z at h
  induction h with
  | refl =>
    subst hz
    cases hx <;> exact ⟨rfl, rfl⟩
  | head hstep hrest ih =>
    subst hz
    rcases hx.step hstep with ⟨hy, hturns⟩ | rfl
    · rw [turnsOn_cons, hturns]
      exact ih hy rfl
    · rcases hrest with _ | ⟨⟨⟩, _ | ⟨⟨⟩, _⟩⟩

/-- In `plainReentry` the labelled triple expression is entered from inside itself, but with the
same sign. So the descent that enters it twice leads to a dependency. -/
theorem plainReentry_dependencies :
    ∃ ps, plainReentry.LeadsTo (.shape (enteringShape 0 1)) ps (.iri ⟨"S"⟩) ∧
      enteredOn ps = [.iri ⟨"T"⟩, .iri ⟨"T"⟩] ∧
      (.iri ⟨"S"⟩, .negative) ∈ plainReentry.dependencies (enteringShape 0 1) := by
  have halike : plainReentry.ReentersAlike (.shape (enteringShape 0 1)) := by
    intro ps extra m l t hps ht qs extra' m' hqs
    obtain ⟨-, rfl⟩ := (PlainPlace.entering 0 1).turnsOn_eq hps
    cases List.mem_singleton.1 ((Table.get?_eq_some_iff _).1 ht)
    obtain ⟨hturns, rfl⟩ := PlainPlace.declared.turnsOn_eq hqs
    exact ⟨hturns ▸ Even.zero, fun _ => Iff.rfl⟩
  have hleads : plainReentry.LeadsTo (.shape (enteringShape 0 1)) [.part, .entry (.iri ⟨"T"⟩),
      .value false, .part, .part, .entry (.iri ⟨"T"⟩), .value false, .part, .negation]
      (.iri ⟨"S"⟩) :=
    ⟨_, .head .shape (.head (.ref rfl) (.head .value (.head (.and (.head _)) (.head .shape
      (.head (.ref rfl) (.head .value (.head (.and (.tail _ (.head _))) (.head .not
        (.refl _))))))))), .ref⟩
  exact ⟨_, hleads, rfl, ((Schema.dependencies_exact plainReentry (enteringShape 0 1)).2.2 halike
    _ _).2 ⟨_, hleads, by decide⟩⟩

/-- The label is led to through one negation in `turnedReentry`, from inside the labelled triple
expression that is entered for the second time. The dependency is not found, and the schema is
accepted. -/
theorem dependency_missed :
    turnedReentry.analyze = .ok () ∧
      turnedReentry.shape? (.iri ⟨"S"⟩) = some ⟨false, enteringShape 0 1⟩ ∧
      (∃ ps, turnedReentry.LeadsTo (.shape (enteringShape 0 1)) ps (.iri ⟨"S"⟩) ∧
        turnsOn ps = 1) ∧
      (.iri ⟨"S"⟩, .negative) ∉ turnedReentry.dependencies (enteringShape 0 1) := by
  refine ⟨rfl, rfl, ⟨[.part, .entry (.iri ⟨"T"⟩), .value false, .part, .negation, .part,
    .entry (.iri ⟨"T"⟩), .value false, .part], ⟨.shape (.ref ⟨⟨7⟩, []⟩ (.iri ⟨"S"⟩)), ?_, .ref⟩,
    rfl⟩, by decide⟩
  exact .head .shape (.head (.ref rfl) (.head .value (.head (.and (.head _)) (.head .not
    (.head .shape (.head (.ref rfl) (.head .value (.head (.and (.tail _ (.head _)))
      (.refl _)))))))))

end Shex
