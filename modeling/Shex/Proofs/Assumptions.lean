import Shex.Proofs.Coverage
import Shex.Validation

/-!
# Pairs are assumed under an even number of turns

A pair of a node and a label that is met again inside its own check is taken to conform. Between the
two, evaluation has passed an even number of negations and extra predicates, if no abstract label
was resolved in between and no labelled triple expression was entered from inside itself
(`Setting.assumptions_stratified`). Without these conditions the number can be odd, and the number
of negations alone can be odd anyway (`assumptions_under_negation`).
-/

namespace Shex

open Run

namespace Setting

variable {σ : Type}

/-- Where the check of a node against a selector begins. -/
inductive Begins (st : Setting σ) (node : Term) : Selector → Position → Prop
  | label (l : Label) : Begins st node (.label l) (.label .outermost node l)
  | start {e : ShapeExpr} (h : st.validator.schema.start = some e) :
      Begins st node .start (.expr .outermost node e)

/-- The check of a node against a selector comes to a position. -/
def Visits (st : Setting σ) (node : Term) (selector : Selector) (p : Position) : Prop :=
  ∃ start steps, st.Begins node selector start ∧ st.Course start steps p

/-- The check of a node against a selector where evaluation follows the rules at the positions with
`P` only. -/
noncomputable def checkSelectedOn (st : Setting σ) (P : Position → Prop) (other : Evaluator σ)
    (node : Term) : Selector → Run σ Verdict
  | .label l =>
    st.satisfiesLabel (st.satisfiesOn P other st.limits.depth)
      (st.satisfiesOn P other st.limits.depth) .outermost node l
  | .start =>
    match st.validator.schema.start with
    | none => throw .missingStart
    | some e => st.satisfiesOn P other st.limits.depth .outermost node e

variable {st : Setting σ}

/-! ### Courses from the beginning -/

/-- What is asked for in the schema is in the schema: a part of an expression, a declaration, a
conjunct beside a main shape, or a value expression that is met in a shape, perhaps behind
references. -/
theorem Asks.has {p : Position} {step : Step} {scope : Scope} {node : Term} {e : ShapeExpr}
    (hp : ∀ scope node e, p = .expr scope node e → st.validator.schema.Has e)
    (h : st.Asks p step (.expr scope node e)) : st.validator.schema.Has e := by
  cases h with
  | and he => exact (hp _ _ _ rfl).of_and he
  | or he => exact (hp _ _ _ rfl).of_or he
  | not => exact (hp _ _ _ rfl).of_not
  | value hin _ => exact (hp _ _ _ rfl).of_shape hin
  | declared hd _ => exact Schema.has_of_shape? hd
  | partValue _ _ hd hform ht hin _ =>
    obtain ⟨⟨m, hmain⟩, -⟩ := ShapeExpr.extendable?_eq_some hform
    have hhas := (Schema.has_of_shape? hd).main hform
    rw [hmain, ht] at hhas
    exact hhas.of_shape hin
  | conjunct _ _ hd hform hc => exact (Schema.has_of_shape? hd).conjunct hform hc

/-- What is asked for at a position that a course leads to is where a longer course leads to. -/
theorem isClosed_visits {node : Term} {selector : Selector} :
    st.IsClosed (st.Visits node selector) := by
  rintro p step q ⟨start, steps, hstart, hcourse⟩ hq
  exact ⟨start, step :: steps, hstart, hcourse.step hq⟩

/-- Courses lead to expressions of the schema only. -/
theorem Visits.has {node : Term} {selector : Selector} {scope : Scope} {m : Term} {e : ShapeExpr}
    (h : st.Visits node selector (.expr scope m e)) : st.validator.schema.Has e := by
  obtain ⟨start, steps, hstart, hcourse⟩ := h
  generalize hq : Position.expr scope m e = q at hcourse
  induction hcourse generalizing scope m e with
  | refl =>
    subst hq
    cases hstart with
    | start he => exact Schema.has_of_start he
  | step _ hask ih =>
    subst hq
    exact hask.has fun _ _ _ hp => ih hp.symm

/-- A step makes at most one pair active, that of the label it comes from. -/
theorem Asks.active {p q : Position} {step : Step} (h : st.Asks p step q) :
    q.active = p.active ∨ ∃ scope m l, p = .label scope m l ∧ scope.isActive m l = false ∧
      q.active = (m, l) :: p.active := by
  cases h with
  | enter _ _ hactive => exact .inr ⟨_, _, _, rfl, hactive, rfl⟩
  | subtype _ _ hactive _ => exact .inr ⟨_, _, _, rfl, hactive, rfl⟩
  | _ => exact .inl rfl

/-- A pair that is active was made active on the way. The scope only grows along a course, except
that value expressions see hidden edges again, so the last position without the pair is the one at
which it was entered. -/
theorem Course.exists_push {start q : Position} {steps : List Step} {m : Term} {l : Label}
    (h : st.Course start steps q) (hstart : start.active = []) (hactive : (m, l) ∈ q.active) :
    ∃ since before pushed, steps = since ++ before ∧ st.Course start before (.label pushed m l) ∧
      pushed.isActive m l = false ∧ st.Course (.label pushed m l) since q := by
  induction h with
  | refl =>
    rw [hstart] at hactive
    cases hactive
  | @step steps p q step hcourse hask ih =>
    by_cases hold : (m, l) ∈ p.active
    · obtain ⟨since, before, pushed, rfl, hbefore, hpushed, hsince⟩ := ih hold
      exact ⟨step :: since, before, pushed, rfl, hbefore, hpushed, hsince.step hask⟩
    · obtain hsame | ⟨scope, m', l', rfl, hnew, hcons⟩ := hask.active
      · exact absurd (hsame ▸ hactive) hold
      · rw [hcons] at hactive
        obtain ⟨rfl, rfl⟩ := Prod.mk.inj ((List.mem_cons.1 hactive).resolve_right hold)
        exact ⟨[step], steps, scope, rfl, hcourse, hnew, .step (.refl) hask⟩

/-- Each check of a run evaluates only positions that courses lead to: what evaluation would do at
others does not matter. When such a course comes to a label that is active for the node, it has made
the pair active before, and since then the steps into negations and into value expressions on extra
predicates are even in number, if no abstract label was resolved and no labelled triple expression
was entered from inside itself. -/
theorem assumptions_stratified (hv : st.validator.IsBuilt)
    (hco : st.validator.schema.IsCoherent) (node : Term) (selector : Selector) :
    (∀ (other : Evaluator σ) (r : RunState σ), st.KnowsMemo r.memo →
      (st.checkSelectedOn (st.Visits node selector) other node selector).run.run r =
        (st.checkSelected node selector).run.run r) ∧
    ∀ start steps scope m l, st.Begins node selector start →
      st.Course start steps (.label scope m l) → scope.isActive m l = true →
      ∃ since before pushed, steps = since ++ before ∧
        st.Course start before (.label pushed m l) ∧ pushed.isActive m l = false ∧
        st.Course (.label pushed m l) since (.label scope m l) ∧
        (IsPlain since → Even (negations since + extras since)) := by
  constructor
  · intro other r hr
    have hsame := satisfiesOn_same hv hco (@isClosed_visits _ st node selector)
      (fun _ _ _ => Visits.has) other st.limits.depth
    cases selector with
    | label l =>
      exact (satisfiesLabel_same hv hco isClosed_visits hsame ⟨_, [], .label l, .refl⟩ r hr).2
    | start =>
      rw [checkSelectedOn, checkSelected]
      cases he : st.validator.schema.start with
      | none => rfl
      | some e => exact (hsame _ _ _ ⟨_, [], .start he, .refl⟩ r hr).2
  · intro start steps scope m l hstart hcourse hactive
    have hnone : start.active = [] := by cases hstart <;> rfl
    have hmem : (m, l) ∈ (Position.label scope m l).active := List.contains_iff_mem.1 hactive
    obtain ⟨since, before, pushed, hsteps, hbefore, hpushed, hsince⟩ :=
      hcourse.exists_push hnone hmem
    exact ⟨since, before, pushed, hsteps, hbefore, hpushed, hsince, hsince.even_flips hv⟩

end Setting

/-! ### Examples -/

/-- `<S> EXTRA extra { p value ? }` -/
def loopSchema (extra : List Iri) (value : ShapeExpr) : Schema :=
  Schema.empty.addShape (.iri ⟨"S"⟩)
    ⟨false, .shape ⟨⟨0⟩, []⟩ ⟨false, extra, []⟩ (some (.repeated (.written ⟨⟨1⟩, []⟩)
      (.constraint (.written ⟨⟨2⟩, []⟩) ⟨⟨"p"⟩, false⟩ (some value)) .optional))⟩

/-- `NOT @<S>` -/
def notSelf : ShapeExpr := .not ⟨⟨3⟩, []⟩ (.ref ⟨⟨4⟩, []⟩ (.iri ⟨"S"⟩))

/-- For `<S> { p NOT NOT @<S> ? }` the pair is assumed under two negations, which is an even number:
what is assumed is never the opposite of what is being checked. -/
theorem doubleNegation_stratified :
    ∃ since before pushed,
      [Step.inside, .negation, .negation, .value [] false, .inside, .entering] = since ++ before ∧
      (settingOf (loopSchema [] (.not ⟨⟨5⟩, []⟩ notSelf)) [link "n" "p" "n"]).Course
        (.label .outermost (.resource (.iri ⟨"n"⟩)) (.iri ⟨"S"⟩)) before
        (.label pushed (.resource (.iri ⟨"n"⟩)) (.iri ⟨"S"⟩)) ∧
      pushed.isActive (.resource (.iri ⟨"n"⟩)) (.iri ⟨"S"⟩) = false ∧
      (IsPlain since → Even (negations since + extras since)) := by
  have h := (@Setting.assumptions_stratified Unit
    (settingOf (loopSchema [] (.not ⟨⟨5⟩, []⟩ notSelf)) [link "n" "p" "n"]) ⟨rfl, rfl⟩
    (Schema.isCoherent_of_nodup (by decide) (by decide)) (.resource (.iri ⟨"n"⟩))
    (.label (.iri ⟨"S"⟩))).2
  obtain ⟨since, before, pushed, hsteps, hbefore, hpushed, -, heven⟩ := h _ _ _ _ _ (.label _)
    (.step (.step (.step (.step (.step (.step .refl
      (.enter (d := ⟨false, _⟩) rfl rfl rfl)) (.declared rfl rfl))
      (.value (e := ⟨link "n" "p" "n", false⟩) (.repeated (.self _)) (by decide))) .not) .not) .ref)
    rfl
  exact ⟨since, before, pushed, hsteps, hbefore, hpushed, heven⟩

/-- The schema is accepted, and in a check of the node against the label the pair is assumed after
the steps. -/
def Setting.Assumes (st : Setting Unit) (node : Term) (l : Label) (since : List Step) : Prop :=
  st.validator.IsBuilt ∧ ∃ scope,
    st.Course (.label .outermost node l) since (.label scope node l) ∧ scope.isActive node l = true

/-- `<S> { &<T> }` with `$<T> ( p NOT { &<T> } * ; r @<S> * )` -/
def reentrySchema : Schema :=
  let inside (i j : Nat) : ShapeExpr :=
    .shape ⟨⟨i⟩, []⟩ .plain (some (.ref (.written ⟨⟨j⟩, []⟩) (.iri ⟨"T"⟩)))
  (Schema.empty.addShape (.iri ⟨"S"⟩) ⟨false, inside 0 1⟩).addTripleExpr (.iri ⟨"T"⟩)
    (.eachOf (.written ⟨⟨2⟩, []⟩)
      [.repeated (.written ⟨⟨3⟩, []⟩) (.constraint (.written ⟨⟨4⟩, []⟩) ⟨⟨"p"⟩, false⟩
        (some (.not ⟨⟨5⟩, []⟩ (inside 6 7)))) .star,
      .repeated (.written ⟨⟨8⟩, []⟩) (.constraint (.written ⟨⟨9⟩, []⟩) ⟨⟨"r"⟩, false⟩
        (some (.ref ⟨⟨10⟩, []⟩ (.iri ⟨"S"⟩)))) .star])

/-- `ABSTRACT <S> { }` with `<D> EXTENDS @<S> { p NOT @<S> ? }` -/
def abstractSchema : Schema :=
  (Schema.empty.addShape (.iri ⟨"S"⟩) ⟨true, .shape ⟨⟨0⟩, []⟩ .plain none⟩).addShape (.iri ⟨"D"⟩)
    ⟨false, .shape ⟨⟨1⟩, []⟩ ⟨false, [], [.iri ⟨"S"⟩]⟩ (some (.repeated (.written ⟨⟨2⟩, []⟩)
      (.constraint (.written ⟨⟨5⟩, []⟩) ⟨⟨"p"⟩, false⟩ (some notSelf)) .optional))⟩

/-- A pair can be assumed under one negation: if the predicate is extra, and without extra
predicates if a labelled triple expression is entered from inside itself or an abstract label is
resolved. -/
theorem assumptions_under_negation :
    (∃ since, (settingOf (loopSchema [⟨"p"⟩] notSelf) [link "n" "p" "n"]).Assumes
      (.resource (.iri ⟨"n"⟩)) (.iri ⟨"S"⟩) since ∧ negations since = 1) ∧
    (∃ since, (settingOf reentrySchema [link "n" "p" "x", link "x" "r" "n"]).Assumes
      (.resource (.iri ⟨"n"⟩)) (.iri ⟨"S"⟩) since ∧ negations since = 1 ∧ extras since = 0) ∧
    ∃ since, (settingOf abstractSchema [link "n" "p" "n"]).Assumes
      (.resource (.iri ⟨"n"⟩)) (.iri ⟨"S"⟩) since ∧ negations since = 1 ∧ extras since = 0 := by
  let n : Term := .resource (.iri ⟨"n"⟩)
  let scope := Scope.outermost.enter n (.iri ⟨"S"⟩)
  refine ⟨⟨[.inside, .negation, .value [] true, .inside, .entering],
      ⟨⟨rfl, rfl⟩, scope.showAll, ?_, rfl⟩, rfl⟩,
    ⟨[.inside, .value [.iri ⟨"T"⟩] false, .negation, .value [.iri ⟨"T"⟩] false, .inside, .entering],
      ⟨⟨rfl, rfl⟩, scope.showAll.showAll, ?_, rfl⟩, rfl, rfl⟩,
    ⟨[.inside, .negation, .value [] false, .entering, .subtype],
      ⟨⟨rfl, rfl⟩, (scope.enter n (.iri ⟨"D"⟩)).showAll, ?_, rfl⟩, rfl, rfl⟩⟩
  · exact .step (.step (.step (.step (.step .refl
      (.enter (d := ⟨false, _⟩) rfl rfl rfl)) (.declared rfl rfl))
      (.value (e := ⟨link "n" "p" "n", false⟩) (.repeated (.self _)) (by decide))) .not) .ref
  · exact .step (.step (.step (.step (.step (.step .refl
      (.enter (d := ⟨false, _⟩) rfl rfl rfl)) (.declared rfl rfl))
      (.value (e := ⟨link "n" "p" "x", false⟩)
        (.ref rfl (.eachOf (.head _) (.repeated (.self _)))) (by decide))) .not)
      (.value (e := ⟨link "x" "r" "n", false⟩)
        (.ref rfl (.eachOf (.tail _ (.head _)) (.repeated (.self _)))) (by decide))) .ref
  · let st := settingOf abstractSchema [link "n" "p" "n"]
    have hchild : ∃ d, (.iri ⟨"D"⟩, d) ∈ Setting.concreteSubtypes st.validator (.iri ⟨"S"⟩) :=
      ⟨_, .head _⟩
    obtain ⟨d, hchild⟩ := hchild
    have hvalue := @Setting.Asks.partValue Unit st (scope.enter n (.iri ⟨"D"⟩)) n (.iri ⟨"D"⟩)
      (.iri ⟨"D"⟩) _ _ _ [] _ _ ⟨link "n" "p" "n", false⟩ rfl (.head _) rfl rfl rfl
      (.repeated (.self _)) (by decide)
    exact .step (.step (.step (.step (.step .refl (.subtype (d := ⟨true, _⟩) rfl rfl rfl hchild))
      (.enter (d := ⟨false, _⟩) rfl rfl rfl)) hvalue) .not) .ref

end Shex
