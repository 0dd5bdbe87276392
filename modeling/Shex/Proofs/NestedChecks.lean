import Shex.Proofs.Assumptions
import Shex.Proofs.SimpleDescents

/-!
# Nested checks follow dependencies

When evaluation comes to a label inside the check of another one, the other label depends on it,
directly or through others, if no abstract label was resolved in between
(`Setting.nested_checks`). An abstract label need not depend on those that it is resolved to: they
depend on it (`subtype_not_reached`).
-/

namespace Shex

open Relation Run

namespace Schema

variable {s : Schema} {x y : Place} {a b l : Label}

/-- A descent from the declaration of a label comes to a place. -/
def Shows (s : Schema) (l : Label) (x : Place) : Prop :=
  ∃ d ps, s.shape? l = some d ∧ s.Descent (.shape d.expr) ps x

/-- The declaration itself is shown. -/
theorem shows_declared {d : ShapeDecl} (hd : s.shape? l = some d) : s.Shows l (.shape d.expr) :=
  ⟨d, [], hd, .refl _⟩

/-- A descent is continued by one step. -/
theorem Shows.step {step : Passage} (h : s.Shows l x) (hstep : s.Descends x step y) :
    s.Shows l y := by
  obtain ⟨d, ps, hd, hps⟩ := h
  exact ⟨d, _, hd, hps.trans (.head hstep (.refl y))⟩

/-- The value expressions of a shape are shown with it. -/
theorem Shows.value {mk : Mark} {h : ShapeHeader} {t : TripleExpr} {via : List Label}
    {m : TripleMark} {arc : Arc} {v : ShapeExpr}
    (hshape : s.Shows l (.shape (.shape mk h (some t))))
    (hin : s.Inside via t (.constraint m arc (some v))) : s.Shows l (.shape v) := by
  obtain ⟨d, ps, hd, hps⟩ := hshape.step .shape
  obtain ⟨qs, hqs⟩ := hin.exists_descent h.extra
  exact Shows.step ⟨d, ps ++ qs, hd, hps.trans hqs⟩ .value

section
variable {d : ShapeDecl} {form : Extendable} (hd : s.shape? l = some d)
  (hform : d.expr.extendable? = some form)
include hd hform

/-- The main shape is shown: it is the declared expression, or its first conjunct. -/
theorem shows_main : s.Shows l (.shape form.main) := by
  obtain ⟨-, ⟨hmain, -⟩ | ⟨m, hand⟩⟩ := ShapeExpr.extendable?_eq_some hform
  · exact hmain ▸ shows_declared hd
  · have hshown := shows_declared hd
    rw [hand] at hshown
    exact hshown.step (.and List.mem_cons_self)

/-- So are the conjuncts beside it. -/
theorem shows_conjunct {c : ShapeExpr} (hc : c ∈ form.constraints) : s.Shows l (.shape c) := by
  obtain ⟨-, ⟨-, hnil⟩ | ⟨m, hand⟩⟩ := ShapeExpr.extendable?_eq_some hform
  · rw [hnil] at hc
    cases hc
  · have hshown := shows_declared hd
    rw [hand] at hshown
    exact hshown.step (.and (List.mem_cons_of_mem _ hc))

end

/-- A declaration depends on what is named in it. -/
theorem Shows.dependsOn (h : s.Shows a x) (hb : x.Names b) : s.DependsOn a b := by
  obtain ⟨d, ps, hd, hps⟩ := h
  exact ⟨d, hd, exists_mem_dependencies_iff.2 ⟨ps, x, hps, hb⟩⟩

/-- The edges of the graph are the dependencies, by the construction of the graph. -/
theorem dependencyGraph_hasEdge : s.dependencyGraph.HasEdge a b ↔ s.DependsOn a b := by
  rw [dependencyGraph_eq, LabelGraph.hasEdge_ofDependencies]
  exact exists_congr fun d => and_congr (Table.get?_eq_some_iff _).symm Iff.rfl

/-- What a label reaches in the graph of dependencies it depends on, directly or through others. -/
theorem dependencyGraph_reaches :
    s.dependencyGraph.reaches a b = true ↔ TransGen s.DependsOn a b := by
  have hsame : s.dependencyGraph.HasEdge = s.DependsOn :=
    funext₂ fun _ _ => propext dependencyGraph_hasEdge
  rw [LabelGraph.reaches_iff, hsame]

end Schema

/-- Every abstract label reaches those that it is resolved to. -/
def Validator.ReachesSubtypes (v : Validator) : Prop :=
  ∀ l d child d', v.schema.shape? l = some d → d.isAbstract = true →
    (child, d') ∈ Setting.concreteSubtypes v l → v.schema.dependencyGraph.reaches l child = true

namespace Setting

variable {σ : Type} {st : Setting σ} {a b : Label} {steps : List Step} {p q : Position}

/-- What is known at a position that a course from the label `a` has led to: the labels that were
met on the way are reached from `a`. -/
def ReachedFrom (st : Setting σ) (a : Label) (steps : List Step) : Position → Prop
  | .expr _ _ e => ∃ c, ReflTransGen st.validator.schema.DependsOn a c ∧
      st.validator.schema.Shows c (.shape e)
  | .label _ _ l => steps = [] ∧ l = a ∨ TransGen st.validator.schema.DependsOn a l
  | .entered _ _ l => ReflTransGen st.validator.schema.DependsOn a l

/-- A label that is met is reached, or it is where the course began. -/
theorem ReachedFrom.reflTransGen {scope : Scope} {node : Term} {l : Label}
    (h : st.ReachedFrom a steps (.label scope node l)) :
    ReflTransGen st.validator.schema.DependsOn a l := by
  rcases h with ⟨-, rfl⟩ | h
  · exact .refl
  · exact h.to_reflTransGen

/-- One step of evaluation keeps what is known: a step into a part follows a descent, a step to a
label follows a dependency, and the step from an abstract label to a subtype is the one that needs a
hypothesis. -/
theorem ReachedFrom.step (hv : st.validator.IsBuilt) {step : Step}
    (hsub : step = .subtype → st.validator.ReachesSubtypes) (hp : st.ReachedFrom a steps p)
    (hq : st.Asks p step q) : st.ReachedFrom a (step :: steps) q := by
  have hhier := hv.hierarchy
  have hup : ∀ {l c}, c ∈ st.validator.hierarchy.ancestors l →
      ReflTransGen st.validator.schema.DependsOn l c := fun hc =>
    Schema.dependsOn_of_mem_ancestors (hhier ▸ hc)
  cases hq with
  | and he =>
    obtain ⟨c, hto, hshown⟩ := hp
    exact ⟨c, hto, hshown.step (.and he)⟩
  | or he =>
    obtain ⟨c, hto, hshown⟩ := hp
    exact ⟨c, hto, hshown.step (.or he)⟩
  | not =>
    obtain ⟨c, hto, hshown⟩ := hp
    exact ⟨c, hto, hshown.step .not⟩
  | ref =>
    obtain ⟨c, hto, hshown⟩ := hp
    exact .inr (.tail' hto (hshown.dependsOn .ref))
  | value hin _ =>
    obtain ⟨c, hto, hshown⟩ := hp
    exact ⟨c, hto, hshown.value hin⟩
  | enter => exact hp.reflTransGen
  | subtype hd habstract _ hchild =>
    exact .inr (.trans_right hp.reflTransGen
      (Schema.dependencyGraph_reaches.1 (hsub rfl _ _ _ _ hd habstract hchild)))
  | declared hd _ => exact ⟨_, hp, Schema.shows_declared hd⟩
  | partValue _ hc hd hform ht hin _ =>
    obtain ⟨⟨m, hmain⟩, -⟩ := ShapeExpr.extendable?_eq_some hform
    have hshown := Schema.shows_main hd hform
    rw [hmain, ht] at hshown
    exact ⟨_, hp.trans (hup hc), hshown.value hin⟩
  | conjunct _ hc hd hform hconjunct =>
    exact ⟨_, hp.trans (hup hc), Schema.shows_conjunct hd hform hconjunct⟩

/-- A course from a label comes to what the label reaches. -/
theorem Course.reachedFrom (hv : st.validator.IsBuilt)
    {scope : Scope} {node : Term} (h : st.Course (.label scope node a) steps q)
    (hsub : .subtype ∈ steps → st.validator.ReachesSubtypes) : st.ReachedFrom a steps q := by
  induction h with
  | refl => exact .inl ⟨rfl, rfl⟩
  | step _ hq ih =>
    refine (ih fun hmem => hsub (List.mem_cons_of_mem _ hmem)).step hv (fun hstep => ?_) hq
    exact hsub (hstep ▸ List.mem_cons_self)

/-- The check of a node against a selector comes to the label `b` inside the check of some node
against `a`. -/
def ChecksWithin (st : Setting σ) (node : Term) (selector : Selector) (a b : Label) : Prop :=
  ∃ scope m n, st.Visits node selector (.label scope n b) ∧ (m, a) ∈ scope.active

/-- A check evaluates only positions that courses lead to. What evaluation would do at any other
position can be replaced without changing the check. -/
theorem checkSelectedOn_visits (hv : st.validator.IsBuilt)
    (hco : st.validator.schema.IsCoherent) {node : Term} {selector : Selector}
    {other : Evaluator σ} :
    Same (fun r => st.KnowsMemo r.memo) (st.checkSelected node selector)
      (st.checkSelectedOn (st.Visits node selector) other node selector) := by
  have hsame := satisfiesOn_same hv hco (@isClosed_visits _ st node selector)
    (fun _ _ _ => Visits.has) other st.limits.depth
  cases selector with
  | label l =>
    exact satisfiesLabel_same hv hco isClosed_visits hsame ⟨_, [], .label l, .refl⟩
  | start =>
    rw [checkSelectedOn, checkSelected]
    cases he : st.validator.schema.start with
    | none => exact Same.throw
    | some e => exact hsame _ _ _ ⟨_, [], .start he, .refl⟩

/-- When a course comes to a label while another one is active, the other one was made active on the
way, and it reaches the label. -/
theorem Course.exists_within (hv : st.validator.IsBuilt)
    {start : Position} {scope : Scope} {n m : Term}
    (h : st.Course start steps (.label scope n b)) (hstart : start.active = [])
    (hactive : (m, a) ∈ scope.active) :
    ∃ since before pushed, steps = since ++ before ∧
      st.Course start before (.label pushed m a) ∧ pushed.isActive m a = false ∧
      st.Course (.label pushed m a) since (.label scope n b) ∧
      ((.subtype ∈ since → st.validator.ReachesSubtypes) →
        st.validator.schema.dependencyGraph.reaches a b = true) := by
  obtain ⟨since, before, pushed, hsteps, hbefore, hpushed, hsince⟩ := h.exists_push hstart hactive
  refine ⟨since, before, pushed, hsteps, hbefore, hpushed, hsince, fun hsub => ?_⟩
  rcases hsince.reachedFrom hv hsub with ⟨rfl, rfl⟩ | hreach
  · -- The pair is active at the end of the way and not at its beginning.
    cases hsince
    exact absurd (List.contains_iff_mem.2 hactive) (Bool.eq_false_iff.1 hpushed)
  · exact Schema.dependencyGraph_reaches.2 hreach

/-- Each check of a run evaluates only positions that courses lead to. When such a course comes to a
label while another one is active, the other one was made active on the way, and reaches the label
in the graph of dependencies if no abstract label was resolved since. It always does exactly if
every abstract label reaches those that it is resolved to. -/
theorem nested_checks (hv : st.validator.IsBuilt)
    (hco : st.validator.schema.IsCoherent) :
    (∀ node selector (other : Evaluator σ) (r : RunState σ), st.KnowsMemo r.memo →
      (st.checkSelectedOn (st.Visits node selector) other node selector).run.run r =
        (st.checkSelected node selector).run.run r) ∧
    (∀ node selector start steps scope n b m a, st.Begins node selector start →
      st.Course start steps (.label scope n b) → (m, a) ∈ scope.active →
      ∃ since before pushed, steps = since ++ before ∧
        st.Course start before (.label pushed m a) ∧ pushed.isActive m a = false ∧
        st.Course (.label pushed m a) since (.label scope n b) ∧
        (.subtype ∉ since → st.validator.schema.dependencyGraph.reaches a b = true)) ∧
    (st.validator.ReachesSubtypes ↔ ∀ node selector a b, st.ChecksWithin node selector a b →
      st.validator.schema.dependencyGraph.reaches a b = true) := by
  have hnone : ∀ {node selector start}, st.Begins node selector start → start.active = [] := by
    rintro node selector start ⟨⟩ <;> rfl
  refine ⟨fun node selector other r hr => (checkSelectedOn_visits hv hco r hr).2, ?_, ?_, ?_⟩
  · intro node selector start steps scope n b m a hstart hcourse hactive
    obtain ⟨since, before, pushed, hsteps, hbefore, hpushed, hsince, hreach⟩ :=
      hcourse.exists_within hv (hnone hstart) hactive
    exact ⟨since, before, pushed, hsteps, hbefore, hpushed, hsince,
      fun hplain => hreach fun hsub => absurd hsub hplain⟩
  · rintro hsub node selector a b ⟨scope, m, n, ⟨start, steps, hstart, hcourse⟩, hactive⟩
    obtain ⟨_, _, _, -, -, -, -, hreach⟩ := hcourse.exists_within hv (hnone hstart) hactive
    exact hreach fun _ => hsub
  · intro hall l d child d' hd habstract hchild
    have hvisits : st.Visits default (.label l) (.label (Scope.outermost.enter default l) default
        child) := ⟨_, _, .label l, .step .refl (.subtype hd habstract rfl hchild)⟩
    exact hall default (.label l) l child ⟨_, default, default, hvisits, List.mem_cons_self⟩

end Setting

/-! ### Examples -/

/-- `ABSTRACT <S> { p @<D> * }` with `<D> EXTENDS @<S> { }` -/
def memberSchema : Schema :=
  (Schema.empty.addShape (.iri ⟨"S"⟩) ⟨true, .shape ⟨⟨0⟩, []⟩ .plain
    (some (.repeated (.written ⟨⟨1⟩, []⟩) (.constraint (.written ⟨⟨2⟩, []⟩) ⟨⟨"p"⟩, false⟩
      (some (.ref ⟨⟨3⟩, []⟩ (.iri ⟨"D"⟩)))) .star))⟩).addShape (.iri ⟨"D"⟩)
    ⟨false, .shape ⟨⟨4⟩, []⟩ ⟨false, [], [.iri ⟨"S"⟩]⟩ none⟩

/-- The abstract label refers to the one that it is resolved to. -/
theorem memberSchema_reachesSubtypes :
    (settingOf memberSchema [link "n" "p" "m"]).validator.ReachesSubtypes := by
  intro l d child d' hd habstract hchild
  rcases (Table.get?_eq_some_iff _).1 hd with _ | ⟨_, _ | ⟨_, ⟨⟩⟩⟩
  · obtain ⟨rfl, -⟩ := Prod.mk.inj (List.mem_singleton.1 hchild)
    decide
  · cases habstract

/-- In `memberSchema` the abstract label reaches the one that it is resolved to. So does that one
reach itself, since its check comes to it again through what it inherits. -/
theorem memberSchema_nested :
    (settingOf memberSchema [link "n" "p" "m"]).ChecksWithin (.resource (.iri ⟨"n"⟩))
      (.label (.iri ⟨"S"⟩)) (.iri ⟨"D"⟩) (.iri ⟨"D"⟩) ∧
    memberSchema.dependencyGraph.reaches (.iri ⟨"D"⟩) (.iri ⟨"D"⟩) = true := by
  let st := settingOf memberSchema [link "n" "p" "m"]
  let n : Term := .resource (.iri ⟨"n"⟩)
  have hwithin : st.ChecksWithin n (.label (.iri ⟨"S"⟩)) (.iri ⟨"D"⟩) (.iri ⟨"D"⟩) := by
    have hchild : ∃ d, (.iri ⟨"D"⟩, d) ∈ Setting.concreteSubtypes st.validator (.iri ⟨"S"⟩) :=
      ⟨_, .head _⟩
    obtain ⟨d, hchild⟩ := hchild
    have hvalue := @Setting.Asks.partValue Unit st
      ((Scope.outermost.enter n (.iri ⟨"S"⟩)).enter n (.iri ⟨"D"⟩)) n (.iri ⟨"D"⟩) (.iri ⟨"S"⟩)
      _ _ _ [] _ _ ⟨link "n" "p" "m", false⟩ rfl (.tail _ (.head _)) rfl rfl rfl
      (.repeated (.self _)) (by decide)
    exact ⟨_, n, _, ⟨_, _, .label _, .step (.step (.step (.step .refl
      (.subtype (d := ⟨true, _⟩) rfl rfl rfl hchild)) (.enter (d := ⟨false, _⟩) rfl rfl rfl))
      hvalue) .ref⟩, List.mem_cons_self⟩
  have h := @Setting.nested_checks Unit st ⟨rfl, rfl⟩
    (Schema.isCoherent_of_nodup (by decide) (by decide))
  exact ⟨hwithin, h.2.2.1 memberSchema_reachesSubtypes _ _ _ _ hwithin⟩

/-- In `abstractSchema`, which is accepted, the abstract label does not reach the one that it is
resolved to. The run blames that one, so its check was nested in the check of the abstract label. -/
theorem subtype_not_reached :
    Validator.ofSchema abstractSchema =
      .ok (settingOf abstractSchema [link "n" "p" "n"]).validator ∧
    (settingOf abstractSchema [link "n" "p" "n"]).ChecksWithin (.resource (.iri ⟨"n"⟩))
      (.label (.iri ⟨"S"⟩)) (.iri ⟨"S"⟩) (.iri ⟨"D"⟩) ∧
    (∃ reasons, (((settingOf abstractSchema [link "n" "p" "n"]).checkSelected
      (.resource (.iri ⟨"n"⟩)) (.label (.iri ⟨"S"⟩))).run.run ⟨.empty, 0, ()⟩).1 =
        .ok (.fails reasons) ∧ ∃ r ∈ reasons, r.shape = some (.iri ⟨"D"⟩)) ∧
    abstractSchema.dependencyGraph.reaches (.iri ⟨"S"⟩) (.iri ⟨"D"⟩) = false := by
  refine ⟨rfl, ?_, ⟨_, rfl, _, .head _, rfl⟩, by decide⟩
  have hchild : ∃ d, (.iri ⟨"D"⟩, d) ∈ Setting.concreteSubtypes
      (settingOf abstractSchema [link "n" "p" "n"]).validator (.iri ⟨"S"⟩) := ⟨_, .head _⟩
  obtain ⟨d, hchild⟩ := hchild
  exact ⟨_, _, _, ⟨_, _, .label _, .step .refl (.subtype (d := ⟨true, _⟩) rfl rfl rfl hchild)⟩,
    List.mem_cons_self⟩

end Shex
