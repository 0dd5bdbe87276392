import Shex.Proofs.Shapes
import Shex.Proofs.Walks

/-!
# Diagnostics are the excuse of an evaluation

An expression that fails does so for a reason (`Setting.satisfies_excused`). So evaluation in a
context adds at least one diagnostic if the node does not satisfy the expression, and changes
nothing if it does (`Walk.satisfies_excuse`), and every entry of a report that does not conform has
a diagnostic.
-/

namespace Shex

open Run

namespace Setting

variable {σ α : Type} {st : Setting σ} {values nested : Evaluator σ} {scope : Scope} {node : Term}

/-- A computation returns only values that satisfy `Q`, whatever state it starts in. -/
def Always (x : Run σ α) (Q : α → Prop) : Prop := Meets (fun _ => True) x Q fun _ => True

/-- Nothing is asked of the result. -/
theorem always_true (x : Run σ α) : Always x fun _ => True := by
  intro s _
  refine ⟨trivial, ?_⟩
  split <;> trivial

/-- A refusal by a handler is reported. -/
theorem judgeActions_excused (acts : List SemanticAction) (triples : List Triple) :
    Always (st.judgeActions scope node acts triples) (· ≠ .fails []) := by
  unfold judgeActions
  split
  · exact Meets.pure nofun
  · refine (always_true _).bind fun accepted _ => ?_
    cases accepted <;> exact Meets.pure (by simp)

/-- The reasons of a conjunction are those of the operand that failed. -/
theorem allConform_excused {check : α → Run σ Verdict} (as : List α)
    (h : ∀ a ∈ as, Always (check a) (· ≠ .fails [])) :
    Always (allConform check as) (· ≠ .fails []) := by
  induction as with
  | nil => exact Meets.pure nofun
  | cons a as ih =>
    rw [List.forall_mem_cons] at h
    rw [allConform]
    refine h.1.bind fun v hv => ?_
    cases v with
    | conforms => exact ih h.2
    | fails reasons => exact Meets.pure hv

/-- Every way to fail is explained by at least one diagnostic. -/
theorem explain_ne_nil (f : MatchFailure) : explain scope node f ≠ [] := by
  cases f with
  | noAssignment tried => simp [explain]
  | unmatched e reasons => cases reasons <;> simp [explain]

/-- If there is no assignment, there is a failure that says why: an edge that matches nothing, or
the number of assignments that were tried. -/
theorem findAssignment_excused (r : Referee (Run σ)) (form : Form) (extra : List Iri)
    (edges : List Edge) :
    Always (findAssignment r form extra edges) fun m => ∀ fs, m = .failed fs → fs ≠ [] := by
  unfold findAssignment
  refine (always_true _).bind fun s _ => ?_
  split
  · rename_i h
    refine Meets.pure ?_
    rintro _ ⟨⟩ hnil
    simp [hnil] at h
  · refine (always_true _).bind fun p _ => ?_
    obtain ⟨n, _ | a⟩ := p
    · refine Meets.pure ?_
      rintro _ ⟨⟩
      simp
    · exact Meets.pure nofun

/-- A failure to match lists failures, and each of them is explained. -/
theorem matchForm_excused (n : Neighbourhood) (form : Form) (extra : List Iri) :
    Always (st.matchForm values scope node n form extra) (· ≠ .error []) := by
  unfold matchForm
  refine (findAssignment_excused _ _ _ _).bind fun m hm => ?_
  cases m with
  | matched a => exact Meets.pure nofun
  | failed fs =>
    refine Meets.pure fun h => ?_
    obtain ⟨f, hf⟩ := List.exists_mem_of_ne_nil _ (hm fs rfl)
    exact explain_ne_nil f (List.flatMap_eq_nil_iff.1 (Except.error.inj h) f hf)

/-- A closed shape fails with a diagnostic for each triple that is left over. -/
theorem matchAround_excused (form : Form) (closed : Bool) (extra : List Iri) :
    Always (st.matchAround values scope node form closed extra) (· ≠ .error []) := by
  unfold matchAround
  dsimp only
  generalize (if closed = true then _ else _) = failures
  cases failures with
  | nil => exact matchForm_excused _ form extra
  | cons d ds => exact Meets.pure nofun

/-- A shape fails as its matching does. -/
theorem satisfiesShape_excused (s : Shape) :
    Always (st.satisfiesShape values scope node s) (· ≠ .error []) := by
  rw [satisfiesShape_eq]
  refine (always_true _).bind fun form _ => (matchAround_excused _ _ _).bind fun j hj => ?_
  cases j with
  | ok a => exact Meets.pure nofun
  | error reasons => exact Meets.pure fun h => hj (congrArg _ (Except.error.inj h))

section
variable (hn : ∀ scope node e, Always (nested scope node e) (· ≠ .fails []))
include hn

/-- Parts fail for a refused action or with the reasons of a constraint, by induction on the
parts. -/
theorem satisfiesParts_excused (owners : List (Edge × Nat)) (parts : List (Part × Nat)) :
    Always (st.satisfiesParts nested scope node owners parts) (· ≠ .fails []) := by
  induction parts with
  | nil => exact Meets.pure nofun
  | cons p rest ih =>
    obtain ⟨p, i⟩ := p
    rw [satisfiesParts]
    refine (judgeActions_excused _ _).bind fun v hv => ?_
    cases v with
    | fails reasons => exact Meets.pure hv
    | conforms =>
      refine (allConform_excused _ fun e _ => hn _ _ e).bind fun v hv => ?_
      cases v with
      | fails reasons => exact Meets.pure hv
      | conforms => exact ih

/-- An extension fails as its matching or as one of its parts does, or with the reasons of the
declared expression, which is judged last. -/
theorem satisfiesExtending_excused (l : Label) (declared : ShapeExpr) :
    Always (st.satisfiesExtending values nested scope node l declared) (· ≠ .fails []) := by
  unfold satisfiesExtending
  refine (always_true _).bind fun plan _ => (matchAround_excused _ _ _).bind fun j hj => ?_
  cases j with
  | error reasons => exact Meets.pure fun h => hj (congrArg _ (Verdict.fails.inj h))
  | ok a =>
    dsimp only
    split
    · exact Meets.throw trivial
    · refine (satisfiesParts_excused hn _ _).bind fun v hv => ?_
      cases v with
      | fails reasons => exact Meets.pure hv
      | conforms =>
        dsimp only
        split
        · exact Meets.pure nofun
        · exact judgeActions_excused _ _

/-- A declaration fails as its expression does. -/
theorem satisfiesConcrete_excused (l : Label) (d : ShapeDecl) :
    Always (st.satisfiesConcrete values nested scope node l d) (· ≠ .fails []) := by
  unfold satisfiesConcrete
  split
  · exact Meets.pure nofun
  · dsimp only
    split
    · exact satisfiesExtending_excused hn l d.expr
    · exact hn _ _ _

/-- A reference fails as its declaration does, or as all subtypes of an abstract one do. -/
theorem satisfiesLabel_excused (l : Label) :
    Always (st.satisfiesLabel values nested scope node l) (· ≠ .fails []) := by
  unfold satisfiesLabel
  split
  · exact Meets.throw trivial
  · split
    · exact satisfiesConcrete_excused hn l _
    · split
      · exact Meets.pure nofun
      · refine (always_true _).bind fun v _ => ?_
        cases v <;> exact Meets.pure (by simp)

/-- The rule for each kind of expression. An external shape and a negation have a diagnostic of
their own, since nothing evaluated inside gives a reason. -/
theorem evaluate_excused (e : ShapeExpr) :
    Always (st.evaluate values nested scope node e) (· ≠ .error []) := by
  cases e with
  | and m es =>
    refine (allConform_excused es fun e _ => hn _ _ e).bind fun v hv => ?_
    cases v with
    | conforms => exact Meets.pure nofun
    | fails reasons => exact Meets.pure fun h => hv (congrArg _ (Except.error.inj h))
  | or m es =>
    refine (always_true _).bind fun v _ => ?_
    cases v <;> exact Meets.pure (by simp)
  | not m e =>
    refine (always_true _).bind fun v _ => ?_
    cases v <;> exact Meets.pure (by simp)
  | ref m l =>
    refine (satisfiesLabel_excused hn l).bind fun v hv => ?_
    cases v with
    | conforms => exact Meets.pure nofun
    | fails reasons => exact Meets.pure fun h => hv (congrArg _ (Except.error.inj h))
  | shape m h t => exact satisfiesShape_excused ⟨h, t⟩
  | nodeConstraint m k =>
    rw [evaluate]
    split
    · exact Meets.throw trivial
    · exact Meets.pure nofun
    · rename_i failures hne _
      exact Meets.pure fun h => hne (List.map_eq_nil_iff.1 (Except.error.inj h))
  | external m => exact Meets.pure (by simp)

end

/-- An expression that fails does so for a reason. -/
theorem satisfies_excused (depth : Nat) (scope : Scope) (node : Term) (e : ShapeExpr) :
    Always (st.satisfies depth scope node e) (· ≠ .fails []) := by
  induction depth generalizing scope node e with
  | zero => exact Meets.throw trivial
  | succ depth ih =>
    rw [satisfies]
    refine (evaluate_excused ih e).bind fun j hj => ?_
    cases j with
    | error reasons => exact Meets.pure fun h => hj (congrArg _ (Verdict.fails.inj h))
    | ok triples => exact judgeActions_excused _ _

/-- A pair of the shape map: it fails as its label or the start expression does, or because the
start actions were refused, which is reported too. -/
theorem check_excused (started : Bool) (node : Term) (selector : Selector) :
    Always (st.check started node selector) (· ≠ .fails []) := by
  unfold check
  split
  · cases selector with
    | label l => exact satisfiesLabel_excused (satisfies_excused _) l
    | start =>
      rw [checkSelected]
      split
      · exact Meets.throw trivial
      · exact satisfies_excused _ _ node _
  · exact Meets.pure (by simp)

/-- The entries of a report: every pair that does not conform has a diagnostic. -/
theorem checkAll_excused (started : Bool) (pairs : List (Term × Selector)) :
    Always (st.checkAll started pairs) fun es =>
      ∀ x ∈ es, x.status = .nonconformant → x.diagnostics ≠ [] := by
  induction pairs with
  | nil => exact Meets.pure (by simp)
  | cons p rest ih =>
    obtain ⟨node, selector⟩ := p
    rw [checkAll]
    refine (check_excused started node selector).bind fun v hv => ih.bind fun es hes => ?_
    refine Meets.pure (List.forall_mem_cons.2 ⟨?_, hes⟩)
    cases v with
    | conforms =>
      intro h
      cases h
    | fails reasons => exact fun _ hnil => hv (congrArg _ hnil)

/-- Every entry of a report that does not conform has a diagnostic, for any limits, handlers and
memo: nothing about the state of the run is used. -/
theorem report_excused {pairs : List (Term × Selector)} {memo : Memo} {world : σ} {report : Report}
    (h : (st.validator.validate st.limits st.handlers st.graph pairs memo world).1 = .ok report) :
    ∀ x ∈ report.entries, x.status = .nonconformant → x.diagnostics ≠ [] := by
  have hrun : Always (st.run pairs) fun report =>
      ∀ x ∈ report.entries, x.status = .nonconformant → x.diagnostics ≠ [] := by
    unfold run
    split
    · exact Meets.throw trivial
    · exact (always_true _).bind fun started _ =>
        (checkAll_excused started pairs).bind fun es hes => Meets.pure hes
  have hresult := (hrun ⟨memo, 0, world⟩ trivial).2
  change ((st.run pairs).run.run ⟨memo, 0, world⟩).1 = _ at h
  rwa [h] at hresult

end Setting

namespace Walk

variable {σ : Type}

/-- Where a computation that is mapped gives a result, it is the image of a result. -/
theorem run_map_ok {α β : Type} {g : α → β} {y : Run σ α} {s t : RunState σ} {b : β}
    (h : (g <$> y).run.run s = (.ok b, t)) : ∃ a, y.run.run s = (.ok a, t) ∧ g a = b := by
  rw [map_eq_pure_bind, run_bind] at h
  rcases hy : y.run.run s with ⟨_ | a, u⟩
  · rw [hy] at h
    cases h
  · rw [hy] at h
    cases h
    exact ⟨a, rfl, rfl⟩

/-- The diagnostics of an evaluation are its excuse. In every context, an evaluation that succeeds
leaves the context as it was, and one that fails adds at least one diagnostic and changes nothing
else. This evaluation is the one that runs, for single expressions and for all pairs of a run; so
every entry of a report that does not conform has a diagnostic. -/
theorem satisfies_excuse (st : Setting σ) (c : Context) (node : Term) (e : ShapeExpr) :
    (∀ (s t : RunState σ) (conforms : Bool) (c' : Context),
      ((satisfies st node e).run c).run.run s = (.ok (conforms, c'), t) →
        if conforms then c' = c
        else ∃ reasons, reasons ≠ [] ∧ c' = { c with diagnostics := c.diagnostics ++ reasons }) ∧
    (satisfies st node e).run c =
      c.answer <$> st.satisfies (st.limits.depth - c.depth) c.toScope node e ∧
    (∀ started pairs, (checkAll st started pairs).run .idle =
      (fun entries => (entries, .idle)) <$> st.checkAll started pairs) ∧
    ∀ pairs memo world report,
      (st.validator.validate st.limits st.handlers st.graph pairs memo world).1 = .ok report →
        ∀ x ∈ report.entries, x.status = .nonconformant → x.diagnostics ≠ [] := by
  have hrun := @satisfies_run _ c st node e
  refine ⟨fun s t conforms c' h => ?_, hrun, fun started pairs => checkAll_keeps started pairs,
    fun _ _ _ _ => Setting.report_excused⟩
  rw [hrun] at h
  obtain ⟨v, hv, hanswer⟩ := run_map_ok h
  have hexcused := (Setting.satisfies_excused _ _ node e).ok trivial hv
  cases v with
  | conforms =>
    obtain ⟨rfl, rfl⟩ := Prod.mk.inj hanswer
    simp
  | fails reasons =>
    obtain ⟨rfl, rfl⟩ := Prod.mk.inj hanswer
    exact ⟨reasons, fun hnil => hexcused.2 (congrArg _ hnil), rfl⟩

/-- A run about an empty schema and an empty graph. -/
def emptySetting : Setting Unit := ⟨default, .standard, .empty, Graph.empty.view⟩

/-- The context of a check inside another one, with a diagnostic and an edge that is hidden. -/
def innerContext : Context where
  active := [(.resource (.iri ⟨"n"⟩), .iri ⟨"S"⟩)]
  label := some (.iri ⟨"S"⟩)
  hidden := [(.resource (.iri ⟨"n"⟩),
    [⟨⟨.iri ⟨"n"⟩, ⟨"p"⟩, .resource (.iri ⟨"n"⟩)⟩, false⟩])]
  diagnostics := [⟨.resource (.iri ⟨"n"⟩), none, .or, none, none, ""⟩]
  depth := 3

/-- An external shape. -/
def externalShape : ShapeExpr := .external ⟨⟨1⟩, []⟩

/-- An external shape fails, and its negation holds. -/
theorem external_excuse :
    (∃ t c', ((satisfies emptySetting (.resource (.iri ⟨"m"⟩)) externalShape).run
        innerContext).run.run ⟨.empty, 0, ()⟩ = (.ok (false, c'), t) ∧
      ∃ reasons, reasons ≠ [] ∧
        c' = { innerContext with diagnostics := innerContext.diagnostics ++ reasons }) ∧
    ∃ t c', ((satisfies emptySetting (.resource (.iri ⟨"m"⟩)) (.not ⟨⟨0⟩, []⟩ externalShape)).run
        innerContext).run.run ⟨.empty, 0, ()⟩ = (.ok (true, c'), t) ∧ c' = innerContext := by
  have hexcuse := satisfies_excuse emptySetting innerContext (.resource (.iri ⟨"m"⟩))
  exact ⟨⟨_, _, rfl, (hexcuse externalShape).1 ⟨.empty, 0, ()⟩ _ false _ rfl⟩,
    ⟨_, _, rfl, (hexcuse (.not ⟨⟨0⟩, []⟩ externalShape)).1 ⟨.empty, 0, ()⟩ _ true _ rfl⟩⟩

end Walk

end Shex
