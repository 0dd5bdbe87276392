import Shex.Proofs.KeptContext

/-!
# What evaluation does in a context

Evaluation in a context does what evaluation does that is given a scope and returns its reasons
(`Walk.satisfies_run`): whoever changes the scope or the number of nested evaluations restores it,
an expression that holds leaves nothing behind, and one that fails leaves the reasons that are
returned. There is one statement for each rule, which says what the verdict makes of the context
(`Context.answer`, `Context.outcome`), and the rules are put together by induction on how many
evaluations may be nested.
-/

namespace Shex

namespace Walk

variable {σ α β γ : Type} {c : Context} {st : Setting σ}

/-! ## Each rule -/

/-- The semantic actions of a node: a refusal is reported as one diagnostic, in the scope of the
node. -/
theorem run_judgeActions (node : Term) (acts : List SemanticAction) (triples : List Triple) :
    (judgeActions st node acts triples).run c =
      c.answer <$> st.judgeActions c.toScope node acts triples := by
  rw [judgeActions, Setting.judgeActions]
  split
  · rw [StateT.run_pure, map_pure]
    rfl
  · rw [run_bind_of (Keeps.lift _), map_bind]
    refine congrArg _ (funext fun accepted => ?_)
    cases accepted <;> simp [run_report, Context.answer]

/-- A conjunction stops at the first failure and passes on its reasons, by induction on the
operands. -/
theorem run_all {check : α → Walk σ (Bool × List Diagnostic)} {check' : α → Run σ Verdict}
    (as : List α) (h : ∀ a ∈ as, (check a).run c = c.collected <$> check' a) :
    (all check as).run c = c.answer <$> Setting.allConform check' as := by
  induction as with
  | nil => rw [all, Setting.allConform, StateT.run_pure, map_pure]; rfl
  | cons a as ih =>
    rw [List.forall_mem_cons] at h
    rw [all, Setting.allConform, run_bind_of h.1, map_bind]
    refine congrArg _ (funext fun v => ?_)
    cases v with
    | conforms => exact ih h.2
    | fails reasons => simp [Context.collected, run_promote, Context.answer]

/-- A disjunction stops at the first success and forgets the reasons collected before; otherwise all
are passed on, in the order of the operands. -/
theorem run_any {check : α → Walk σ (Bool × List Diagnostic)} {check' : α → Run σ Verdict}
    (as : List α) (h : ∀ a ∈ as, (check a).run c = c.collected <$> check' a)
    (failures : List Diagnostic) :
    (any check failures as).run c = c.answer <$> Setting.anyConforms check' failures as := by
  induction as generalizing failures with
  | nil => simp [any, Setting.anyConforms, run_promote, Context.answer]
  | cons a as ih =>
    rw [List.forall_mem_cons] at h
    rw [any, Setting.anyConforms, run_bind_of h.1, map_bind]
    refine congrArg _ (funext fun v => ?_)
    cases v with
    | conforms => simp [Context.collected, Context.answer]
    | fails reasons => exact ih h.2 _

/-- In every context of the given depth, evaluation in the context does what evaluation in its scope
does, and makes of the context what the verdict says. -/
def Follows (depth : Nat) (nested : Term → ShapeExpr → Walk σ Bool)
    (nested' : Setting.Evaluator σ) : Prop :=
  ∀ c : Context, c.depth = depth → ∀ node e,
    (nested node e).run c = c.answer <$> nested' c.toScope node e

section
variable {depth : Nat} {nested : Term → ShapeExpr → Walk σ Bool} {nested' : Setting.Evaluator σ}
  (hn : Follows depth nested nested') (hc : c.depth = depth)
include hn hc

/-- An expression that is evaluated on its own. -/
theorem run_collecting_nested (node : Term) (e : ShapeExpr) :
    (collecting (nested node e)).run c = c.collected <$> nested' c.toScope node e :=
  run_collecting (hn c.cleared hc node e)

/-- A value expression is asked with all edges shown, and its reasons are kept apart: matching
decides later whether they count. So asking changes nothing in the context. -/
theorem valueConforms_keeps (node : Term) (e : ShapeExpr) :
    Keeps c (valueConforms nested node e) (nested' c.toScope.showAll node e) := by
  have hnested := run_collecting_nested (c := c.within c.showAll) hn hc node e
  simp only [Keeps, valueConforms, StateT.run_bind, StateT.run_get, StateT.run_modify,
    StateT.run_pure, bind_assoc, pure_bind, hnested, map_eq_pure_bind]
  refine congrArg _ (funext fun v => ?_)
  cases v <;> rfl

omit hn hc in
/-- A failure to match is told as what `Setting.explain` makes of it. -/
theorem run_tell (node : Term) (f : MatchFailure) :
    (tell node f : Walk σ Unit).run c = pure ((), c.after (Setting.explain c.toScope node f)) := rfl

omit hn hc in
/-- All failures to match are told. -/
theorem run_tellAll (node : Term) (fs : List MatchFailure) :
    (forM fs (tell node) : Walk σ PUnit).run c =
      pure ((), c.after (fs.flatMap (Setting.explain c.toScope node))) := by
  induction fs generalizing c with
  | nil => simp [Context.after_nil]
  | cons f fs ih =>
    rw [List.forM_cons, StateT.run_bind, run_tell, pure_bind, ih, Context.after_after]
    rfl

/-- Matching leaves the context alone; if it fails, its failures are told. Values are checked in the
same context, in which all edges are shown. -/
theorem run_matchForm (node : Term) (n : Neighbourhood) (form : Form) (extra : List Iri) :
    (matchForm st nested node n form extra).run c =
      c.outcome <$> st.matchForm nested' c.toScope node n form extra := by
  have hfind : Keeps c (findAssignment (referee st nested) form extra n.edges)
      (findAssignment (st.referee nested' c.toScope) form extra n.edges) :=
    findAssignment_keeps (valueConforms_keeps hn hc) (fun _ _ => Keeps.lift _) (Keeps.lift _) form
      extra n.edges
  rw [matchForm, Setting.matchForm, run_bind_of hfind, map_bind]
  refine congrArg _ (funext fun m => ?_)
  cases m with
  | matched a => simp [Context.outcome]
  | failed fs => simp [run_tellAll, Context.outcome]

omit hn hc in
/-- The triples that a closed shape does not admit are found one after the other. -/
theorem closedFailures_cons (scope : Scope) (node : Term) (t : Triple) (rest incoming : List Triple)
    (form : Form) (extra : List Iri) :
    Setting.closedFailures scope node ⟨t :: rest, incoming⟩ form extra =
      if (form.predicates false).contains t.predicate || extra.contains t.predicate then
        Setting.closedFailures scope node ⟨rest, incoming⟩ form extra
      else closedFailure scope node t ::
        Setting.closedFailures scope node ⟨rest, incoming⟩ form extra := by
  rw [Setting.closedFailures, Setting.closedFailures, List.filter_cons]
  cases (form.predicates false).contains t.predicate || extra.contains t.predicate <;> rfl

omit hn hc in
/-- The outgoing triples that a closed shape does not admit are told, one failure for each of them,
and the answer is whether there are none. -/
theorem run_isClosed (node : Term) (n : Neighbourhood) (form : Form) (extra : List Iri) :
    (isClosed node form extra n.outgoing : Walk σ Bool).run c =
      pure ((Setting.closedFailures c.toScope node n form extra).isEmpty,
        c.after (Setting.closedFailures c.toScope node n form extra)) := by
  obtain ⟨outgoing, incoming⟩ := n
  induction outgoing generalizing c with
  | nil => rw [isClosed, StateT.run_pure, Setting.closedFailures]; simp [Context.after_nil]
  | cons t rest ih =>
    rw [isClosed, closedFailures_cons]
    split
    · exact ih
    · simp only [StateT.run_bind, StateT.run_get, pure_bind, run_promote, ih, StateT.run_pure,
        Context.after_after]
      rfl

/-- A closed shape is checked first, and edges are matched only if nothing is left over. So a node
that is refused for being closed is told nothing else. -/
theorem run_matchAround (node : Term) (form : Form) (closed : Bool) (extra : List Iri) :
    (matchAround st nested node form closed extra).run c =
      c.outcome <$> st.matchAround nested' c.toScope node form closed extra := by
  rw [matchAround, Setting.matchAround, StateT.run_bind, StateT.run_get, pure_bind]
  cases closed with
  | false =>
    simp only [Bool.false_eq_true, if_false, List.isEmpty_nil, if_true]
    exact run_matchForm hn hc node _ form extra
  | true =>
    simp only [if_true, StateT.run_bind, run_isClosed, pure_bind]
    generalize hds : Setting.closedFailures _ _ _ _ _ = ds
    cases ds with
    | nil =>
      rw [Context.after_nil]
      exact run_matchForm hn hc node _ form extra
    | cons d ds =>
      simp [Context.outcome]

/-- A shape is normalized and matched around the node. The triples of the assignment are what it
returns. -/
theorem run_satisfiesShape (node : Term) (s : Shape) :
    (satisfiesShape st nested node s).run c =
      c.outcome <$> st.satisfiesShape nested' c.toScope node s := by
  have hmatch : ∀ form : Form,
      (matchAround st nested node form s.header.closed s.header.extra >>= fun a =>
          pure (a.map Assignment.triples)).run c =
        c.outcome <$> (st.matchAround nested' c.toScope node form s.header.closed s.header.extra
          >>= fun a => pure (a.map Assignment.triples)) := by
    intro form
    rw [run_bind_of (run_matchAround hn hc node form _ _), map_bind]
    refine congrArg _ (funext fun j => ?_)
    cases j <;> simp [Context.outcome, Except.map]
  rw [satisfiesShape, Setting.satisfiesShape]
  cases s.expression with
  | none => exact hmatch _
  | some e =>
    dsimp only
    rw [run_bind_of (Keeps.lift _), map_bind]
    exact congrArg _ (funext hmatch)

/-- The parts of an extension, one after the other: actions first, then constraints with the edges
of the other parts hidden. Each hides for its own evaluation only, so the scope of the next part is
the same. -/
theorem run_satisfiesParts (node : Term) (owners : List (Edge × Nat)) (parts : List (Part × Nat)) :
    (satisfiesParts st nested node owners parts).run c =
      c.answer <$> st.satisfiesParts nested' c.toScope node owners parts := by
  induction parts with
  | nil => rw [satisfiesParts, Setting.satisfiesParts, StateT.run_pure, map_pure]; rfl
  | cons p rest ih =>
    obtain ⟨p, i⟩ := p
    rw [satisfiesParts, Setting.satisfiesParts, run_bind_of (run_judgeActions ..), map_bind]
    refine congrArg _ (funext fun v => ?_)
    cases v with
    | fails reasons => simp [Context.answer]
    | conforms =>
      have hall : ∀ others : List Edge,
          (all (fun e => withHidden node others (collecting (nested node e))) p.constraints).run c =
            c.answer <$> Setting.allConform (nested' (c.hide node others) node) p.constraints := by
        intro others
        have hc' : (c.within (c.hide node others)).depth = depth := hc
        exact run_all _ fun e _ => run_withHidden (run_collecting_nested hn hc' node e)
      simp only [Context.answer, if_true]
      rw [run_bind_of (hall _), map_bind]
      refine congrArg _ (funext fun v => ?_)
      cases v with
      | conforms => exact ih
      | fails reasons => simp [Context.answer]

/-- A shape that extends others: its plan is looked up, the joined form is matched, and the parts
are checked with the edges that were assigned to them. -/
theorem run_satisfiesExtending (node : Term) (l : Label) (declared : ShapeExpr) :
    (satisfiesExtending st nested node l declared).run c =
      c.answer <$> st.satisfiesExtending nested' nested' c.toScope node l declared := by
  rw [satisfiesExtending, Setting.satisfiesExtending, run_bind_of (Keeps.lift _), map_bind]
  refine congrArg _ (funext fun plan => ?_)
  rw [run_bind_of (run_matchAround hn hc node plan.form _ _), map_bind]
  refine congrArg _ (funext fun j => ?_)
  cases j with
  | error reasons => simp [Context.outcome, Context.answer]
  | ok a =>
    simp only [Context.outcome]
    cases Setting.ownersOf plan l a.matched with
    | error fault => rfl
    | ok owners =>
      dsimp only
      rw [run_bind_of (run_satisfiesParts hn hc node owners _), map_bind]
      refine congrArg _ (funext fun v => ?_)
      cases v with
      | fails reasons => simp [Context.answer]
      | conforms =>
        simp only [Context.answer, if_true]
        split
        · simp [Context.answer]
        · exact run_judgeActions ..

/-- A declaration that is not abstract: as an extension if it extends something, else as its
expression. -/
theorem run_satisfiesConcrete (node : Term) (l : Label) (d : ShapeDecl) :
    (satisfiesConcrete st nested node l d).run c =
      c.answer <$> st.satisfiesConcrete nested' nested' c.toScope node l d := by
  have hc' : (c.within (c.enter node l)).depth = depth := hc
  rw [satisfiesConcrete, Setting.satisfiesConcrete, run_entering]
  split
  · exact run_satisfiesExtending hn hc' node l d.expr
  · exact hn _ hc' node d.expr

/-- In place of an abstract shape its subtypes are tried in order, and a failure is reported with
the reasons of all of them. -/
theorem run_satisfiesSubtype (node : Term) (l : Label) :
    (satisfiesSubtype st nested node l).run c =
      c.answer <$> do
        match ← Setting.anyConforms
            (fun (child, d) => st.satisfiesConcrete nested' nested' c.toScope node child d) []
            (Setting.concreteSubtypes st.validator l) with
        | .conforms => return .conforms
        | .fails reasons =>
          return .fails (reasons ++ [c.diagnostic node .abstractShape
            ("Node " ++ node.print ++ " does not match any concrete shape extending " ++
              l.print)]) := by
  have hc' : c.cleared.depth = depth := hc
  have hany : (any (fun (child, d) => collecting (satisfiesConcrete st nested node child d)) []
      (Setting.concreteSubtypes st.validator l)).run c =
      c.answer <$> Setting.anyConforms
        (fun (child, d) => st.satisfiesConcrete nested' nested' c.toScope node child d) []
        (Setting.concreteSubtypes st.validator l) :=
    run_any _ (fun x _ => run_collecting (run_satisfiesConcrete hn hc' node x.1 x.2)) []
  rw [satisfiesSubtype, run_bind_of hany, map_bind]
  refine congrArg _ (funext fun v => ?_)
  cases v with
  | conforms => simp [Context.answer]
  | fails reasons =>
    simp only [Context.answer, Bool.false_eq_true, if_false, StateT.run_bind, run_report, pure_bind,
      Context.after_after, map_pure]
    rfl

/-- A reference: the pair is entered, unless it is being checked already, in which case it holds.
When it is left, the context is the one from before but for what was told. -/
theorem run_satisfiesLabel (node : Term) (l : Label) :
    (satisfiesLabel st nested node l).run c =
      c.answer <$> st.satisfiesLabel nested' nested' c.toScope node l := by
  rw [satisfiesLabel, Setting.satisfiesLabel]
  cases st.validator.schema.shape? l with
  | none => rfl
  | some d =>
    dsimp only
    cases d.isAbstract with
    | false => exact run_satisfiesConcrete hn hc node l d
    | true =>
      have hc' : (c.within (c.enter node l)).depth = depth := hc
      simp only [if_true, Bool.not_true, Bool.false_eq_true, if_false]
      exact run_entering (run_satisfiesSubtype hn hc' node l)

omit hn hc in
/-- All failures of a node constraint are reported. -/
theorem run_reportAll {α : Type} (node : Term) (kind : α → DiagnosticKind) (message : α → String)
    (fs : List α) :
    (forM fs fun f => report node (kind f) (message f) : Walk σ PUnit).run c =
      pure ((), c.after (fs.map fun f => c.diagnostic node (kind f) (message f))) := by
  induction fs generalizing c with
  | nil => simp [Context.after_nil]
  | cons f fs ih =>
    rw [List.forM_cons, StateT.run_bind, run_report, pure_bind, ih, Context.after_after]
    rfl

/-- The rule for each kind of expression, for nested evaluations that follow each other. Only a
disjunction and a negation forget what was told, and they do so where their rule says. -/
theorem run_evaluate (node : Term) (e : ShapeExpr) :
    (evaluate st nested node e).run c =
      c.outcome <$> st.evaluate nested' nested' c.toScope node e := by
  cases e with
  | and m es =>
    rw [evaluate, Setting.evaluate,
      run_bind_of (run_all es fun e _ => run_collecting_nested hn hc node e), map_bind]
    refine congrArg _ (funext fun v => ?_)
    cases v <;> simp [Context.answer, Context.outcome]
  | or m es =>
    rw [evaluate, Setting.evaluate,
      run_bind_of (run_any es (fun e _ => run_collecting_nested hn hc node e) []), map_bind]
    refine congrArg _ (funext fun v => ?_)
    cases v with
    | conforms => simp [Context.answer, Context.outcome]
    | fails reasons =>
      simp only [Context.answer, Bool.false_eq_true, if_false, StateT.run_bind, run_report,
        pure_bind, Context.after_after, map_pure]
      rfl
  | not m e =>
    rw [evaluate, Setting.evaluate, run_bind_of (run_collecting_nested hn hc node e), map_bind]
    refine congrArg _ (funext fun v => ?_)
    cases v <;> simp [Context.collected, Context.outcome, run_report]
  | ref m l =>
    rw [evaluate, Setting.evaluate, run_bind_of (run_satisfiesLabel hn hc node l), map_bind]
    refine congrArg _ (funext fun v => ?_)
    cases v <;> simp [Context.answer, Context.outcome]
  | shape m h t => exact run_satisfiesShape hn hc node ⟨h, t⟩
  | nodeConstraint m k =>
    rw [evaluate, Setting.evaluate]
    cases k.failures st.validator.readers st.limits.patternLength node with
    | error fault => rfl
    | ok failures =>
      cases failures with
      | nil => simp [Context.outcome]
      | cons f fs =>
        simp [-List.forM_cons, run_reportAll, Context.outcome]
  | external m =>
    simp [evaluate, Setting.evaluate, run_report, Context.outcome]

end

/-- One level deeper, and back. The level is given back whether the evaluation conforms or not;
where it ends the run there is nothing to give back to. -/
theorem run_nesting {x : Walk σ (Option α)} {y : Run σ (Judged α)} (limit : Nat)
    (hx : c.depth < limit →
      x.run { c with depth := c.depth + 1 } =
        Context.outcome { c with depth := c.depth + 1 } <$> y) :
    (nesting limit x).run c =
      if c.depth < limit then c.outcome <$> y else throw (.limit (.depth limit)) := by
  simp only [nesting, StateT.run_bind, StateT.run_get, StateT.run_modify, pure_bind]
  by_cases h : c.depth < limit
  · rw [if_neg (by omega), if_pos h]
    simp only [StateT.run_bind, StateT.run_modify, StateT.run_pure, bind_assoc, pure_bind, hx h,
      map_eq_pure_bind]
    refine congrArg _ (funext fun j => ?_)
    cases j <;> rfl
  · rw [if_pos (by omega), if_neg h]
    rfl

/-- Evaluation in a context follows evaluation that is given the number of nested evaluations that
are left. -/
theorem satisfiesWithin_follows (fuel depth : Nat) :
    Follows depth (satisfiesWithin st fuel)
      (st.satisfies (min fuel (st.limits.depth - depth))) := by
  induction fuel generalizing depth with
  | zero =>
    intro c _ node e
    rw [Nat.zero_min]
    rfl
  | succ fuel ih =>
    rintro c rfl node e
    have hevaluate : (evaluate st (satisfiesWithin st fuel) node e).run
        { c with depth := c.depth + 1 } = _ := run_evaluate (ih (c.depth + 1)) rfl node e
    have hnesting := run_nesting st.limits.depth fun _ => hevaluate
    rw [satisfiesWithin, StateT.run_bind, hnesting]
    split
    · rename_i hlt
      obtain ⟨k, hk⟩ : ∃ k, st.limits.depth - c.depth = k + 1 :=
        ⟨st.limits.depth - c.depth - 1, by omega⟩
      have hk' : st.limits.depth - (c.depth + 1) = k := by omega
      rw [hk, hk', Nat.add_min_add_right, Setting.satisfies, bind_map_left, map_bind]
      refine congrArg _ (funext fun j => ?_)
      cases j with
      | error reasons => simp [Context.outcome, Context.answer]
      | ok triples => exact run_judgeActions ..
    · -- the limit is reached, and the other evaluation has no fuel left
      have hzero : st.limits.depth - c.depth = 0 := by omega
      rw [hzero, Nat.min_zero]
      rfl

/-- Evaluation in a context does what evaluation in its scope does, with as many nested evaluations
as are left. -/
theorem satisfies_run (node : Term) (e : ShapeExpr) :
    (satisfies st node e).run c =
      c.answer <$> st.satisfies (st.limits.depth - c.depth) c.toScope node e := by
  have hwithin := @satisfiesWithin_follows _ st st.limits.depth c.depth c rfl node e
  rwa [Nat.min_eq_right (Nat.sub_le _ _)] at hwithin

/-! ## Validating in one context -/

/-- A pair of the shape map, checked from the idle context, leaves nothing but its diagnostics. So
each pair finds the context that it would find alone. -/
theorem run_checkStarted (started : Bool) (node : Term) (selector : Selector) :
    (checkStarted st started node selector).run .idle =
      Context.idle.answer <$> st.check started node selector := by
  cases started with
  | false =>
    simp only [checkStarted, Setting.check, Bool.false_eq_true, if_false, StateT.run_bind,
      run_report, pure_bind, StateT.run_pure, map_pure]
    rfl
  | true =>
    rw [checkStarted, Setting.check, if_pos rfl, if_pos rfl]
    cases selector with
    | label l =>
      have hn : Follows 0 (satisfies st) (st.satisfies st.limits.depth) := by
        intro c hc node e
        rw [satisfies_run, hc, Nat.sub_zero]
      exact run_satisfiesLabel hn rfl node l
    | start =>
      rw [checkSelected, Setting.checkSelected]
      cases st.validator.schema.start with
      | none => rfl
      | some e =>
        simp only [StateT.run_bind, StateT.run_modify, pure_bind]
        exact satisfies_run (c := .idle) node e

/-- A pair that is checked in the context of a run leaves it as it was, and has the entry of its
verdict. -/
theorem check_keeps (started : Bool) (node : Term) (selector : Selector) :
    Keeps .idle (check st started node selector)
      (Setting.entry node selector <$> st.check started node selector) := by
  have hidle : Context.idle.cleared = .idle := rfl
  simp only [Keeps, check, StateT.run_bind, StateT.run_get, StateT.run_modify, StateT.run_pure,
    pure_bind, hidle, run_checkStarted, map_eq_pure_bind, bind_assoc]
  refine congrArg _ (funext fun v => ?_)
  cases v <;> rfl

/-- Pairs that are checked in one context have the entries that they have on their own. The context
is idle again after each of them. -/
theorem checkAll_keeps (started : Bool) (pairs : List (Term × Selector)) :
    Keeps .idle (checkAll st started pairs) (st.checkAll started pairs) := by
  induction pairs with
  | nil => exact .pure
  | cons p rest ih =>
    obtain ⟨node, selector⟩ := p
    rw [checkAll, Setting.checkAll]
    have hboth : Keeps .idle
        (do return (← check st started node selector) :: (← checkAll st started rest))
        (do return (← Setting.entry node selector <$> st.check started node selector) ::
          (← st.checkAll started rest)) :=
      (check_keeps started node selector).bind fun _ => ih.bind fun _ => .pure
    rwa [bind_map_left] at hboth

end Walk

end Shex
