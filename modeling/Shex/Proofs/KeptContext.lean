import Shex.Proofs.Context

/-!
# What a verdict makes of the context

Matching only asks questions that keep the context, so it does in a context what it does without one
(`Walk.findAssignment_keeps`). A verdict changes nothing in the context but its diagnostics, and how
it does is `Context.answer` and `Context.outcome`: an expression that holds leaves nothing behind,
and one that fails leaves the reasons that are returned. Whoever changes the scope restores it
(`Walk.run_withHidden`, `Walk.run_entering`).
-/

namespace Shex

namespace Walk

variable {σ α β γ : Type} {c : Context}

/-! ## Computations that keep the context -/

/-- In the context `c`, a computation does what one without a context does, and keeps `c`. -/
def Keeps (c : Context) (x : Walk σ α) (y : Run σ α) : Prop := x.run c = (fun a => (a, c)) <$> y

namespace Keeps

/-- A result on the spot changes no context. -/
protected theorem pure {a : α} : Keeps c (pure a : Walk σ α) (pure a) := by
  rw [Keeps, StateT.run_pure, map_pure]

/-- A fault is the same with a context and without. -/
protected theorem throw {e : ValidationFault} : Keeps c (throw e : Walk σ α) (throw e) := rfl

/-- Whatever needs no context keeps it. -/
protected theorem lift (y : Run σ α) : Keeps c (liftM y) y := by
  rw [Keeps, StateT.run_monadLift, map_eq_pure_bind]
  rfl

/-- Two computations in a row: the second starts from the context that the first has kept. -/
protected theorem bind {x : Walk σ α} {y : Run σ α} {f : α → Walk σ β} {g : α → Run σ β}
    (hx : Keeps c x y) (hf : ∀ a, Keeps c (f a) (g a)) : Keeps c (x >>= f) (y >>= g) := by
  rw [Keeps, StateT.run_bind, hx, bind_map_left, map_bind]
  exact congrArg _ (funext hf)

/-- A loop keeps the context if its step does, whatever has been collected on the way. -/
protected theorem foldlM {f : β → α → Walk σ β} {g : β → α → Run σ β}
    (hf : ∀ b a, Keeps c (f b a) (g b a)) (as : List α) (b : β) :
    Keeps c (as.foldlM f b) (as.foldlM g b) := by
  induction as generalizing b with
  | nil => exact .pure
  | cons a as ih =>
    rw [List.foldlM_cons, List.foldlM_cons]
    exact (hf b a).bind ih

end Keeps

section
variable {r : Referee (Walk σ)} {r' : Referee (Run σ)}

/-- Trying alternatives one after the other, by induction on the alternatives. -/
theorem tryEach_keeps {attempt : β → Nat → Walk σ (Nat × Option γ)}
    {attempt' : β → Nat → Run σ (Nat × Option γ)}
    (h : ∀ b n, Keeps c (attempt b n) (attempt' b n)) (bs : List β) (tried : Nat) :
    Keeps c (tryEach attempt bs tried) (tryEach attempt' bs tried) := by
  induction bs generalizing tried with
  | nil => exact .pure
  | cons b bs ih =>
    rw [tryEach, tryEach]
    refine (h b tried).bind fun r => ?_
    obtain ⟨n, _ | d⟩ := r
    · exact ih n
    · exact .pure

/-- The search through all combinations of choices, by induction on what is still to be chosen. -/
theorem searchChoices_keeps {accept : List (α × β) → Walk σ (Option γ)}
    {accept' : List (α × β) → Run σ (Option γ)} (h : ∀ cs, Keeps c (accept cs) (accept' cs))
    (things : List (α × List β)) (before : List (α × β)) (tried : Nat) :
    Keeps c (searchChoices accept things before tried)
      (searchChoices accept' things before tried) := by
  induction things generalizing before tried with
  | nil =>
    rw [searchChoices, searchChoices]
    exact (h _).bind fun _ => .pure
  | cons t rest ih =>
    obtain ⟨a, options⟩ := t
    rw [searchChoices, searchChoices]
    exact tryEach_keeps (fun b n => ih _ n) options tried

/-- A question is answered from the record or asked anew; a record is no context. -/
theorem judge_keeps (hverdict : ∀ t e, Keeps c (r.verdict t e) (r'.verdict t e)) (vs : Verdicts)
    (t : Term) (e : ShapeExpr) : Keeps c (r.judge vs t e) (r'.judge vs t e) := by
  unfold Referee.judge
  split
  · exact .pure
  · exact (hverdict t e).bind fun _ => .pure

/-- One candidate constraint is asked for one edge. -/
theorem ask_keeps (hverdict : ∀ t e, Keeps c (r.verdict t e) (r'.verdict t e)) (t : Term)
    (k : Candidacy) (tc : TripleConstraint) : Keeps c (k.ask r t tc) (k.ask r' t tc) := by
  unfold Candidacy.ask
  split
  · exact .pure
  · refine (judge_keeps hverdict _ t _).bind fun p => ?_
    obtain ⟨_ | reasons, vs⟩ := p <;> exact .pure

/-- The candidates of one edge are collected, and the edge is put among the matched or the extra
ones. -/
theorem place_keeps (hverdict : ∀ t e, Keeps c (r.verdict t e) (r'.verdict t e))
    (constraints : List TripleConstraint) (extra : List Iri) (s : Sorting) (e : Edge) :
    Keeps c (s.place r constraints extra e) (s.place r' constraints extra e) := by
  unfold Sorting.place
  split
  · exact .pure
  · refine (Keeps.foldlM (ask_keeps hverdict e.opposite) _ _).bind fun k => ?_
    dsimp only
    split
    · split <;> exact .pure
    · exact .pure

/-- The semantic actions of an assignment, one annotated node after the other. -/
theorem acceptsAll_keeps (haccepts : ∀ as ts, Keeps c (r.accepts as ts) (r'.accepts as ts))
    (matched : List (Edge × ExprId)) (as : List Annotated) :
    Keeps c (r.acceptsAll matched as) (r'.acceptsAll matched as) := by
  induction as with
  | nil => exact .pure
  | cons a as ih =>
    rw [Referee.acceptsAll, Referee.acceptsAll]
    refine (haccepts _ _).bind fun b => ?_
    cases b
    · exact .pure
    · exact ih

/-- A combination of choices is counted, checked against the form, and given to the actions. -/
theorem accept_keeps (haccepts : ∀ as ts, Keeps c (r.accepts as ts) (r'.accepts as ts))
    (htick : Keeps c r.tick r'.tick) (form : Form) (extras : List Edge)
    (chosen : List (Edge × Option ExprId)) :
    Keeps c (r.accept form extras chosen) (r'.accept form extras chosen) := by
  unfold Referee.accept
  refine htick.bind fun _ => ?_
  split
  · exact .throw
  · exact .pure
  · refine (acceptsAll_keeps haccepts _ _).bind fun b => ?_
    cases b <;> exact .pure

/-- Matching keeps the context if asking the referee does. -/
theorem findAssignment_keeps (hverdict : ∀ t e, Keeps c (r.verdict t e) (r'.verdict t e))
    (haccepts : ∀ as ts, Keeps c (r.accepts as ts) (r'.accepts as ts))
    (htick : Keeps c r.tick r'.tick) (form : Form) (extra : List Iri) (edges : List Edge) :
    Keeps c (findAssignment r form extra edges) (findAssignment r' form extra edges) := by
  unfold findAssignment
  refine (Keeps.foldlM (place_keeps hverdict _ extra) edges _).bind fun s => ?_
  split
  · exact .pure
  · refine (searchChoices_keeps (accept_keeps haccepts htick form s.extras) _ _ _).bind fun p => ?_
    obtain ⟨n, _ | a⟩ := p <;> exact .pure

end

/-! ## What a verdict makes of the context -/

end Walk

namespace Context

variable {α : Type}

/-- The answer of a verdict, and the context with the reasons of a failure added. -/
def answer (c : Context) : Verdict → Bool × Context
  | .conforms => (true, c)
  | .fails reasons => (false, c.after reasons)

/-- The result of an evaluation, and the context with the reasons of a failure added. -/
def outcome (c : Context) : Judged α → Option α × Context
  | .ok a => (some a, c)
  | .error reasons => (none, c.after reasons)

/-- The answer of a verdict with the reasons of a failure, and the context as it was. -/
def collected (c : Context) : Verdict → (Bool × List Diagnostic) × Context
  | .conforms => ((true, []), c)
  | .fails reasons => ((false, reasons), c)

/-- Reasons are added in order. -/
theorem after_after (c : Context) (ds ds' : List Diagnostic) :
    (c.after ds).after ds' = c.after (ds ++ ds') := by
  simp [after, List.append_assoc]

/-- No reasons, no change. -/
theorem after_nil (c : Context) : c.after [] = c := by simp [after]

end Context

namespace Walk

variable {σ α β γ : Type} {c : Context} {st : Setting σ}

/-- The rest of a computation starts from what the first part makes of the context. -/
theorem run_bind_of {x : Walk σ α} {y : Run σ β} {g : β → α × Context} (hx : x.run c = g <$> y)
    (f : α → Walk σ γ) : (x >>= f).run c = y >>= fun b => (f (g b).1).run (g b).2 := by
  rw [StateT.run_bind, hx, bind_map_left]

/-- Promoted diagnostics are added to the context. -/
theorem run_promote (ds : List Diagnostic) :
    (promote ds : Walk σ Unit).run c = pure ((), c.after ds) := rfl

/-- A report adds one diagnostic, about the label that is being checked. -/
theorem run_report (node : Term) (kind : DiagnosticKind) (message : String) :
    (report node kind message : Walk σ Unit).run c =
      pure ((), c.after [c.diagnostic node kind message]) := rfl

/-- What is left behind is collected, and the context stays as it was. -/
theorem run_collecting {x : Walk σ Bool} {y : Run σ Verdict}
    (hx : x.run c.cleared = c.cleared.answer <$> y) :
    (collecting x).run c = c.collected <$> y := by
  simp only [collecting, StateT.run_bind, StateT.run_get, StateT.run_modify, StateT.run_pure,
    bind_assoc, pure_bind, hx, map_eq_pure_bind]
  refine congrArg _ (funext fun v => ?_)
  cases v <;> rfl

/-- Hiding edges for one evaluation: afterwards the scope is what it was, and the reasons are
collected. -/
theorem run_withHidden {x : Walk σ (Bool × List Diagnostic)} {y : Run σ Verdict} {node : Term}
    {edges : List Edge}
    (hx : x.run (c.within (c.hide node edges)) =
      (c.within (c.hide node edges)).collected <$> y) :
    (withHidden node edges x).run c = c.collected <$> y := by
  simp only [withHidden, StateT.run_bind, StateT.run_modify, StateT.run_pure, bind_assoc, pure_bind,
    hx, map_eq_pure_bind]
  refine congrArg _ (funext fun v => ?_)
  cases v <;> rfl

/-- After the check of a pair, the pair and the label are those that they were before. An active
pair is not entered, and holds on the spot. -/
theorem run_entering {x : Walk σ Bool} {y : Run σ Verdict} {node : Term} {l : Label}
    (hx : x.run (c.within (c.enter node l)) = (c.within (c.enter node l)).answer <$> y) :
    (entering node l x).run c =
      c.answer <$> if c.isActive node l then pure .conforms else y := by
  rw [entering, StateT.run_bind, StateT.run_get, pure_bind]
  dsimp only
  split
  · rw [StateT.run_pure, map_pure]
    rfl
  · simp only [StateT.run_bind, StateT.run_set, StateT.run_modify, StateT.run_pure, bind_assoc,
      pure_bind, hx, map_eq_pure_bind]
    refine congrArg _ (funext fun v => ?_)
    -- the pair stands in front when it is erased, since `x` has restored what it changed
    cases v <;> simp [Context.answer, Context.after, Context.within, Scope.enter]

end Walk

end Shex
