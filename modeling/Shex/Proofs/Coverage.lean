import Shex.Proofs.Courses
import Shex.Proofs.Plans

/-!
# Courses cover what is evaluated

A run evaluates only positions that courses lead to: if evaluation follows the rules there, it does
not matter what it would do elsewhere (`Setting.satisfiesOn_same`).
-/

namespace Shex

open Run

section
variable {σ : Type} {I : RunState σ → Prop} {r r' : Referee (Run σ)} {f : Form}

/-! ### Matching -/

/-- A question is answered from the record on both sides, or asked of both referees. -/
theorem Referee.judge_same {vs : Verdicts} {t : Term} {e : ShapeExpr}
    (h : Same I (r.verdict t e) (r'.verdict t e)) : Same I (r.judge vs t e) (r'.judge vs t e) := by
  unfold judge
  split
  · exact Same.pure
  · exact h.bind fun _ => Same.pure

/-- One candidate constraint is asked for one edge: only about its value expression. -/
theorem Candidacy.ask_same {t : Term} {k : Candidacy} {c : TripleConstraint}
    (h : ∀ v, c.value = some v → Same I (r.verdict t v) (r'.verdict t v)) :
    Same I (k.ask r t c) (k.ask r' t c) := by
  unfold ask
  split
  · exact Same.pure
  · rename_i v hv
    refine (Referee.judge_same (h v hv)).bind fun a => ?_
    obtain ⟨_ | _, _⟩ := a <;> exact Same.pure

/-- An edge is asked about only for constraints with its arc. Sorting filters the constraints by the
arc first, and the loop over the others is the same on both sides. -/
theorem Sorting.place_same {constraints : List TripleConstraint} {extra : List Iri} {s : Sorting}
    {e : Edge}
    (h : ∀ c ∈ constraints, c.arc = e.arc → ∀ v, c.value = some v →
      Same I (r.verdict e.opposite v) (r'.verdict e.opposite v)) :
    Same I (s.place r constraints extra e) (s.place r' constraints extra e) := by
  unfold place
  split
  · exact Same.pure
  · rename_i cs hcs
    refine (Same.foldlM fun c hc k => Candidacy.ask_same (h c ?_ ?_)).bind fun k => ?_
    · exact List.mem_of_mem_filter hc
    · simpa using (List.mem_filter.1 hc).2
    · dsimp only
      split
      · split <;> exact Same.pure
      · exact Same.pure

/-- Actions are run in the same way if they are answered in the same way. -/
theorem Referee.acceptsAll_congr (h : r.accepts = r'.accepts) (matched : List (Edge × ExprId)) :
    ∀ as : List Annotated, r.acceptsAll matched as = r'.acceptsAll matched as
  | [] => rfl
  | a :: as => by rw [acceptsAll, acceptsAll, h, acceptsAll_congr h matched as]

/-- Combinations are counted and accepted in the same way. -/
theorem Referee.accept_congr (ha : r.accepts = r'.accepts) (ht : r.tick = r'.tick)
    {extras : List Edge} : r.accept f extras = r'.accept f extras := by
  funext chosen
  unfold accept
  rw [ht]
  simp only [acceptsAll_congr ha]

/-- Whatever the referee says, trying combinations keeps the invariant: it counts, looks at the bag,
and runs actions. -/
theorem Referee.accept_meets_trivial
    (ha : ∀ as ts, Meets I (r.accepts as ts) (fun _ => True) fun _ => True)
    (ht : Meets I r.tick (fun _ => True) fun _ => True) {extras : List Edge}
    {chosen : List (Edge × Option ExprId)} :
    Meets I (r.accept f extras chosen) (fun _ => True) fun _ => True := by
  have hall : ∀ (matched : List (Edge × ExprId)) (as : List Annotated),
      Meets I (r.acceptsAll matched as) (fun _ => True) fun _ => True := by
    intro matched as
    induction as with
    | nil => exact Meets.pure trivial
    | cons a as ih =>
      rw [acceptsAll]
      refine (ha _ _).bind fun b _ => ?_
      split
      · exact ih
      · exact Meets.pure trivial
  unfold accept
  refine ht.bind fun _ _ => ?_
  split
  · exact Meets.throw trivial
  · exact Meets.pure trivial
  · refine (hall _ _).bind fun b _ => ?_
    split <;> exact Meets.pure trivial

/-- Matching asks about constraints of the form and nodes at the other ends of edges with their
arcs. -/
theorem findAssignment_same {extra : List Iri} {edges : List Edge}
    (ha : r.accepts = r'.accepts) (ht : r.tick = r'.tick)
    (hacc : ∀ as ts, Meets I (r.accepts as ts) (fun _ => True) fun _ => True)
    (htick : Meets I r.tick (fun _ => True) fun _ => True)
    (h : ∀ e ∈ edges, ∀ c ∈ f.constraints, c.arc = e.arc → ∀ v, c.value = some v →
      Same I (r.verdict e.opposite v) (r'.verdict e.opposite v)) :
    Same I (findAssignment r f extra edges) (findAssignment r' f extra edges) := by
  unfold findAssignment
  refine (Same.foldlM fun e he s => Sorting.place_same fun c hc => h e he c hc).bind fun s => ?_
  split
  · exact Same.pure
  · rw [Referee.accept_congr ha ht]
    have := @searchChoices_meets _ _ _ _ I (fun _ => True) (r'.accept f s.extras) (fun _ _ => True)
      (fun _ => True) s.choices [] 0 fun chosen _ => by
        refine (Referee.accept_meets_trivial (r := r') (ha ▸ hacc) (ht ▸ htick)).imp fun o _ => ?_
        cases o <;> trivial
    refine (Same.of_meets this).bind fun a => ?_
    obtain ⟨_, _ | _⟩ := a <;> exact Same.pure

end

namespace Setting

variable {σ : Type} {st : Setting σ}

/-! ### Evaluation -/

section
variable {I : RunState σ → Prop} {α : Type} {check check' : α → Run σ Verdict}

/-- A conjunction of checks that do the same, by induction on the operands. -/
theorem allConform_same : ∀ {as : List α}, (∀ a ∈ as, Same I (check a) (check' a)) →
    Same I (allConform check as) (allConform check' as)
  | [], _ => Same.pure
  | a :: as, h => by
    rw [allConform, allConform]
    refine (h a (by simp)).bind fun d => ?_
    cases d with
    | conforms => exact allConform_same fun a ha => h a (List.mem_cons_of_mem _ ha)
    | fails => exact Same.pure

/-- A disjunction of checks that do the same, by induction on the operands. -/
theorem anyConforms_same : ∀ {as : List α} {reasons : List Diagnostic},
    (∀ a ∈ as, Same I (check a) (check' a)) →
      Same I (anyConforms check reasons as) (anyConforms check' reasons as)
  | [], _, _ => Same.pure
  | a :: as, reasons, h => by
    rw [anyConforms, anyConforms]
    refine (h a (by simp)).bind fun d => ?_
    cases d with
    | conforms => exact Same.pure
    | fails => exact anyConforms_same fun a ha => h a (List.mem_cons_of_mem _ ha)

end

/-- Semantic actions and the count of assignments do not touch what is remembered. -/
theorem runActions_meets_memo {Q : Memo → Prop} {acts : List SemanticAction} {ts : List Triple} :
    Meets (fun s => Q s.memo) (st.runActions acts ts) (fun _ => True) fun _ => True := by
  unfold runActions
  refine Meets.get.bind fun s hs => ?_
  refine (Meets.set (by exact hs)).bind fun _ _ => ?_
  split
  · exact Meets.pure trivial
  · exact Meets.throw trivial

/-- The actions of one node do not touch what is remembered. -/
theorem judgeActions_meets_memo {Q : Memo → Prop} {scope : Scope} {node : Term}
    {acts : List SemanticAction} {ts : List Triple} :
    Meets (fun s => Q s.memo) (st.judgeActions scope node acts ts) (fun _ => True)
      fun _ => True := by
  unfold judgeActions
  split
  · exact Meets.pure trivial
  · refine runActions_meets_memo.bind fun b _ => ?_
    split <;> exact Meets.pure trivial

section
variable {E E' : Evaluator σ} {scope : Scope} {node : Term}

/-- What matching around a node asks for: the value expressions of the constraints, each at the
other ends of the edges with its arc that are seen, with all hidden edges shown again. -/
theorem matchAround_same {Q : Memo → Prop} {f : Form} {closed : Bool} {extra : List Iri}
    (h : ∀ c ∈ f.constraints, ∀ e : Edge, scope.Sees st.graph node e → c.arc = e.arc → ∀ v,
      c.value = some v →
        Same (fun s => Q s.memo) (E scope.showAll e.opposite v) (E' scope.showAll e.opposite v)) :
    Same (fun s => Q s.memo) (st.matchAround E scope node f closed extra)
      (st.matchAround E' scope node f closed extra) := by
  unfold matchAround
  simp only
  generalize (if closed then closedFailures scope node _ f extra else []) = failures
  split
  · unfold matchForm
    refine Same.bind (findAssignment_same rfl rfl (fun _ _ => @runActions_meets_memo _ st Q _ _)
      ?_ ?_) fun m => ?_
    · exact (tick_meets fun _ _ hs => hs).mono (fun _ => id) fun _ _ => trivial
    · exact fun e he c hc harc v hv =>
        h c hc e (Scope.mem_neighbourhood_iff_sees.1 he).1 harc v hv
    · cases m <;> exact Same.pure
  · exact Same.pure

end

/-- Positions that are closed under what evaluation asks for. -/
def IsClosed (st : Setting σ) (P : Position → Prop) : Prop :=
  ∀ p step q, P p → st.Asks p step q → P q

/-- Two evaluators do the same on positions. -/
def AgreeOn (st : Setting σ) (P : Position → Prop) (E E' : Evaluator σ) : Prop :=
  ∀ scope node e, P (.expr scope node e) →
    Same (fun s => st.KnowsMemo s.memo) (E scope node e) (E' scope node e)

section
variable {scope : Scope} {node : Term} {e : Edge} {v : ShapeExpr}

/-- The value expressions of the form of a shape are asked for. -/
theorem IsForm.asks_value (hacc : st.validator.IsAccepted) {mk : Mark} {s : Shape}
    (hs : st.validator.schema.Has (.shape mk s.header s.expression)) {f : Form}
    (hf : st.IsForm s.expression f) {c : TripleConstraint} (hc : c ∈ f.constraints)
    (hv : c.value = some v) (harc : c.arc = e.arc) (hsees : scope.Sees st.graph node e) :
    ∃ step, st.Asks (.expr scope node (.shape mk s.header s.expression)) step
      (.expr scope.showAll e.opposite v) := by
  obtain ⟨t, via, m, ht, hin, -⟩ := hf.inside hacc hs hc
  rw [hv, harc] at hin
  rw [ht]
  exact ⟨_, .value hin hsees⟩

variable {l : Label} {plan : Plan} (hv : st.validator.IsBuilt)
  (hparents : st.validator.hierarchy.hasParents l = true) (hplan : st.IsPlan l plan)
include hv hparents hplan

/-- The value expressions of the joined form of an extending shape are asked for. Each of them is
met in the main shape of an ancestor, since the constraints of the joined form are copies of
constraints of the parts. -/
theorem IsPlan.asks_value {c : TripleConstraint} (hc : c ∈ plan.form.constraints)
    (hcv : c.value = some v) (harc : c.arc = e.arc) (hsees : scope.Sees st.graph node e) :
    ∃ step, st.Asks (.entered scope node l) step (.expr scope.showAll e.opposite v) := by
  have hacc := hv.accepted
  have hhier := hv.hierarchy
  obtain ⟨hlabels, hparts⟩ := Plan.partsOf_eq_ok (hhier ▸ hplan.parts)
  obtain ⟨t, ht, via, m, hin, -⟩ :=
    hplan.form.inside hacc (fun _ => has_of_mem_expressions hparts) hc
  obtain ⟨p, hpart, hpt⟩ := List.mem_filterMap.1 ht
  obtain ⟨d, form, hd, hform, -, hshape, -⟩ := (hparts p hpart).exists_form
  have hancestor : p.label ∈ st.validator.hierarchy.ancestors l := by
    rw [hhier, ← hlabels]
    exact List.mem_map.2 ⟨p, hpart, rfl⟩
  rw [hcv, harc] at hin
  rw [← hshape] at hpt
  exact ⟨_, .partValue hparents hancestor hd hform hpt hin hsees⟩

/-- What stands beside the main shape of a part is asked for. -/
theorem IsPlan.asks_conjunct {p : Part} (hp : p ∈ plan.parts) {c : ShapeExpr}
    (hc : c ∈ p.constraints) (others : List Edge) :
    st.Asks (.entered scope node l) .inside (.expr (scope.hide node others) node c) := by
  have hhier := hv.hierarchy
  obtain ⟨hlabels, hparts⟩ := Plan.partsOf_eq_ok (hhier ▸ hplan.parts)
  obtain ⟨d, form, hd, hform, -, -, hconstraints⟩ := (hparts p hp).exists_form
  have hancestor : p.label ∈ st.validator.hierarchy.ancestors l := by
    rw [hhier, ← hlabels]
    exact List.mem_map.2 ⟨p, hp, rfl⟩
  rw [← hconstraints] at hc
  exact .conjunct hparents hancestor hd hform hc

end

section
variable {P : Position → Prop} {E E' : Evaluator σ} {scope : Scope} {node : Term}

/-- A shape asks for value expressions of its form at the other ends of edges it sees. -/
theorem satisfiesShape_same (hacc : st.validator.IsAccepted)
    (hco : st.validator.schema.IsCoherent) (hP : st.IsClosed P) (hE : st.AgreeOn P E E')
    {mk : Mark} {s : Shape} (hs : st.validator.schema.Has (.shape mk s.header s.expression))
    (hp : P (.expr scope node (.shape mk s.header s.expression))) :
    Same (fun s => st.KnowsMemo s.memo) (st.satisfiesShape E scope node s)
      (st.satisfiesShape E' scope node s) := by
  rw [satisfiesShape_eq, satisfiesShape_eq]
  refine Same.bind_meets (formFor_meets_memo hacc hco hs) fun f hf => ?_
  refine (matchAround_same fun c hc e he harc v hv => hE _ _ _ ?_).bind fun _ => Same.pure
  obtain ⟨step, hasks⟩ := hf.asks_value hacc hs hc hv harc he
  exact hP _ _ _ hp hasks

/-- The other conjuncts of the parts are evaluated with edges hidden. Which ones are hidden depends
on the owners, so the evaluators are to agree for any choice of them. -/
theorem satisfiesParts_same {owners : List (Edge × Nat)} :
    ∀ {parts : List (Part × Nat)},
      (∀ p ∈ parts, ∀ others, ∀ c ∈ p.1.constraints,
        Same (fun s => st.KnowsMemo s.memo) (E (scope.hide node others) node c)
          (E' (scope.hide node others) node c)) →
      Same (fun s => st.KnowsMemo s.memo) (st.satisfiesParts E scope node owners parts)
        (st.satisfiesParts E' scope node owners parts)
  | [], _ => Same.pure
  | (p, i) :: parts, h => by
    rw [satisfiesParts, satisfiesParts]
    refine (Same.of_meets judgeActions_meets_memo).bind fun d => ?_
    cases d with
    | fails => exact Same.pure
    | conforms =>
      refine (allConform_same (h (p, i) (by simp) _)).bind fun d => ?_
      cases d with
      | fails => exact Same.pure
      | conforms => exact satisfiesParts_same fun p hp => h p (List.mem_cons_of_mem _ hp)

/-- An extension asks for value expressions of the joined form, and for the conjuncts beside main
shapes. -/
theorem satisfiesExtending_same (hv : st.validator.IsBuilt)
    (hco : st.validator.schema.IsCoherent) (hP : st.IsClosed P) (hE : st.AgreeOn P E E') {l : Label}
    (hparents : st.validator.hierarchy.hasParents l = true) (hp : P (.entered scope node l))
    (declared : ShapeExpr) :
    Same (fun s => st.KnowsMemo s.memo) (st.satisfiesExtending E E scope node l declared)
      (st.satisfiesExtending E' E' scope node l declared) := by
  unfold satisfiesExtending
  refine Same.bind_meets (planOf_meets hv hco) fun plan hplan => ?_
  refine (matchAround_same fun c hc e he harc v hcv => hE _ _ _ ?_).bind fun j => ?_
  · obtain ⟨step, hasks⟩ := hplan.asks_value hv hparents hc hcv harc he
    exact hP _ _ _ hp hasks
  · cases j with
    | error => exact Same.pure
    | ok a =>
      dsimp only
      split
      · exact Same.throw
      · refine (satisfiesParts_same fun p hpart others c hc => hE _ _ _ ?_).bind fun d => ?_
        · exact hP _ _ _ hp
            (hplan.asks_conjunct hv hparents (List.fst_mem_of_mem_zipIdx hpart) hc others)
        · cases d with
          | fails => exact Same.pure
          | conforms =>
            dsimp only
            split
            · exact Same.pure
            · exact Same.of_meets judgeActions_meets_memo

/-- A declaration asks for its expression, or for what its extension asks for, with its pair
entered. If the pair is active, nothing is asked for. -/
theorem satisfiesConcrete_same (hv : st.validator.IsBuilt)
    (hco : st.validator.schema.IsCoherent) (hP : st.IsClosed P) (hE : st.AgreeOn P E E') {l : Label}
    {d : ShapeDecl} (hd : st.validator.schema.shape? l = some d) (habstract : d.isAbstract = false)
    (hp : P (.label scope node l)) :
    Same (fun s => st.KnowsMemo s.memo) (st.satisfiesConcrete E E scope node l d)
      (st.satisfiesConcrete E' E' scope node l d) := by
  unfold satisfiesConcrete
  split
  · exact Same.pure
  rename_i hactive
  have hentered := hP _ _ _ hp (.enter hd habstract (by simpa using hactive))
  dsimp only
  split
  · rename_i hparents
    exact satisfiesExtending_same hv hco hP hE hparents hentered d.expr
  · rename_i hparents
    exact hE _ _ _ (hP _ _ _ hentered (.declared hd (by simpa using hparents)))

/-- A reference asks for its declaration, or for the subtypes in place of an abstract one, each of
which is entered as a label of its own. -/
theorem satisfiesLabel_same (hv : st.validator.IsBuilt)
    (hco : st.validator.schema.IsCoherent) (hP : st.IsClosed P) (hE : st.AgreeOn P E E') {l : Label}
    (hp : P (.label scope node l)) :
    Same (fun s => st.KnowsMemo s.memo) (st.satisfiesLabel E E scope node l)
      (st.satisfiesLabel E' E' scope node l) := by
  unfold satisfiesLabel
  split
  · exact Same.throw
  rename_i d hd
  split
  · rename_i habstract
    exact satisfiesConcrete_same hv hco hP hE hd (by simpa using habstract) hp
  rename_i habstract
  split
  · exact Same.pure
  rename_i hactive
  refine (anyConforms_same fun child hchild => ?_).bind fun d => by cases d <;> exact Same.pure
  obtain ⟨child, d'⟩ := child
  have hasked :=
    hP _ _ _ hp (.subtype hd (by simpa using habstract) (by simpa using hactive) hchild)
  obtain ⟨hd', hconcrete⟩ := of_mem_concreteSubtypes hchild
  exact satisfiesConcrete_same hv hco hP hE hd' hconcrete hasked

/-- The evaluation of an expression asks for positions that are asked for, by cases on the
expression. The answers of node constraints and of external shapes are given without asking. -/
theorem evaluate_same (hv : st.validator.IsBuilt)
    (hco : st.validator.schema.IsCoherent) (hP : st.IsClosed P) (hE : st.AgreeOn P E E')
    {e : ShapeExpr} (he : st.validator.schema.Has e) (hp : P (.expr scope node e)) :
    Same (fun s => st.KnowsMemo s.memo) (st.evaluate E E scope node e)
      (st.evaluate E' E' scope node e) := by
  cases e with
  | and m es =>
    rw [evaluate, evaluate]
    refine (allConform_same fun e he => hE _ _ _ (hP _ _ _ hp (.and he))).bind fun d => ?_
    cases d <;> exact Same.pure
  | or m es =>
    rw [evaluate, evaluate]
    refine (anyConforms_same fun e he => hE _ _ _ (hP _ _ _ hp (.or he))).bind fun d => ?_
    cases d <;> exact Same.pure
  | not m e =>
    rw [evaluate, evaluate]
    refine (hE _ _ _ (hP _ _ _ hp .not)).bind fun d => ?_
    cases d <;> exact Same.pure
  | ref m l =>
    rw [evaluate, evaluate]
    refine (satisfiesLabel_same hv hco hP hE (hP _ _ _ hp .ref)).bind fun d => ?_
    cases d <;> exact Same.pure
  | shape m h t =>
    rw [evaluate, evaluate]
    exact satisfiesShape_same hv.accepted hco hP hE he hp
  | nodeConstraint m c =>
    rw [evaluate, evaluate]
    split
    · exact Same.throw
    · exact Same.pure
    · exact Same.pure
  | external m => exact Same.pure

end

open Classical in
/-- Evaluation that follows the rules at the positions with `P` and does something else at all
others. -/
noncomputable def satisfiesOn (st : Setting σ) (P : Position → Prop) (other : Evaluator σ) :
    Nat → Evaluator σ
  | 0, scope, node, e =>
    if P (.expr scope node e) then throw (.limit (.depth st.limits.depth)) else other scope node e
  | depth + 1, scope, node, e =>
    if P (.expr scope node e) then do
      match ← st.evaluate (satisfiesOn st P other depth) (satisfiesOn st P other depth) scope node e
      with
      | .error reasons => return .fails reasons
      | .ok triples => st.judgeActions scope node e.actions triples
    else other scope node e

/-- What happens elsewhere does not matter if the positions are closed under what is asked for. By
induction on the depth: at a position with `P` both follow the rules, and what they ask for is a
position with `P` again. -/
theorem satisfiesOn_same (hv : st.validator.IsBuilt)
    (hco : st.validator.schema.IsCoherent) {P : Position → Prop} (hP : st.IsClosed P)
    (hhas : ∀ scope node e, P (.expr scope node e) → st.validator.schema.Has e)
    (other : Evaluator σ) (depth : Nat) :
    st.AgreeOn P (st.satisfies depth) (st.satisfiesOn P other depth) := by
  induction depth with
  | zero =>
    intro scope node e hp
    rw [satisfies, satisfiesOn, if_pos hp]
    exact Same.throw
  | succ depth ih =>
    intro scope node e hp
    rw [satisfies, satisfiesOn, if_pos hp]
    refine (evaluate_same hv hco hP ih (hhas _ _ _ hp) hp).bind fun j => ?_
    cases j with
    | error => exact Same.pure
    | ok ts => exact Same.of_meets judgeActions_meets_memo

end Setting

end Shex
