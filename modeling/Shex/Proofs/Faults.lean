import Shex.Proofs.MatchingFaults

/-!
# What a run can end with

In an accepted schema evaluation at a position brings no fault of its own but ordinary ones, and a
matched constraint without an owner. So what evaluation can end with is known from what it can end
with at the positions that it asks for (`Setting.evaluate_faults`). Semantic actions may be used.

A run keeps right what is remembered, so all that was ever remembered by a validator of an accepted
schema is right (`Setting.knowsMemo_of_remembers`).
-/

namespace Shex

open Run

namespace Setting

variable {σ : Type} {st : Setting σ} {F : ValidationFault → Prop}

/-! ### Evaluation -/

/-- Faults that evaluation can end with by itself: the ordinary ones, and a matched constraint
without an owner. -/
structure Admits (st : Setting σ) (F : ValidationFault → Prop) : Prop where
  ordinary : ∀ f : ValidationFault, f.IsOrdinary → F f
  unowned : ∀ l plan id, st.validator.hierarchy.hasParents l = true → st.IsPlan l plan →
    id ∈ plan.form.expr.constraintIds → plan.ownerOfId id = none → F (.internal (.unowned id l))

/-- Faults are confined to `F` at the positions with `P`: the evaluator ends with no others at
expressions, and labels are declared and ask for such positions only. -/
structure Confines (st : Setting σ) (F : ValidationFault → Prop) (P : Position → Prop)
    (E : Evaluator σ) : Prop where
  expr : ∀ scope node e, P (.expr scope node e) →
    Meets (fun s => st.KnowsMemo s.memo) (E scope node e) (fun _ => True) F
  declared : ∀ scope node l, P (.label scope node l) →
    ∃ d, st.validator.schema.shape? l = some d
  label : ∀ scope node l step q, P (.label scope node l) →
    st.Asks (.label scope node l) step q → P q
  entered : ∀ scope node l step q, P (.entered scope node l) →
    st.Asks (.entered scope node l) step q → P q

section
variable {Q : Memo → Prop} (hF : ∀ f : ValidationFault, f.IsOrdinary → F f)
include hF

/-- Semantic actions end with the fault of a handler, which is an ordinary one, or with none. -/
theorem runActions_faults {acts : List SemanticAction} {ts : List Triple} :
    Meets (fun s => Q s.memo) (st.runActions acts ts) (fun _ => True) F := by
  unfold runActions
  refine Meets.get.bind fun s hs => ?_
  refine (Meets.set (by exact hs)).bind fun _ _ => ?_
  cases hrun : (st.handlers.run ts acts s.world).1 with
  | ok b => exact Meets.pure trivial
  | error fault => exact Meets.throw (hF _ (Handlers.run_eq_error hrun))

/-- So do the actions of one node. -/
theorem judgeActions_faults {scope : Scope} {node : Term} {acts : List SemanticAction}
    {ts : List Triple} :
    Meets (fun s => Q s.memo) (st.judgeActions scope node acts ts) (fun _ => True) F := by
  unfold judgeActions
  split
  · exact Meets.pure trivial
  · refine (runActions_faults hF).bind fun b _ => ?_
    split
    · exact Meets.pure trivial
    · exact Meets.pure trivial

/-- Matching around a node asks for the value expressions of a form at the other ends of the edges
that are seen, and finds regular assignments. -/
theorem matchAround_faults {E : Evaluator σ} {scope : Scope} {node : Term} {f : Form}
    {closed : Bool} {extra : List Iri} (hbag : ∀ b, ∃ m, f.expr.matchesBag b = .ok m)
    (h : ∀ c ∈ f.constraints, ∀ e : Edge, scope.Sees st.graph node e → c.arc = e.arc → ∀ v,
      c.value = some v →
        Meets (fun s => Q s.memo) (E scope.showAll e.opposite v) (fun _ => True) F) :
    Meets (fun s => Q s.memo) (st.matchAround E scope node f closed extra)
      (fun j => ∀ a, j = .ok a → a.IsRegular extra f
        (scope.neighbourhood st.graph node (f.predicates true)).edges) F := by
  unfold matchAround
  simp only
  generalize (if closed then closedFailures scope node _ f extra else []) = failures
  split
  · unfold matchForm
    have htick : Meets (fun s => Q s.memo) st.tick (fun _ => True) F :=
      tick_meets_of (fun _ _ hs => hs) fun n => hF _ ⟨id, nofun⟩
    refine (findAssignment_faults (fun _ _ => runActions_faults hF) htick hbag
      fun e he c hc harc v hv => ?_).bind fun m hm => ?_
    · exact h c hc e (Scope.mem_neighbourhood_iff_sees.1 he).1 harc v hv
    · cases m with
      | matched a =>
        refine Meets.pure fun a' ha' => ?_
        cases ha'
        exact hm a rfl
      | failed failures => exact Meets.pure nofun
  · exact Meets.pure nofun

end

section
variable {I : RunState σ → Prop} {α : Type} {check : α → Run σ Verdict}

/-- A conjunction ends with what its operands end with. -/
theorem allConform_faults : ∀ {as : List α}, (∀ a ∈ as, Meets I (check a) (fun _ => True) F) →
    Meets I (allConform check as) (fun _ => True) F
  | [], _ => Meets.pure trivial
  | a :: as, h => by
    rw [allConform]
    refine (h a (by simp)).bind fun v _ => ?_
    cases v with
    | conforms => exact allConform_faults fun a ha => h a (List.mem_cons_of_mem _ ha)
    | fails => exact Meets.pure trivial

/-- A disjunction ends with what its operands end with. -/
theorem anyConforms_faults : ∀ {as : List α} {reasons : List Diagnostic},
    (∀ a ∈ as, Meets I (check a) (fun _ => True) F) →
      Meets I (anyConforms check reasons as) (fun _ => True) F
  | [], _, _ => Meets.pure trivial
  | a :: as, reasons, h => by
    rw [anyConforms]
    refine (h a (by simp)).bind fun v _ => ?_
    cases v with
    | conforms => exact Meets.pure trivial
    | fails => exact anyConforms_faults fun a ha => h a (List.mem_cons_of_mem _ ha)

end

/-- A matched edge whose constraint has no owner is the only reason not to find the owners, and the
fault names the constraint that was matched first among those. -/
theorem ownersOf_eq_error {plan : Plan} {l : Label} {fault : ValidationFault} :
    ∀ {matched : List (Edge × ExprId)}, ownersOf plan l matched = .error fault →
      ∃ x ∈ matched, plan.ownerOfId x.2 = none ∧ fault = .internal (.unowned x.2 l)
  | [], h => by cases h
  | (e, id) :: rest, h => by
    rw [ownersOf] at h
    split at h
    · rename_i hnone
      cases h
      exact ⟨(e, id), by simp, hnone, rfl⟩
    · cases hrest : ownersOf plan l rest with
      | ok owners =>
        rw [hrest] at h
        cases h
      | error fault' =>
        rw [hrest] at h
        cases h
        obtain ⟨x, hx, hnone⟩ := ownersOf_eq_error hrest
        exact ⟨x, List.mem_cons_of_mem _ hx, hnone⟩

/-- A selector that names nothing is no flaw of the schema: a label that is not declared, or a start
expression that is not there, is a matter of the shape map. -/
theorem resolve_eq_error {s : Schema} {selector : Selector} {fault : ValidationFault}
    (h : resolve s selector = .error fault) : fault.IsOrdinary := by
  unfold resolve at h
  split at h
  · split at h
    · cases h
    · cases h
      exact ⟨id, nofun⟩
  · split at h
    · cases h
    · cases h
      exact ⟨id, nofun⟩

section
variable {P : Position → Prop} {E : Evaluator σ} {scope : Scope} {node : Term}

/-- The parts of an extension end with what their constraints end with, and with faults of
handlers. -/
theorem satisfiesParts_faults (hF : ∀ f : ValidationFault, f.IsOrdinary → F f) {Q : Memo → Prop}
    {owners : List (Edge × Nat)} :
    ∀ {parts : List (Part × Nat)},
      (∀ p ∈ parts, ∀ others, ∀ c ∈ p.1.constraints,
        Meets (fun s => Q s.memo) (E (scope.hide node others) node c) (fun _ => True) F) →
      Meets (fun s => Q s.memo) (st.satisfiesParts E scope node owners parts) (fun _ => True) F
  | [], _ => Meets.pure trivial
  | (p, i) :: parts, h => by
    rw [satisfiesParts]
    refine (judgeActions_faults hF).bind fun v _ => ?_
    cases v with
    | fails => exact Meets.pure trivial
    | conforms =>
      refine (allConform_faults (h (p, i) (by simp) _)).bind fun v _ => ?_
      cases v with
      | fails => exact Meets.pure trivial
      | conforms => exact satisfiesParts_faults hF fun p hp => h p (List.mem_cons_of_mem _ hp)

variable (hv : st.validator.IsBuilt)
  (hco : st.validator.schema.IsCoherent) (hF : st.Admits F) (hE : st.Confines F P E)
include hv hco hF hE

/-- A shape brings the fault of an exhausted budget and faults of matching. Its form can be counted,
since it is normalized, so no fault about a malformed expression comes up. -/
theorem satisfiesShape_faults {mk : Mark} {s : Shape}
    (hs : st.validator.schema.Has (.shape mk s.header s.expression))
    (hask : ∀ step q, st.Asks (.expr scope node (.shape mk s.header s.expression)) step q → P q) :
    Meets (fun s => st.KnowsMemo s.memo) (st.satisfiesShape E scope node s) (fun _ => True) F := by
  have hacc := hv.accepted
  have hform := (formFor_meets_memo hacc hco hs).mono (G := F) (fun _ => id) fun fault h =>
    hF.ordinary _ (ValidationFault.isOrdinary_expansion h)
  rw [satisfiesShape_eq]
  refine hform.bind fun f hf => ?_
  refine (matchAround_faults hF.ordinary (hf.matchesBag_total hacc hs)
    fun c hc e hsees harc v hcv => ?_).bind fun j _ => Meets.pure trivial
  obtain ⟨step, hasks⟩ := hf.asks_value hacc hs hc hcv harc hsees
  exact hE.expr _ _ _ (hask _ _ hasks)

/-- An extension brings faults of its plan and of matching, and that of a matched constraint without
an owner. -/
theorem satisfiesExtending_faults {l : Label}
    (hparents : st.validator.hierarchy.hasParents l = true) (hp : P (.entered scope node l))
    (declared : ShapeExpr) :
    Meets (fun s => st.KnowsMemo s.memo) (st.satisfiesExtending E E scope node l declared)
      (fun _ => True) F := by
  have hacc := hv.accepted
  have hhier := hv.hierarchy
  have hplanned : Meets (fun s => st.KnowsMemo s.memo) (st.planOf l) (st.IsPlan l) F := by
    refine planOf_meets_of hv hco (fun n => hF.ordinary _ ⟨id, nofun⟩) fun fault hfault => ?_
    obtain ⟨parts, hparts⟩ := Plan.exists_partsOf hacc (hhier ▸ hparents)
    rw [hhier, hparts] at hfault
    cases hfault
  unfold satisfiesExtending
  refine hplanned.bind fun plan hplan => ?_
  have hbag := TripleExpr.matchesBag_total
    (hplan.form.regular hacc fun e he => hplan.has_expression hhier he).1
  refine (matchAround_faults hF.ordinary hbag fun c hc e hsees harc v hcv => ?_).bind fun j hj => ?_
  · obtain ⟨step, hasks⟩ := hplan.asks_value hv hparents hc hcv harc hsees
    exact hE.expr _ _ _ (hE.entered _ _ _ _ _ hp hasks)
  cases j with
  | error => exact Meets.pure trivial
  | ok a =>
    dsimp only
    split
    · rename_i fault hfault
      obtain ⟨x, hx, hnone, rfl⟩ := ownersOf_eq_error hfault
      exact Meets.throw (hF.unowned l plan x.2 hparents hplan ((hj a rfl).matched x hx) hnone)
    · refine (satisfiesParts_faults hF.ordinary fun p hpart others c hc => ?_).bind fun v _ => ?_
      · exact hE.expr _ _ _ (hE.entered _ _ _ _ _ hp
          (hplan.asks_conjunct hv hparents (List.fst_mem_of_mem_zipIdx hpart) hc others))
      · cases v with
        | fails => exact Meets.pure trivial
        | conforms =>
          dsimp only
          split
          · exact Meets.pure trivial
          · exact judgeActions_faults hF.ordinary

/-- A declaration ends with what its expression or its extension ends with. -/
theorem satisfiesConcrete_faults {l : Label} {d : ShapeDecl}
    (hd : st.validator.schema.shape? l = some d) (habstract : d.isAbstract = false)
    (hp : P (.label scope node l)) :
    Meets (fun s => st.KnowsMemo s.memo) (st.satisfiesConcrete E E scope node l d) (fun _ => True)
      F := by
  unfold satisfiesConcrete
  split
  · exact Meets.pure trivial
  rename_i hactive
  have hentered := hE.label _ _ _ _ _ hp (.enter hd habstract (by simpa using hactive))
  dsimp only
  split
  · rename_i hparents
    exact satisfiesExtending_faults hv hco hF hE hparents hentered d.expr
  · rename_i hparents
    exact hE.expr _ _ _ (hE.entered _ _ _ _ _ hentered (.declared hd (by simpa using hparents)))

/-- A reference is to a declared label, so it brings no fault of its own. -/
theorem satisfiesLabel_faults {l : Label} (hp : P (.label scope node l)) :
    Meets (fun s => st.KnowsMemo s.memo) (st.satisfiesLabel E E scope node l) (fun _ => True)
      F := by
  obtain ⟨d, hd⟩ := hE.declared _ _ _ hp
  unfold satisfiesLabel
  rw [hd]
  dsimp only
  split
  · rename_i habstract
    exact satisfiesConcrete_faults hv hco hF hE hd (by simpa using habstract) hp
  rename_i habstract
  split
  · exact Meets.pure trivial
  rename_i hactive
  refine (anyConforms_faults fun x hchild => ?_).bind fun v _ => by
    cases v <;> exact Meets.pure trivial
  obtain ⟨child, d'⟩ := x
  obtain ⟨hd', hconcrete⟩ := of_mem_concreteSubtypes hchild
  exact satisfiesConcrete_faults hv hco hF hE hd' hconcrete
    (hE.label _ _ _ _ _ hp (.subtype hd (by simpa using habstract) (by simpa using hactive) hchild))

/-- If evaluation can end with certain faults by itself and at the positions that an expression asks
for, it ends with none other at the expression. -/
theorem evaluate_faults {e : ShapeExpr} (he : st.validator.schema.Has e)
    (hask : ∀ step q, st.Asks (.expr scope node e) step q → P q) :
    Meets (fun s => st.KnowsMemo s.memo) (st.evaluate E E scope node e) (fun _ => True) F := by
  cases e with
  | and m es =>
    rw [evaluate]
    refine (allConform_faults fun x hx => hE.expr _ _ _ (hask _ _ (.and hx))).bind fun v _ => ?_
    cases v <;> exact Meets.pure trivial
  | or m es =>
    rw [evaluate]
    refine (anyConforms_faults fun x hx => hE.expr _ _ _ (hask _ _ (.or hx))).bind fun v _ => ?_
    cases v <;> exact Meets.pure trivial
  | not m x =>
    rw [evaluate]
    refine (hE.expr _ _ _ (hask _ _ .not)).bind fun v _ => ?_
    cases v <;> exact Meets.pure trivial
  | ref m l =>
    rw [evaluate]
    refine (satisfiesLabel_faults hv hco hF hE (hask _ _ .ref)).bind fun v _ => ?_
    cases v <;> exact Meets.pure trivial
  | shape m h t => exact satisfiesShape_faults hv hco hF hE he hask
  | nodeConstraint m c =>
    rw [evaluate]
    split
    · rename_i fault hfault
      have hacc := hv.accepted
      exact Meets.throw (hF.ordinary _ (NodeConstraint.failures_eq_error hacc he hfault))
    · exact Meets.pure trivial
    · exact Meets.pure trivial
  | external m => exact Meets.pure trivial

end

section
variable {P : Position → Prop} {scope : Scope} {node : Term}
  (hv : st.validator.IsBuilt)
  (hco : st.validator.schema.IsCoherent) (hF : st.Admits F)
include hv hco hF

/-- The same with the semantic actions of the expression. -/
theorem satisfies_succ_faults {depth : Nat} (hE : st.Confines F P (st.satisfies depth))
    {e : ShapeExpr} (he : st.validator.schema.Has e)
    (hask : ∀ step q, st.Asks (.expr scope node e) step q → P q) :
    Meets (fun s => st.KnowsMemo s.memo) (st.satisfies (depth + 1) scope node e) (fun _ => True)
      F := by
  rw [satisfies]
  refine (evaluate_faults hv hco hF hE he hask).bind fun j _ => ?_
  cases j with
  | error => exact Meets.pure trivial
  | ok ts => exact judgeActions_faults hF.ordinary

/-! ### Runs -/

variable (hE : st.Confines F P (st.satisfies st.limits.depth))
include hE

/-- The check of a pair asks for the position where it begins. -/
theorem checkSelected_faults {selector : Selector}
    (hbegin : ∀ p, st.Begins node selector p → P p) :
    Meets (fun s => st.KnowsMemo s.memo) (st.checkSelected node selector) (fun _ => True) F := by
  cases selector with
  | label l => exact satisfiesLabel_faults hv hco hF hE (hbegin _ (.label l))
  | start =>
    rw [checkSelected]
    cases hstart : st.validator.schema.start with
    | none => exact Meets.throw (hF.ordinary _ ⟨id, fun _ h => by cases h⟩)
    | some e => exact hE.expr _ _ _ (hbegin _ (.start hstart))

/-- All pairs, one after the other. -/
theorem checkAll_faults (started : Bool) :
    ∀ {pairs : List (Term × Selector)},
      (∀ x ∈ pairs, ∀ p, st.Begins x.1 x.2 p → P p) →
      Meets (fun s => st.KnowsMemo s.memo) (st.checkAll started pairs) (fun _ => True) F
  | [], _ => Meets.pure trivial
  | (node, selector) :: rest, hbegin => by
    have hcheck : Meets (fun s => st.KnowsMemo s.memo) (st.check started node selector)
        (fun _ => True) F := by
      unfold check
      split
      · exact checkSelected_faults hv hco hF hE (hbegin (node, selector) (by simp))
      · exact Meets.pure trivial
    rw [checkAll]
    refine hcheck.bind fun v _ => ?_
    exact (checkAll_faults started fun x hx => hbegin x (List.mem_cons_of_mem _ hx)).bind
      fun _ _ => Meets.pure trivial

/-- A run ends with no faults but those that it can end with at the positions where the checks of
pairs with selectors that name something begin. -/
theorem run_faults {pairs : List (Term × Selector)}
    (hbegin : ∀ x ∈ pairs, resolve st.validator.schema x.2 = .ok () →
      ∀ p, st.Begins x.1 x.2 p → P p) :
    Meets (fun s => st.KnowsMemo s.memo) (st.run pairs) (fun _ => True) F := by
  unfold run
  split
  · rename_i fault hfault
    obtain ⟨x, hx⟩ := forM_eq_error_iff.1 hfault
    exact Meets.throw (hF.ordinary _ (resolve_eq_error hx.eq_error))
  · rename_i hresolve
    have hnamed := Schema.forM_eq_ok_iff.1 hresolve
    refine (runActions_faults hF.ordinary).bind fun started _ => ?_
    exact (checkAll_faults hv hco hF hE started fun x hx =>
      hbegin x hx (hnamed x hx)).bind fun _ _ => Meets.pure trivial

end

/-! ### Positions in the schema -/

/-- What is evaluated is in the schema. -/
def IsPosed (st : Setting σ) : Position → Prop
  | .expr _ _ e => st.validator.schema.Has e
  | .label _ _ l | .entered _ _ l => ∃ d, st.validator.schema.shape? l = some d

/-- Where a check begins is in the schema, if the selector names something. -/
theorem Begins.isPosed {node : Term} {selector : Selector} {p : Position}
    (h : st.Begins node selector p)
    (hresolve : resolve st.validator.schema selector = .ok ()) : st.IsPosed p := by
  cases h with
  | label l =>
    rw [resolve] at hresolve
    split at hresolve
    · rename_i hl
      exact Option.isSome_iff_exists.1 hl
    · cases hresolve
  | start he => exact Schema.has_of_start he

section
variable (hv : st.validator.IsBuilt)
include hv

/-- What is asked for in the schema is in the schema, and labels that are asked for are declared. So
an evaluation that begins in the schema never meets a label without a declaration. -/
theorem isClosed_isPosed : st.IsClosed st.IsPosed := by
  intro p step q hp hask
  have hhas : ∀ scope node e, q = .expr scope node e → st.validator.schema.Has e := by
    rintro scope node e rfl
    exact hask.has fun _ _ _ heq => by
      subst heq
      exact hp
  cases hask with
  | ref => exact Schema.exists_shape_of_has_ref hv.accepted hp
  | enter hd => exact ⟨_, hd⟩
  | subtype _ _ _ hchild => exact ⟨_, (of_mem_concreteSubtypes hchild).1⟩
  | _ => exact hhas _ _ _ rfl

variable (hco : st.validator.schema.IsCoherent) (hF : st.Admits F)
  (hdepth : ∀ n, F (.limit (.depth n)))
include hco hF hdepth

/-- Evaluation ends with faults of its own or because it was nested too deep, by induction on the
depth. -/
theorem satisfies_confines (depth : Nat) : st.Confines F st.IsPosed (st.satisfies depth) := by
  have hclosed := isClosed_isPosed hv
  induction depth with
  | zero =>
    refine ⟨fun scope node e _ => ?_, fun _ _ _ => id, fun _ _ _ _ _ => hclosed _ _ _,
      fun _ _ _ _ _ => hclosed _ _ _⟩
    rw [satisfies]
    exact Meets.throw (hdepth _)
  | succ depth ih =>
    refine ⟨fun scope node e he => ?_, fun _ _ _ => id, fun _ _ _ _ _ => hclosed _ _ _,
      fun _ _ _ _ _ => hclosed _ _ _⟩
    exact satisfies_succ_faults hv hco hF ih he fun _ _ => hclosed _ _ _ he

/-- A run ends with faults of its own or because evaluation was nested too deep. -/
theorem run_meets_of_admits (pairs : List (Term × Selector)) :
    Meets (fun s => st.KnowsMemo s.memo) (st.run pairs) (fun _ => True) F :=
  run_faults hv hco hF (satisfies_confines hv hco hF hdepth _) fun _ _ hresolve _ hp =>
    hp.isPosed hresolve

end

end Setting

/-! ### What is remembered -/

/-- What a validator can remember: nothing at first, and then what its runs leave. -/
inductive Validator.Remembers (v : Validator) : Memo → Prop
  | nothing : v.Remembers .empty
  | run {σ : Type} {memo : Memo} (h : v.Remembers memo) (limits : Limits) (handlers : Handlers σ)
      (graph : GraphView) (pairs : List (Term × Selector)) (world : σ) :
      v.Remembers (v.validate limits handlers graph pairs memo world).2.1

/-- All that the validator of an accepted schema remembers is right, by induction on its runs, and
whatever limits, handlers and graphs they had: a run keeps right what is remembered, and a fault
leaves nothing. -/
theorem Setting.knowsMemo_of_remembers {σ : Type} {st : Setting σ}
    (hv : st.validator.IsBuilt)
    (hco : st.validator.schema.IsCoherent) {memo : Memo} (h : st.validator.Remembers memo) :
    st.KnowsMemo memo := by
  induction h with
  | nothing => exact knowsMemo_empty
  | @run τ memo _ limits handlers graph pairs world ih =>
    let st' : Setting τ := ⟨st.validator, limits, handlers, graph⟩
    have hadmits : st'.Admits fun _ => True := ⟨fun _ _ => trivial, fun _ _ _ _ _ _ _ => trivial⟩
    have hbefore : st'.KnowsMemo memo :=
      ⟨ih.forms, fun l p hp => ⟨(ih.plans l p hp).parts, (ih.plans l p hp).form⟩⟩
    have hv' : st'.validator.IsBuilt := hv
    have hafter := (run_meets_of_admits hv' hco hadmits (fun _ => trivial) pairs
      ⟨memo, 0, world⟩ hbefore).1
    exact ⟨hafter.forms, fun l p hp => ⟨(hafter.plans l p hp).parts, (hafter.plans l p hp).form⟩⟩

/-- What the run can end with is what the validation can end with, from any memo that the validator
can remember. -/
theorem Setting.fault_of_validate {σ : Type} {st : Setting σ}
    (hv : st.validator.IsBuilt)
    (hco : st.validator.schema.IsCoherent) {memo : Memo} (hmemo : st.validator.Remembers memo)
    {pairs : List (Term × Selector)} {F : ValidationFault → Prop}
    (h : Meets (fun s => st.KnowsMemo s.memo) (st.run pairs) (fun _ => True) F) {world : σ}
    {fault : ValidationFault}
    (hfault : (st.validator.validate st.limits st.handlers st.graph pairs memo world).1 =
      .error fault) : F fault := by
  have hrun := h ⟨memo, 0, world⟩ (knowsMemo_of_remembers hv hco hmemo)
  change ((st.run pairs).run.run ⟨memo, 0, world⟩).1 = .error fault at hfault
  rw [hfault] at hrun
  exact hrun.2

end Shex
