import Shex.Proofs.FormRenaming
import Shex.Proofs.Plans
import Shex.Validation

/-!
# Runs that mirror other runs

If what a setting computes about the schema, asks of handlers and compares with its limits is
mirrored by what another setting does (`Setting.Mirrors`), then so is all of evaluation
(`Setting.Mirrors.satisfies`) and the whole run (`Setting.Mirrors.run`). The states of the two runs
may differ in any way that the relation `R` allows, and the identities in the forms that they use
may differ as well.
-/

namespace Shex

open Run

/-- A class of expressions that evaluation comes to from them: it has their operands, what the
schema declares and what it starts from. -/
structure Schema.Keeps (s : Schema) (P : ShapeExpr → Prop) : Prop where
  and : ∀ m es, P (.and m es) → ∀ e ∈ es, P e
  or : ∀ m es, P (.or m es) → ∀ e ∈ es, P e
  not : ∀ m e, P (.not m e) → P e
  declared : ∀ l d, s.shape? l = some d → P d.expr
  start : ∀ e, s.start = some e → P e

/-- The expressions of a schema are such a class. -/
theorem Schema.keeps_has (s : Schema) : s.Keeps s.Has where
  and _ _ h _ he := h.of_and he
  or _ _ h _ he := h.of_or he
  not _ _ h := h.of_not
  declared _ _ h := Schema.has_of_shape? h
  start _ h := Schema.has_of_start h

/-- All expressions are such a class. -/
theorem Schema.keeps_true (s : Schema) : s.Keeps fun _ => True := by
  constructor <;> intros <;> trivial

/-! ### Plans that differ in identities -/

section
variable {I : ExprId → ExprId → Prop} {P : ShapeExpr → Prop}

/-- Two plans of a label with the same parts, whose forms differ in identities only. A constraint
without owner has the same identity in both, since the fault that it leads to names it, unless that
fault is among those, with `F`, up to which the plans are compared. -/
structure Plan.Alike (F : ValidationFault → Prop) (l : Label) (I : ExprId → ExprId → Prop)
    (P : ShapeExpr → Prop) (p q : Plan) : Prop where
  parts : p.parts = q.parts
  form : p.form.Alike I P q.form
  conjuncts : ∀ part ∈ p.parts, ∀ c ∈ part.constraints, P c
  unowned : ∀ i j, I i j → p.ownerOfId i = none → F (.internal (.unowned i l)) ∨ i = j

variable {F : ValidationFault → Prop} {l : Label}

/-- A plan differs in nothing from itself. -/
theorem Plan.Alike.refl {p : Plan} (hform : ∀ c ∈ p.form.constraints, ∀ v, c.value = some v → P v)
    (hparts : ∀ part ∈ p.parts, ∀ c ∈ part.constraints, P c) : p.Alike F l Eq P p :=
  ⟨rfl, .refl hform, hparts, fun _ _ h _ => .inr h⟩

namespace Plan.Alike

variable {p q : Plan} (h : p.Alike F l I P q)
include h

/-- Corresponding constraints have the same owner, or neither has one: the owner is looked up by the
mark that the constraint is a copy of, and that mark is the same. -/
theorem ownerOfId {i j : ExprId} (hij : I i j) : p.ownerOfId i = q.ownerOfId j := by
  have hrel := h.form.constraint? hij
  unfold Plan.ownerOfId
  generalize p.form.constraint? i = o at hrel
  generalize q.form.constraint? j = o' at hrel
  cases hrel with
  | none => rfl
  | some hc =>
    rw [Option.bind_some, Option.bind_some, Plan.ownerOf, Plan.ownerOf, h.parts, hc.source]

/-- Corresponding constraints belong to the same part. Where one has no owner a fault is raised that
names it, and only this fault may differ. -/
theorem ownersOf {xs ys : List (Edge × ExprId)} (hxs : List.Forall₂ (SameChoice I) xs ys) :
    (∃ x, F x ∧ Setting.ownersOf p l xs = .error x) ∨
      Setting.ownersOf p l xs = Setting.ownersOf q l ys := by
  induction hxs with
  | nil => exact .inr rfl
  | @cons x y xs ys hxy _ ih =>
    obtain ⟨e, i⟩ := x
    obtain ⟨_, j⟩ := y
    obtain ⟨rfl, hij⟩ := hxy
    rw [Setting.ownersOf, Setting.ownersOf, ← h.ownerOfId hij]
    cases ho : p.ownerOfId i with
    | none =>
      rcases h.unowned i j hij ho with hF | rfl
      · exact .inl ⟨_, hF, rfl⟩
      · exact .inr rfl
    | some k =>
      rcases ih with ⟨x, hF, hx⟩ | hsame
      · exact .inl ⟨x, hF, by rw [hx]; rfl⟩
      · exact .inr (by rw [hsame])

end Plan.Alike

end

namespace Setting

variable {σ : Type}

/-- The first setting is mirrored by the second: from states related by `R`, and up to faults with
`F`, what they compute and ask for is the same, up to identities in forms. `P` is a class of
expressions that evaluation does not leave. -/
structure Mirrors (R : RunState σ → RunState σ → Prop) (F : ValidationFault → Prop)
    (P : ShapeExpr → Prop) (st st' : Setting σ) : Prop where
  keeps : st.validator.schema.Keeps P
  schema : st'.validator.schema = st.validator.schema
  hierarchy : st'.validator.hierarchy = st.validator.hierarchy
  graph : st'.graph = st.graph
  forms : ∀ m h t, P (.shape m h t) →
    Simulates R (fun f g => ∃ I, f.Alike I P g) F (st.formFor t) (st'.formFor t)
  plans : ∀ l, st.validator.hierarchy.hasParents l = true →
    Simulates R (fun p q => ∃ I, p.Alike F l I P q) F (st.planOf l) (st'.planOf l)
  actions : ∀ acts ts, Simulates R Eq F (st.runActions acts ts) (st'.runActions acts ts)
  tick : Simulates R Eq F st.tick st'.tick
  failures : ∀ c node,
    match NodeConstraint.failures st.validator.readers st.limits.patternLength c node with
    | .ok fs =>
      NodeConstraint.failures st'.validator.readers st'.limits.patternLength c node = .ok fs
    | .error e => F e ∨
      NodeConstraint.failures st'.validator.readers st'.limits.patternLength c node = .error e
  depth : st.limits.depth = st'.limits.depth ∨
    st.limits.depth ≤ st'.limits.depth ∧ F (.limit (.depth st.limits.depth))

/-- Where an evaluator gives a verdict, another one gives the same, for expressions with `P`. -/
def EvaluatorMirrors (R : RunState σ → RunState σ → Prop) (F : ValidationFault → Prop)
    (P : ShapeExpr → Prop) (E E' : Evaluator σ) : Prop :=
  ∀ scope node e, P e → Simulates R Eq F (E scope node e) (E' scope node e)

variable {R : RunState σ → RunState σ → Prop} {F : ValidationFault → Prop} {P : ShapeExpr → Prop}
  {st st' : Setting σ} {values values' nested nested' : Evaluator σ}

section
variable {α : Type} {check check' : α → Run σ Verdict}

/-- A conjunction mirrors a conjunction, by induction on the operands. -/
theorem allConform_simulates :
    ∀ {as : List α}, (∀ a ∈ as, Simulates R Eq F (check a) (check' a)) →
      Simulates R Eq F (allConform check as) (allConform check' as)
  | [], _ => Simulates.pure rfl
  | a :: as, h => by
    rw [allConform, allConform]
    refine (h a (by simp)).bind fun v v' hv => ?_
    subst hv
    cases v with
    | conforms => exact allConform_simulates fun a ha => h a (List.mem_cons_of_mem _ ha)
    | fails reasons => exact Simulates.pure rfl

/-- A disjunction mirrors a disjunction, with the same reasons collected on the way. -/
theorem anyConforms_simulates :
    ∀ {as : List α} {reasons : List Diagnostic}, (∀ a ∈ as, Simulates R Eq F (check a) (check' a)) →
      Simulates R Eq F (anyConforms check reasons as) (anyConforms check' reasons as)
  | [], _, _ => Simulates.pure rfl
  | a :: as, reasons, h => by
    rw [anyConforms, anyConforms]
    refine (h a (by simp)).bind fun v v' hv => ?_
    subst hv
    cases v with
    | conforms => exact Simulates.pure rfl
    | fails more => exact anyConforms_simulates fun a ha => h a (List.mem_cons_of_mem _ ha)

end

namespace Mirrors

variable (h : Mirrors R F P st st')
include h

/-- The semantic actions of a node, from what is assumed of handlers. -/
theorem judgeActions (scope : Scope) (node : Term) (acts : List SemanticAction)
    (ts : List Triple) :
    Simulates R Eq F (st.judgeActions scope node acts ts)
      (st'.judgeActions scope node acts ts) := by
  unfold Setting.judgeActions
  split
  · exact Simulates.pure rfl
  · refine (h.actions acts ts).bind fun b b' hb => ?_
    subst hb
    split <;> exact Simulates.pure rfl

/-- The same outcome of matching around a node, up to identities. What is left over by a closed
shape depends on the predicates of the form, which are the same. -/
theorem matchAround (hvalues : EvaluatorMirrors R F P values values') {I : ExprId → ExprId → Prop}
    {f g : Form} (hf : f.Alike I P g) (scope : Scope) (node : Term) (closed : Bool)
    (extra : List Iri) :
    Simulates R (fun j j' => (∃ rs, j = .error rs ∧ j' = .error rs) ∨
        ∃ a b, j = .ok a ∧ j' = .ok b ∧ a.Alike I b) F
      (st.matchAround values scope node f closed extra)
      (st'.matchAround values' scope node g closed extra) := by
  have hreferee : Referee.Mirrors R F P (st.referee values scope) (st'.referee values' scope) :=
    ⟨fun t e he => hvalues scope.showAll t e he, h.actions, h.tick⟩
  have hclosed : ∀ n,
      closedFailures scope node n f extra = closedFailures scope node n g extra := by
    intro n
    unfold closedFailures
    rw [hf.predicates]
  unfold Setting.matchAround
  rw [h.graph, ← hf.predicates]
  simp only [← hclosed]
  generalize (if closed then closedFailures scope node _ f extra else []) = failures
  split
  · unfold matchForm
    refine (findAssignment_simulates hreferee hf extra _).bind fun m m' hm => ?_
    cases hm with
    | matched hab => exact Simulates.pure (.inr ⟨_, _, rfl, rfl, hab⟩)
    | failed failures => exact Simulates.pure (.inl ⟨_, rfl, rfl⟩)
  · exact Simulates.pure (.inl ⟨_, rfl, rfl⟩)

/-- A shape: its forms differ in identities only, so the assignments found for them give the same
triples. -/
theorem satisfiesShape (hvalues : EvaluatorMirrors R F P values values') (scope : Scope)
    (node : Term) {m : Mark} {s : Shape} (hs : P (.shape m s.header s.expression)) :
    Simulates R Eq F (st.satisfiesShape values scope node s)
      (st'.satisfiesShape values' scope node s) := by
  rw [satisfiesShape_eq, satisfiesShape_eq]
  refine (h.forms m s.header s.expression hs).bind fun f g ⟨I, hf⟩ => ?_
  refine (h.matchAround hvalues hf scope node _ _).bind fun j j' hj => ?_
  obtain ⟨rs, rfl, rfl⟩ | ⟨a, b, rfl, rfl, hab⟩ := hj
  · exact Simulates.pure rfl
  · exact Simulates.pure (congrArg Except.ok hab.triples)

/-- The parts of an extension, one after the other, with the same edges hidden. The semantic actions
of a part come before its conjuncts. -/
theorem satisfiesParts (hnested : EvaluatorMirrors R F P nested nested') (scope : Scope)
    (node : Term) (owners : List (Edge × Nat)) :
    ∀ {parts : List (Part × Nat)}, (∀ p ∈ parts, ∀ c ∈ p.1.constraints, P c) →
      Simulates R Eq F (st.satisfiesParts nested scope node owners parts)
        (st'.satisfiesParts nested' scope node owners parts)
  | [], _ => Simulates.pure rfl
  | (p, i) :: parts, hparts => by
    rw [List.forall_mem_cons] at hparts
    rw [Setting.satisfiesParts, Setting.satisfiesParts]
    refine (h.judgeActions scope node _ _).bind fun v v' hv => ?_
    subst hv
    cases v with
    | fails reasons => exact Simulates.pure rfl
    | conforms =>
      refine (allConform_simulates fun c hc => hnested _ _ c (hparts.1 c hc)).bind
        fun v v' hv => ?_
      subst hv
      cases v with
      | fails reasons => exact Simulates.pure rfl
      | conforms => exact satisfiesParts hnested scope node owners hparts.2

section
variable (hvalues : EvaluatorMirrors R F P values values')
  (hnested : EvaluatorMirrors R F P nested nested')
include hvalues hnested

/-- An extension: the plans differ in identities only, and a constraint without owner leads to the
same fault or to an excused one. -/
theorem satisfiesExtending (scope : Scope) (node : Term) {l : Label}
    (hl : st.validator.hierarchy.hasParents l = true) (declared : ShapeExpr) :
    Simulates R Eq F (st.satisfiesExtending values nested scope node l declared)
      (st'.satisfiesExtending values' nested' scope node l declared) := by
  unfold Setting.satisfiesExtending
  refine (h.plans l hl).bind fun p q ⟨I, hp⟩ => ?_
  have hclosed : p.isClosed = q.isClosed := by rw [Plan.isClosed, Plan.isClosed, hp.parts]
  have hextra : p.extra = q.extra := by rw [Plan.extra, Plan.extra, hp.parts]
  rw [← hclosed, ← hextra, ← hp.parts]
  refine (h.matchAround hvalues hp.form scope node _ _).bind fun j j' hj => ?_
  obtain ⟨rs, rfl, rfl⟩ | ⟨a, b, rfl, rfl, hab⟩ := hj
  · exact Simulates.pure rfl
  · dsimp only
    rcases hp.ownersOf hab.matched with ⟨x, hF, hx⟩ | howners
    · rw [hx]
      exact Simulates.throw_left hF
    rw [← howners, ← hab.triples]
    split
    · exact Simulates.throw
    · refine (h.satisfiesParts hnested scope node _ fun x hx c hc =>
        hp.conjuncts x.1 (List.fst_mem_of_mem_zipIdx hx) c hc).bind fun v v' hv => ?_
      subst hv
      cases v with
      | fails reasons => exact Simulates.pure rfl
      | conforms =>
        dsimp only
        split
        · exact Simulates.pure rfl
        · exact h.judgeActions _ _ _ _

/-- A declaration, by whether it extends something, which is the same on both sides since it is read
off the hierarchy. -/
theorem satisfiesConcrete (scope : Scope) (node : Term) {l : Label} {d : ShapeDecl}
    (hd : st.validator.schema.shape? l = some d) :
    Simulates R Eq F (st.satisfiesConcrete values nested scope node l d)
      (st'.satisfiesConcrete values' nested' scope node l d) := by
  unfold Setting.satisfiesConcrete
  rw [h.hierarchy]
  split
  · exact Simulates.pure rfl
  · dsimp only
    split
    · rename_i hl
      exact h.satisfiesExtending hvalues hnested _ node hl d.expr
    · exact hnested _ node d.expr (h.keeps.declared l d hd)

/-- A reference: the same declaration, or the same subtypes in the same order. An unknown label is
the same fault on both sides. -/
theorem satisfiesLabel (scope : Scope) (node : Term) (l : Label) :
    Simulates R Eq F (st.satisfiesLabel values nested scope node l)
      (st'.satisfiesLabel values' nested' scope node l) := by
  have hsubtypes : concreteSubtypes st'.validator l = concreteSubtypes st.validator l := by
    unfold concreteSubtypes
    rw [h.schema, h.hierarchy]
  unfold Setting.satisfiesLabel
  rw [h.schema, hsubtypes]
  split
  · exact Simulates.throw
  · rename_i d hd
    split
    · exact h.satisfiesConcrete hvalues hnested scope node hd
    split
    · exact Simulates.pure rfl
    · refine (anyConforms_simulates fun x hx => ?_).bind fun v v' hv => ?_
      · exact h.satisfiesConcrete hvalues hnested _ node (of_mem_concreteSubtypes hx).1
      · subst hv
        cases v <;> exact Simulates.pure rfl

/-- The rule for each kind of expression. Only the expressions with `P` are compared, and evaluation
does not leave them. -/
theorem evaluate (scope : Scope) (node : Term) {e : ShapeExpr} (he : P e) :
    Simulates R Eq F (st.evaluate values nested scope node e)
      (st'.evaluate values' nested' scope node e) := by
  cases e with
  | and m es =>
    rw [Setting.evaluate, Setting.evaluate]
    refine (allConform_simulates fun e' he' =>
      hnested scope node e' (h.keeps.and m es he e' he')).bind fun v v' hv => ?_
    subst hv
    cases v <;> exact Simulates.pure rfl
  | or m es =>
    rw [Setting.evaluate, Setting.evaluate]
    refine (anyConforms_simulates fun e' he' =>
      hnested scope node e' (h.keeps.or m es he e' he')).bind fun v v' hv => ?_
    subst hv
    cases v <;> exact Simulates.pure rfl
  | not m e =>
    rw [Setting.evaluate, Setting.evaluate]
    refine (hnested scope node e (h.keeps.not m e he)).bind fun v v' hv => ?_
    subst hv
    cases v <;> exact Simulates.pure rfl
  | ref m l =>
    rw [Setting.evaluate, Setting.evaluate]
    refine (h.satisfiesLabel hvalues hnested scope node l).bind fun v v' hv => ?_
    subst hv
    cases v <;> exact Simulates.pure rfl
  | shape m hd t =>
    rw [Setting.evaluate, Setting.evaluate]
    exact h.satisfiesShape (m := m) hvalues scope node he
  | nodeConstraint m c =>
    have hc := h.failures c node
    rw [Setting.evaluate, Setting.evaluate]
    cases hfs : c.failures st.validator.readers st.limits.patternLength node with
    | error e =>
      rw [hfs] at hc
      rcases hc with hc | hc
      · exact Simulates.throw_left hc
      · rw [hc]
        exact Simulates.throw
    | ok fs =>
      rw [hfs] at hc
      simp only at hc
      rw [hc]
      cases fs <;> exact Simulates.pure rfl
  | external m =>
    rw [Setting.evaluate, Setting.evaluate]
    exact Simulates.pure rfl

end

/-- Evaluation mirrors evaluation, with as many nested evaluations allowed or, if a fault about
their number is excused, with more. -/
theorem satisfies {depth depth' : Nat}
    (hdepth : depth = depth' ∧ st.limits.depth = st'.limits.depth ∨
      depth ≤ depth' ∧ F (.limit (.depth st.limits.depth))) :
    EvaluatorMirrors R F P (st.satisfies depth) (st'.satisfies depth') := by
  induction depth generalizing depth' with
  | zero =>
    intro scope node e _
    rcases hdepth with ⟨rfl, hlimit⟩ | ⟨_, hF⟩
    · rw [Setting.satisfies, Setting.satisfies, hlimit]
      exact Simulates.throw
    · rw [Setting.satisfies]
      exact Simulates.throw_left hF
  | succ depth ih =>
    intro scope node e he
    obtain ⟨deeper, rfl⟩ : ∃ deeper, depth' = deeper + 1 := ⟨depth' - 1, by omega⟩
    have hinner := @ih deeper (by simpa using hdepth)
    rw [Setting.satisfies, Setting.satisfies]
    refine (h.evaluate hinner hinner scope node he).bind fun j j' hj => ?_
    subst hj
    cases j with
    | error reasons => exact Simulates.pure rfl
    | ok ts => exact h.judgeActions _ _ _ _

/-! ### Runs -/

/-- A pair of the shape map, for which evaluation starts with the depth that the limits allow. -/
theorem check (started : Bool) (node : Term) (selector : Selector) :
    Simulates R Eq F (st.check started node selector) (st'.check started node selector) := by
  have hinner : EvaluatorMirrors R F P (st.satisfies st.limits.depth)
      (st'.satisfies st'.limits.depth) :=
    h.satisfies (h.depth.imp_left fun h => ⟨h, h⟩)
  unfold Setting.check
  split
  · cases selector with
    | label l => exact h.satisfiesLabel hinner hinner _ node l
    | start =>
      rw [checkSelected, checkSelected, h.schema]
      split
      · exact Simulates.throw
      · rename_i e he
        exact hinner _ node e (h.keeps.start e he)
  · exact Simulates.pure rfl

/-- All pairs, one after the other, each from the states that the one before has left. -/
theorem checkAll (started : Bool) : ∀ pairs : List (Term × Selector),
    Simulates R Eq F (st.checkAll started pairs) (st'.checkAll started pairs)
  | [] => Simulates.pure rfl
  | (node, selector) :: rest => by
    rw [Setting.checkAll, Setting.checkAll]
    refine (h.check started node selector).bind fun v v' hv => ?_
    subst hv
    refine (checkAll started rest).bind fun es es' hes => ?_
    subst hes
    exact Simulates.pure rfl

/-- The whole run mirrors the run of the other setting. -/
theorem run (pairs : List (Term × Selector)) :
    Simulates R Eq F (st.run pairs) (st'.run pairs) := by
  unfold Setting.run
  rw [h.schema]
  split
  · exact Simulates.throw
  · refine (h.actions _ _).bind fun started started' hstarted => ?_
    subst hstarted
    refine (h.checkAll started pairs).bind fun es es' hes => ?_
    subst hes
    exact Simulates.pure rfl

end Mirrors

end Setting

end Shex
