import Shex.Proofs.ExpansionLimit
import Shex.Proofs.Matching
import Shex.Proofs.Parts
import Shex.Validation.Evaluate

/-!
# When a shape is satisfied

The forms that a run remembers are forms of the expressions they are kept for, as long as identities
tell expressions apart (`Schema.IsCoherent`). So what a run finds out about a shape is whether the
neighbourhood of the node fits the form of its triple expression and, if the shape is closed, has no
other outgoing triples (`Setting.FormHolds`).
-/

namespace Shex

open Run

namespace Setting

variable {σ : Type} (st : Setting σ)

/-- A form is the form of a triple expression, under some limit. -/
def IsForm (t : Option TripleExpr) (f : Form) : Prop :=
  match t with
  | none => f = .empty (st.validator.numbering .bare)
  | some e =>
    ∃ limit, e.normalize st.validator.schema limit (st.validator.numbering (.expr e.id)) = .ok f

/-- The remembered forms are forms of the expressions of the schema. -/
def KnowsForms (m : Memo) : Prop :=
  ∀ mk h e f, st.validator.schema.Has (.shape mk h (some e)) → m.forms.get? e.id = some f →
    st.IsForm (some e) f

variable {st}

/-- Nothing is remembered, so nothing wrong is. -/
theorem knowsForms_empty : st.KnowsForms .empty := fun _ _ _ _ _ h => by cases h

/-- The form of an expression is computed or looked up. A remembered form is one of this expression,
since the identity under which it is remembered is that of one expression only. -/
theorem formOf_meets_of {F : ValidationFault → Prop} (hco : st.validator.schema.IsCoherent)
    {mk : Mark} {h : ShapeHeader} {e : TripleExpr}
    (he : st.validator.schema.Has (.shape mk h (some e)))
    (hF : ∀ fault, e.normalize st.validator.schema st.limits.expansion
      (st.validator.numbering (.expr e.id)) = .error fault → F fault) :
    Meets (fun s => st.KnowsForms s.memo) (st.formOf e) (st.IsForm (some e)) F := by
  unfold formOf
  refine Meets.get.bind fun s hs => ?_
  split
  · rename_i f hf
    exact Meets.pure (hs mk h e f he hf)
  · split
    · rename_i fault hfault
      exact Meets.throw (hF fault hfault)
    · rename_i f hf
      refine (Meets.set fun mk' h' e' f' he' hget => ?_).bind fun _ _ => Meets.pure ⟨_, hf⟩
      by_cases hid : e.id = e'.id
      · obtain rfl := hco.triples _ _ _ _ _ _ he he' hid
        rw [Table.get?_insert_self] at hget
        cases hget
        exact ⟨_, hf⟩
      · rw [Table.get?_insert_of_ne _ hid] at hget
        exact hs mk' h' e' f' he' hget

/-- In an accepted schema all that a form can lack is room for its copies. -/
theorem formOf_meets (hacc : st.validator.IsAccepted)
    (hco : st.validator.schema.IsCoherent) {mk : Mark} {h : ShapeHeader} {e : TripleExpr}
    (he : st.validator.schema.Has (.shape mk h (some e))) :
    Meets (fun s => st.KnowsForms s.memo) (st.formOf e) (st.IsForm (some e))
      ValidationFault.IsExpansion := by
  refine formOf_meets_of hco he fun fault hfault => ?_
  have hrep := TripleExpr.normalize_represents (Schema.isResolved_of_analyze hacc)
    (Schema.isAcyclic_of_analyze hacc) (Schema.refsDeclared_of_has hacc he) st.limits.expansion
    (st.validator.numbering (.expr e.id))
  rwa [hfault] at hrep

/-- The form of a shape with the triple expression. -/
def formFor (st : Setting σ) : Option TripleExpr → Run σ Form
  | none => pure (.empty (st.validator.numbering .bare))
  | some e => st.formOf e

/-- The form of a shape, with or without a triple expression, is a form of it, or the budget is
exceeded. -/
theorem formFor_meets (hacc : st.validator.IsAccepted)
    (hco : st.validator.schema.IsCoherent) {mk : Mark} {h : ShapeHeader} {t : Option TripleExpr}
    (hx : st.validator.schema.Has (.shape mk h t)) :
    Meets (fun s => st.KnowsForms s.memo) (st.formFor t) (st.IsForm t)
      ValidationFault.IsLimit := by
  cases t with
  | none => exact Meets.pure rfl
  | some e => exact (formOf_meets hacc hco hx).mono (fun _ => id) fun _ => (·.isLimit)

/-- A shape has one form. -/
theorem IsForm.unique {t : Option TripleExpr} {f f' : Form} (h : st.IsForm t f)
    (h' : st.IsForm t f') : f = f' := by
  cases t with
  | none => exact Eq.trans h h'.symm
  | some e =>
    obtain ⟨_, h⟩ := h
    obtain ⟨_, h'⟩ := h'
    exact TripleExpr.normalize_limit h h'

/-- What is known about a form that is the normalization of an expression of the schema. -/
theorem IsForm.represents (hacc : st.validator.IsAccepted) {mk : Mark} {h : ShapeHeader}
    {e : TripleExpr} (he : st.validator.schema.Has (.shape mk h (some e))) {f : Form}
    (hf : st.IsForm (some e) f) : f.Represents st.validator.schema e := by
  obtain ⟨limit, hf⟩ := hf
  have := TripleExpr.normalize_represents (Schema.isResolved_of_analyze hacc)
    (Schema.isAcyclic_of_analyze hacc) (Schema.refsDeclared_of_has hacc he) limit
    (st.validator.numbering (.expr e.id))
  rwa [hf] at this

end Setting

/-- A form without semantic actions that matching can deal with. -/
structure Form.IsMatchable (f : Form) : Prop where
  coherent : f.IsCoherent
  annotated : f.annotated = []
  total : ∀ b, ∃ m, f.expr.matchesBag b = .ok m

/-- The triple expression of a shape, with all that it refers to, has no semantic actions. -/
def Schema.IsActionFreeShape (S : Schema) (t : Option TripleExpr) : Prop :=
  ∀ e, t = some e → S.IsActionFree e

/-- Semantic actions are not used anywhere in the schema. -/
structure Schema.IsActionless (s : Schema) : Prop where
  actions : ∀ x, s.Has x → x.actions = []
  tripleActions : ∀ m h t, s.Has (.shape m h t) → s.IsActionFreeShape t
  startActions : s.startActions = []

/-- A schema is without semantic actions if its shape expressions have none and none are recorded
for its triple expressions. -/
theorem Schema.isActionless_of_annotate {s : Schema}
    (hexprs : ∀ x ∈ s.expressions, x.actions = [] ∧
      ∀ t ∈ (x.shape?.bind Shape.expression).toList, t.annotate [] = [])
    (htriples : ∀ t ∈ s.tripleExprs.values, t.annotate [] = []) (hstart : s.startActions = []) :
    s.IsActionless := by
  refine ⟨fun x hx => (hexprs x (has_iff_mem_expressions.1 hx)).1, fun m h t hx e he => ?_, hstart⟩
  subst he
  refine TripleExpr.isActionFree_of_annotate (fun l t ht => htriples t ?_) ?_
  · exact List.mem_map.2 ⟨(l, t), (Table.get?_eq_some_iff _).1 ht, rfl⟩
  · exact (hexprs _ (has_iff_mem_expressions.1 hx)).2 e (by simp [ShapeExpr.shape?])

namespace Setting

variable {σ : Type} {st : Setting σ}

/-- The value expressions of a form of a shape are met in the shape. They are found there under
another mark, which has the same source. -/
theorem IsForm.inside (hacc : st.validator.IsAccepted) {mk : Mark} {h : ShapeHeader}
    {t : Option TripleExpr} (hx : st.validator.schema.Has (.shape mk h t)) {f : Form}
    (hf : st.IsForm t f) {c : TripleConstraint} (hc : c ∈ f.constraints) :
    ∃ e via m, t = some e ∧
      st.validator.schema.Inside via e (.constraint m c.arc c.value) ∧
      m.source = c.mark.source := by
  cases t with
  | none =>
    obtain rfl : f = .empty _ := hf
    simp [Form.constraints, Form.empty, TripleExpr.constraints] at hc
  | some e =>
    obtain ⟨via, m, hin, hm⟩ := ((hf.represents hacc hx).sources _ _ _).1 ⟨c, hc, rfl, rfl, rfl⟩
    exact ⟨e, via, m, rfl, hin, hm⟩

/-- The value expressions of a form of a shape are parts of the shape. -/
theorem IsForm.hasPart (hacc : st.validator.IsAccepted) {mk : Mark} {h : ShapeHeader}
    {t : Option TripleExpr} (hx : st.validator.schema.Has (.shape mk h t)) {f : Form}
    (hf : st.IsForm t f) {v : ShapeExpr} (hv : v ∈ f.expr.values) :
    st.validator.schema.HasPart (.shape mk h t) v := by
  obtain ⟨c, hc, hcv⟩ := List.mem_filterMap.1 hv
  obtain ⟨e, via, m, rfl, hin, _⟩ := hf.inside hacc hx hc
  rw [hcv] at hin
  exact .value hin

/-- The value expressions of a form of a shape are expressions of the schema. -/
theorem IsForm.has (hacc : st.validator.IsAccepted) {mk : Mark} {h : ShapeHeader}
    {t : Option TripleExpr} (hx : st.validator.schema.Has (.shape mk h t)) {f : Form}
    (hf : st.IsForm t f) {v : ShapeExpr} (hv : v ∈ f.expr.values) : st.validator.schema.Has v :=
  hx.of_hasPart (hf.hasPart hacc hx hv)

/-- Every bag can be matched with the form of a shape of the schema. -/
theorem IsForm.matchesBag_total (hacc : st.validator.IsAccepted) {mk : Mark}
    {h : ShapeHeader} {t : Option TripleExpr} (hx : st.validator.schema.Has (.shape mk h t))
    {f : Form} (hf : st.IsForm t f) (b : Bag) : ∃ m, f.expr.matchesBag b = .ok m := by
  cases t with
  | none =>
    obtain rfl : f = .empty _ := hf
    exact TripleExpr.matchesBag_total rfl b
  | some e => exact TripleExpr.matchesBag_total (hf.represents hacc hx).countable b

/-- The form of a shape of the schema can be matched. Its value expressions belong to the schema,
where identities tell expressions apart, and its counts can be evaluated. -/
theorem IsForm.isMatchable (hacc : st.validator.IsAccepted)
    (hco : st.validator.schema.IsCoherent) {mk : Mark} {h : ShapeHeader} {t : Option TripleExpr}
    (hx : st.validator.schema.Has (.shape mk h t))
    (hact : st.validator.schema.IsActionFreeShape t) {f : Form} (hf : st.IsForm t f) :
    f.IsMatchable := by
  refine ⟨fun v hv v' hv' hid => hco.shapes v v' (hf.has hacc hx hv) (hf.has hacc hx hv') hid, ?_,
    hf.matchesBag_total hacc hx⟩
  cases t with
  | none =>
    obtain rfl : f = .empty _ := hf
    rfl
  | some e => exact (hf.represents hacc hx).annotated (hact e rfl)

/-- The neighbourhood of a node fits a form, and has no other outgoing triples if the shape is
closed. -/
def FormHolds (st : Setting σ) (V : Term → ShapeExpr → Prop) (scope : Scope) (node : Term)
    (f : Form) (closed : Bool) (extra : List Iri) : Prop :=
  (closed = true → ∀ t ∈ (scope.neighbourhood st.graph node (f.predicates true)).outgoing,
    t.predicate ∈ f.predicates false ∨ t.predicate ∈ extra) ∧
  f.Fits V extra (scope.neighbourhood st.graph node (f.predicates true)).edges

/-- Counting a combination keeps what does not depend on the count, or ends with the fault of that
limit. -/
theorem tick_meets_of {I : RunState σ → Prop} {F : ValidationFault → Prop}
    (hI : ∀ s n, I s → I { s with assignments := n }) (hF : ∀ n, F (.limit (.assignments n))) :
    Meets I st.tick (fun _ => True) F := by
  unfold tick
  refine Meets.get.bind fun s hs => (Meets.set (hI s _ hs)).bind fun _ _ => ?_
  split
  · split
    · exact Meets.throw (hF _)
    · exact Meets.pure trivial
  · exact Meets.pure trivial

/-- The same for faults of limits in general. -/
theorem tick_meets {I : RunState σ → Prop} (hI : ∀ s n, I s → I { s with assignments := n }) :
    Meets I st.tick (fun _ => True) ValidationFault.IsLimit :=
  tick_meets_of hI fun _ => ⟨_, rfl⟩

section
variable {I : RunState σ → Prop} {F : ValidationFault → Prop} {values : Evaluator σ}
  {V : Term → ShapeExpr → Prop} {scope : Scope} {node : Term} {f : Form} {extra : List Iri}

/-- A closed shape has nothing to complain about if every outgoing triple has a predicate of the
form or an extra one. -/
theorem closedFailures_eq_nil_iff {n : Neighbourhood} :
    closedFailures scope node n f extra = [] ↔
      ∀ t ∈ n.outgoing, t.predicate ∈ f.predicates false ∨ t.predicate ∈ extra := by
  simp only [closedFailures, List.map_eq_nil_iff, List.filter_eq_nil_iff]
  refine forall_congr' fun t => imp_congr_right fun _ => ?_
  simp [Decidable.or_iff_not_imp_left]

/-- What matching a neighbourhood finds out: an assignment is given only if the edges fit, and it is
a lawful one; reasons are given only if they do not fit. -/
theorem matchForm_meets (hf : f.IsMatchable) (htick : Meets I st.tick (fun _ => True) F)
    {n : Neighbourhood}
    (hvalues : ∀ e ∈ n.edges, ∀ c ∈ f.constraints, c.arc = e.arc → ∀ v, c.value = some v →
      Meets I (values scope.showAll e.opposite v) (fun d => d = .conforms ↔ V e.opposite v) F) :
    Meets I (st.matchForm values scope node n f extra)
      (fun
        | .ok a => f.Fits V extra n.edges ∧ a.IsLawful V extra f n.edges
        | .error _ => ¬ f.Fits V extra n.edges) F := by
  unfold matchForm
  refine (findAssignment_meets hf.coherent hf.annotated hf.total htick hvalues).bind fun m hm => ?_
  cases m with
  | matched a => exact Meets.pure hm
  | failed reasons => exact Meets.pure hm.1

/-- What matching around a node finds out. A closed shape is refused for triples of other predicates
before any value is checked. -/
theorem matchAround_meets (hf : f.IsMatchable) (htick : Meets I st.tick (fun _ => True) F)
    {closed : Bool}
    (hvalues : ∀ e ∈ (scope.neighbourhood st.graph node (f.predicates true)).edges,
      ∀ c ∈ f.constraints, c.arc = e.arc → ∀ v, c.value = some v →
      Meets I (values scope.showAll e.opposite v) (fun d => d = .conforms ↔ V e.opposite v) F) :
    Meets I (st.matchAround values scope node f closed extra)
      (fun
        | .ok a => st.FormHolds V scope node f closed extra ∧ a.IsLawful V extra f
            (scope.neighbourhood st.graph node (f.predicates true)).edges
        | .error _ => ¬ st.FormHolds V scope node f closed extra) F := by
  unfold matchAround
  set n := scope.neighbourhood st.graph node (f.predicates true) with hn
  have hclosed : (if closed then closedFailures scope node n f extra else []) = [] ↔
      (closed = true →
        ∀ t ∈ n.outgoing, t.predicate ∈ f.predicates false ∨ t.predicate ∈ extra) := by
    cases closed with
    | false => simp
    | true => simpa using closedFailures_eq_nil_iff
  simp only
  generalize (if closed then closedFailures scope node n f extra else []) = failures at hclosed
  by_cases hnil : failures = []
  · rw [if_pos (List.isEmpty_iff.2 hnil)]
    refine (matchForm_meets hf htick hvalues).imp fun j hj => ?_
    cases j with
    | ok a => exact ⟨⟨hclosed.1 hnil, hj.1⟩, hj.2⟩
    | error rs => exact fun h => hj h.2
  · rw [if_neg (mt List.isEmpty_iff.1 hnil)]
    exact Meets.pure fun h => hnil (hclosed.2 h.1)

/-- The two cases of a shape, with and without a triple expression, as one: its form is looked up,
then matched. -/
theorem satisfiesShape_eq (s : Shape) :
    st.satisfiesShape values scope node s = (do
      let form ← st.formFor s.expression
      return (← st.matchAround values scope node form s.header.closed s.header.extra).map
        Assignment.triples) := by
  obtain ⟨header, t⟩ := s
  cases t <;> rfl

/-- A shape holds at a node by its form, where `V` says which nodes meet value expressions. -/
def Fulfils (st : Setting σ) (V : Term → ShapeExpr → Prop) (scope : Scope) (node : Term)
    (s : Shape) : Prop :=
  ∃ f, st.IsForm s.expression f ∧ st.FormHolds V scope node f s.header.closed s.header.extra

/-- Whether a shape holds depends on the scope only by what is hidden. -/
theorem fulfils_congr_hidden {scope' : Scope} {s : Shape} (h : scope.hidden = scope'.hidden) :
    st.Fulfils V scope node s ↔ st.Fulfils V scope' node s := by
  have : scope.neighbourhood st.graph node = scope'.neighbourhood st.graph node := by
    funext inverse
    rw [Scope.neighbourhood, Scope.neighbourhood, h]
  rw [Fulfils, Fulfils]
  simp only [FormHolds, this]

/-- More nodes that meet the value expressions do no harm, since matching asks for verdicts that
hold. -/
theorem FormHolds.mono {W : Term → ShapeExpr → Prop} {closed : Bool} (h : ∀ n v, V n v → W n v)
    (hV : st.FormHolds V scope node f closed extra) : st.FormHolds W scope node f closed extra :=
  ⟨hV.1, hV.2.mono fun _ _ v _ => h _ v⟩

/-- More nodes that meet the value expressions of a shape make the shape hold at more nodes. -/
theorem Fulfils.mono (hacc : st.validator.IsAccepted) {mk : Mark} {s : Shape}
    (hs : st.validator.schema.Has (.shape mk s.header s.expression))
    {W : Term → ShapeExpr → Prop}
    (h : ∀ v, st.validator.schema.HasPart (.shape mk s.header s.expression) v →
      ∀ t, V t v → W t v)
    (hV : st.Fulfils V scope node s) : st.Fulfils W scope node s := by
  obtain ⟨f, hf, hclosed, hfits⟩ := hV
  exact ⟨f, hf, hclosed, hfits.mono fun e _ v hv => h v (hf.hasPart hacc hs hv) e.opposite⟩

end

section
variable {values : Evaluator σ} {V : Term → ShapeExpr → Prop} {scope : Scope} {node : Term}
  {I : RunState σ → Prop} {F : ValidationFault → Prop} {mk : Mark} {s : Shape}
  (hacc : st.validator.IsAccepted) (hco : st.validator.schema.IsCoherent)
  (hs : st.validator.schema.Has (.shape mk s.header s.expression))
  (hact : st.validator.schema.IsActionFreeShape s.expression)
include hacc hco hs hact

/-- What evaluation of a shape finds out, once its form is known. Any two forms of the shape are
equal, so that holding with the one at hand is holding with some. -/
theorem satisfiesShape_meets_of_form
    (hform : Meets I (st.formFor s.expression) (st.IsForm s.expression) F)
    (htick : Meets I st.tick (fun _ => True) F)
    (hvalues : ∀ t v, st.validator.schema.HasPart (.shape mk s.header s.expression) v →
      Meets I (values scope.showAll t v) (fun d => d = .conforms ↔ V t v) F) :
    Meets I (st.satisfiesShape values scope node s)
      (fun j => (∃ ts, j = .ok ts) ↔ st.Fulfils V scope node s) F := by
  rw [satisfiesShape_eq]
  refine hform.bind fun f hf => ?_
  refine (matchAround_meets (hf.isMatchable hacc hco hs hact) htick fun e _ c hc _ v hv =>
    hvalues e.opposite v (hf.hasPart hacc hs (Form.mem_values hc hv))).bind
    fun j hj => Meets.pure ?_
  have hone : st.Fulfils V scope node s ↔
      st.FormHolds V scope node f s.header.closed s.header.extra :=
    ⟨fun ⟨f', hf', h⟩ => hf.unique hf' ▸ h, fun h => ⟨f, hf, h⟩⟩
  cases j with
  | ok a => exact iff_of_true ⟨_, rfl⟩ (hone.2 hj.1)
  | error rs => exact iff_of_false (fun ⟨_, h⟩ => by cases h) (mt hone.1 hj)

/-- What evaluation of a shape finds out. -/
theorem satisfiesShape_meets (hF : ∀ f : ValidationFault, f.IsLimit → F f)
    (hvalues : ∀ t v, st.validator.schema.HasPart (.shape mk s.header s.expression) v →
      Meets (fun r => st.KnowsForms r.memo) (values scope.showAll t v)
        (fun d => d = .conforms ↔ V t v) F) :
    Meets (fun r => st.KnowsForms r.memo) (st.satisfiesShape values scope node s)
      (fun j => (∃ ts, j = .ok ts) ↔ st.Fulfils V scope node s) F :=
  satisfiesShape_meets_of_form hacc hco hs hact ((formFor_meets hacc hco hs).mono (fun _ => id) hF)
    ((tick_meets fun _ _ h => h).mono (fun _ => id) hF) hvalues

end

/-! ### Expressions and lists of checks -/

/-- Without semantic actions, a node satisfies an expression if the evaluation of the expression
succeeds. -/
theorem judgeActions_meets {I : RunState σ → Prop} {F : ValidationFault → Prop} {scope : Scope}
    {node : Term} {acts : List SemanticAction} {x : Run σ (Judged (List Triple))} {P : Prop}
    (hx : Meets I x (fun j => (∃ ts, j = .ok ts) ↔ P) F) (hact : acts = []) :
    Meets I (do
      match ← x with
      | .error reasons => return .fails reasons
      | .ok triples => st.judgeActions scope node acts triples)
      (fun v => v = .conforms ↔ P) F := by
  subst hact
  refine hx.bind fun j hj => ?_
  rw [← hj]
  cases j <;> exact Meets.pure (by simp)

section
variable {I : RunState σ → Prop} {F : ValidationFault → Prop} {α : Type}
  {check : α → Run σ Verdict} {P : α → Prop}

/-- A conjunction conforms if all operands do. Operands after one that fails are not checked, and
nothing is claimed for them. -/
theorem allConform_meets : ∀ {as : List α},
    (∀ a ∈ as, Meets I (check a) (fun v => v = .conforms ↔ P a) F) →
      Meets I (allConform check as) (fun v => v = .conforms ↔ ∀ a ∈ as, P a) F
  | [], _ => Meets.pure (by simp)
  | a :: as, h => by
    rw [allConform]
    refine (h a (by simp)).bind fun v hv => ?_
    cases v with
    | conforms =>
      refine (allConform_meets fun a ha => h a (List.mem_cons_of_mem _ ha)).imp fun v' hv' => ?_
      rw [List.forall_mem_cons, hv', ← hv]
      simp
    | fails reasons =>
      refine Meets.pure (iff_of_false nofun fun hall => ?_)
      exact absurd (hv.2 (hall a (by simp))) nofun

/-- A disjunction conforms if some operand does. The reasons of those that failed are kept, which
does not matter for the verdict. -/
theorem anyConforms_meets : ∀ {as : List α} {reasons : List Diagnostic},
    (∀ a ∈ as, Meets I (check a) (fun v => v = .conforms ↔ P a) F) →
      Meets I (anyConforms check reasons as) (fun v => v = .conforms ↔ ∃ a ∈ as, P a) F
  | [], _, _ => Meets.pure (by simp)
  | a :: as, reasons, h => by
    rw [anyConforms]
    refine (h a (by simp)).bind fun v hv => ?_
    cases v with
    | conforms => exact Meets.pure (iff_of_true rfl ⟨a, by simp, hv.1 rfl⟩)
    | fails more =>
      refine (anyConforms_meets fun a ha => h a (List.mem_cons_of_mem _ ha)).imp fun v' hv' => ?_
      have hno : ¬ P a := fun ha => absurd (hv.2 ha) nofun
      rw [hv']
      simp [hno]

end

end Setting

end Shex
