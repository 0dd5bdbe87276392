import Shex.Proofs.Checks
import Shex.Proofs.Coverage

/-!
# Nodes without edges

A check that begins at a node without edges stays there. So it is the same in every graph in which
the node has no edges (`Setting.validate_isolated`).
-/

namespace Shex

/-- No triple leaves or enters a node. -/
structure GraphView.IsIsolated (g : GraphView) (n : Term) : Prop where
  outgoing : g.outgoing n = []
  incoming : g.incoming n = []

/-- A node that is in no triple has no edges. -/
theorem Graph.isIsolated_view {g : Graph} {n : Term}
    (h : ∀ t ∈ g.triples, .resource t.subject ≠ n ∧ t.object ≠ n) : g.view.IsIsolated n :=
  ⟨List.filter_eq_nil_iff.2 fun t ht => by simpa using (h t ht).1,
    List.filter_eq_nil_iff.2 fun t ht => by simpa using (h t ht).2⟩

/-- Nothing is seen of a node without edges, whatever is hidden. -/
theorem Scope.neighbourhood_isolated {g : GraphView} {n : Term} (h : g.IsIsolated n) (scope : Scope)
    (inverse : List Iri) : scope.neighbourhood g n inverse = ⟨[], []⟩ := by
  have hcollect : Neighbourhood.collect g n inverse = ⟨[], []⟩ := by
    simp [Neighbourhood.collect, h.outgoing, h.incoming]
  rw [neighbourhood, hcollect]
  induction scope.hidden with
  | nil => rfl
  | cons x xs ih =>
    rw [List.foldl_cons]
    split <;> exact ih

namespace Setting

variable {σ : Type}

/-- A run about another graph. -/
def about (st : Setting σ) (g : GraphView) : Setting σ := { st with graph := g }

variable {st : Setting σ} {g : GraphView} {values values' nested nested' : Evaluator σ} {n : Term}
  (h : st.graph.IsIsolated n) (h' : g.IsIsolated n)
include h h'

/-- Matching around a node looks at the triples of the node only. -/
theorem matchAround_isolated (scope : Scope) (f : Form) (closed : Bool) (extra : List Iri) :
    st.matchAround values scope n f closed extra =
      (st.about g).matchAround values' scope n f closed extra := by
  have haccept : ∀ extras, (st.referee values scope).accept f extras =
      ((st.about g).referee values' scope).accept f extras := fun extras => by
    apply Referee.accept_congr <;> rfl
  unfold matchAround matchForm findAssignment
  simp only [Scope.neighbourhood_isolated h,
    Scope.neighbourhood_isolated (g := (st.about g).graph) h', Neighbourhood.edges, List.map_nil,
    List.append_nil, List.foldlM_nil, pure_bind, haccept]

/-- So does a shape, where value expressions are answered. -/
theorem satisfiesShape_isolated (scope : Scope) (s : Shape) :
    st.satisfiesShape values scope n s = (st.about g).satisfiesShape values' scope n s := by
  rw [satisfiesShape_eq, satisfiesShape_eq]
  refine congrArg _ (funext fun f => ?_)
  rw [matchAround_isolated h h']

section
variable (hnested : ∀ scope, nested scope n = nested' scope n)
include hnested

omit h h' in
/-- So do the parts of an extension: their constraints are about the same node. -/
theorem satisfiesParts_isolated (scope : Scope) (owners : List (Edge × Nat)) :
    ∀ parts, st.satisfiesParts nested scope n owners parts =
      (st.about g).satisfiesParts nested' scope n owners parts
  | [] => rfl
  | (p, i) :: parts => by
    rw [satisfiesParts, satisfiesParts, hnested, satisfiesParts_isolated scope owners parts]
    rfl

/-- So does a declaration. -/
theorem satisfiesConcrete_isolated (scope : Scope) (l : Label) (d : ShapeDecl) :
    st.satisfiesConcrete values nested scope n l d =
      (st.about g).satisfiesConcrete values' nested' scope n l d := by
  have hmatch := fun scope => @matchAround_isolated _ st g values values' n h h' scope
  have hparts := fun scope owners =>
    @satisfiesParts_isolated _ st g nested nested' n hnested scope owners
  unfold satisfiesConcrete satisfiesExtending
  simp only [hmatch, hparts, hnested]
  rfl

/-- So does a reference. -/
theorem satisfiesLabel_isolated (scope : Scope) (l : Label) :
    st.satisfiesLabel values nested scope n l =
      (st.about g).satisfiesLabel values' nested' scope n l := by
  have hconcrete := fun scope =>
    @satisfiesConcrete_isolated _ st g values values' nested nested' n h h' hnested scope
  unfold satisfiesLabel
  simp only [hconcrete]
  rfl

/-- So does every expression. -/
theorem evaluate_isolated (scope : Scope) (e : ShapeExpr) :
    st.evaluate values nested scope n e = (st.about g).evaluate values' nested' scope n e := by
  cases e with
  | and m es | or m es | not m e => rw [evaluate, evaluate, hnested]
  | ref m l => rw [evaluate, evaluate, satisfiesLabel_isolated h h' hnested]
  | shape m hd t => rw [evaluate, evaluate, satisfiesShape_isolated h h']
  | nodeConstraint m c => rfl
  | external m => rfl

end

/-- Evaluation at a node without edges does not depend on the graph. -/
theorem satisfies_isolated (depth : Nat) (scope : Scope) :
    st.satisfies depth scope n = (st.about g).satisfies depth scope n := by
  induction depth generalizing scope with
  | zero => rfl
  | succ depth ih =>
    funext e
    rw [satisfies, satisfies, evaluate_isolated h h' ih]
    rfl

/-- The check of a node without edges does not depend on the graph. Nothing leads away from such a
node, so all that is evaluated is about the node itself, and it sees nothing in either graph. -/
theorem validate_isolated (l : Label) (memo : Memo) (world : σ) :
    st.validator.validate st.limits st.handlers st.graph [(n, .label l)] memo world =
      st.validator.validate st.limits st.handlers g [(n, .label l)] memo world := by
  have hlabel : st.checkSelected n (.label l) = (st.about g).checkSelected n (.label l) :=
    satisfiesLabel_isolated h h' (satisfies_isolated h h' _) _ l
  have hrun : run ⟨st.validator, st.limits, st.handlers, st.graph⟩ [(n, .label l)] =
      run ⟨st.validator, st.limits, st.handlers, g⟩ [(n, .label l)] := by
    change st.run [(n, .label l)] = (st.about g).run [(n, .label l)]
    unfold run checkAll check
    rw [hlabel]
    rfl
  rw [Validator.validate, Validator.validate, hrun]

omit h h' in
/-- If the checks of the nodes of a graph give reports, and all checks about the empty graph, then
all checks about the graph do. -/
theorem completes_of_nodes {world : σ} {graph : Graph} (nodes : List Term)
    (hgraph : st.graph = graph.view)
    (hnodes : ∀ t ∈ graph.triples, .resource t.subject ∈ nodes ∧ t.object ∈ nodes)
    (hreports : ∀ l ∈ st.validator.schema.labels,
      (∀ n ∈ nodes, ∃ report, (st.validator.validate st.limits st.handlers st.graph
        [(n, .label l)] .empty world).1 = .ok report) ∧
      ∀ n, ∃ report, (st.validator.validate st.limits st.handlers Graph.empty.view
        [(n, .label l)] .empty world).1 = .ok report) :
    st.Completes world := by
  rintro n l ⟨d, hd⟩
  obtain ⟨hin, hout⟩ := hreports l (List.mem_map.2 ⟨(l, d), (Table.get?_eq_some_iff _).1 hd, rfl⟩)
  by_cases hn : n ∈ nodes
  · exact hin n hn
  · have hisolated : st.graph.IsIsolated n := by
      rw [hgraph]
      refine Graph.isIsolated_view fun t ht => ⟨?_, ?_⟩
      · exact fun h => hn (h ▸ (hnodes t ht).1)
      · exact fun h => hn (h ▸ (hnodes t ht).2)
    rw [validate_isolated hisolated (Graph.isIsolated_view (g := .empty) nofun)]
    exact hout n

end Setting

end Shex
