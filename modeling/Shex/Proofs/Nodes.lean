import Mathlib.Data.List.Nodup
import Shex.Proofs.Inside

/-!
# The nodes of a triple expression

All nodes of an expression in the order of the text (`TripleExpr.nodes`), and their number. They are
what is met in the expression without a look behind references. With the nodes of the labelled
expressions they are all that can be met in it (`Schema.Inside.mem_nodesOf`), so it can be decided
whether the identities in a schema tell its nodes apart and which identities are not in use.
-/

namespace Shex

namespace TripleExpr

mutual

/-- The nodes of an expression, each before those inside it. -/
def nodes : TripleExpr → List TripleExpr
  | .eachOf m es => .eachOf m es :: nodesIn es
  | .oneOf m es => .oneOf m es :: nodesIn es
  | .repeated m e c => .repeated m e c :: e.nodes
  | .constraint m a v => [.constraint m a v]
  | .ref m l => [.ref m l]
  | .empty m => [.empty m]

/-- The nodes of the expressions of a list. -/
def nodesIn : List TripleExpr → List TripleExpr
  | [] => []
  | e :: es => e.nodes ++ nodesIn es

end

/-- The number of nodes. -/
def size (e : TripleExpr) : Nat := e.nodes.length

/-- The nodes of several expressions are listed one expression after the other. With this equation
the mutual recursion is opened once, and lists of expressions are treated by the lemmas of
`List.flatMap`. -/
theorem nodesIn_eq_flatMap (es : List TripleExpr) : nodesIn es = es.flatMap nodes := by
  induction es with
  | nil => rfl
  | cons e es ih => rw [nodesIn, ih, List.flatMap_cons]

/-- The nodes of two runs of expressions, one run after the other. -/
theorem nodesIn_append (es es' : List TripleExpr) :
    nodesIn (es ++ es') = nodesIn es ++ nodesIn es' := by
  simp only [nodesIn_eq_flatMap, List.flatMap_append]

/-- A single operand, as a repetition has it, has the nodes of the expression. -/
theorem nodesIn_singleton (e : TripleExpr) : nodesIn [e] = e.nodes := by simp [nodesIn]

end TripleExpr

/-- The node of a triple constraint. -/
def TripleConstraint.node (c : TripleConstraint) : TripleExpr := .constraint c.mark c.arc c.value

namespace TripleExpr

mutual

/-- The triple constraints are those among the nodes, in the same order, since both lists are made
in the same recursion. -/
theorem map_node_constraints :
    ∀ e : TripleExpr, e.constraints.map TripleConstraint.node = e.nodes.filter isConstraint
  | .eachOf m es => by
    rw [constraints, nodes, List.filter_cons_of_neg (by simp [isConstraint]),
      map_node_constraintsIn]
  | .oneOf m es => by
    rw [constraints, nodes, List.filter_cons_of_neg (by simp [isConstraint]),
      map_node_constraintsIn]
  | .repeated m e c => by
    rw [constraints, nodes, List.filter_cons_of_neg (by simp [isConstraint]),
      map_node_constraints]
  | .constraint _ _ _ => rfl
  | .ref _ _ => rfl
  | .empty _ => rfl

/-- The same for the parts of a group or a choice, mutual with the expressions. -/
theorem map_node_constraintsIn :
    ∀ es : List TripleExpr,
      (constraintsIn es).map TripleConstraint.node = (nodesIn es).filter isConstraint
  | [] => rfl
  | e :: es => by
    rw [constraintsIn, nodesIn, List.map_append, List.filter_append, map_node_constraints,
      map_node_constraintsIn]

end

/-- Every expression is among its own nodes, as the first one. -/
theorem self_mem_nodes (e : TripleExpr) : e ∈ e.nodes := by cases e <;> simp [nodes]

end TripleExpr

namespace Schema

variable {s : Schema} {e x : TripleExpr} {via : List Label}

/-- The nodes of an expression and of the labelled expressions of the schema. -/
def nodesOf (s : Schema) (e : TripleExpr) : List TripleExpr :=
  e.nodes ++ s.tripleExprs.values.flatMap TripleExpr.nodes

/-- What is met in an expression is a node of it or of a labelled expression: the first reference on
the way leads out of the expression, and from there on everything is in declarations. -/
theorem Inside.mem_nodes (h : s.Inside via e x) :
    x ∈ e.nodes ∨ ∃ l t, s.tripleExpr? l = some t ∧ x ∈ t.nodes := by
  induction h with
  | self e => exact .inl e.self_mem_nodes
  | eachOf he _ ih =>
    refine ih.imp_left fun hx => ?_
    rw [TripleExpr.nodes, TripleExpr.nodesIn_eq_flatMap]
    exact List.mem_cons_of_mem _ (List.mem_flatMap.2 ⟨_, he, hx⟩)
  | oneOf he _ ih =>
    refine ih.imp_left fun hx => ?_
    rw [TripleExpr.nodes, TripleExpr.nodesIn_eq_flatMap]
    exact List.mem_cons_of_mem _ (List.mem_flatMap.2 ⟨_, he, hx⟩)
  | repeated _ ih => exact ih.imp_left fun hx => List.mem_cons_of_mem _ hx
  | ref hl _ ih =>
    rcases ih with hx | hx
    · exact .inr ⟨_, _, hl, hx⟩
    · exact .inr hx

/-- What is met behind references is listed either with the expression or with a declaration, since
a reference leads to nothing else. So a bound for `nodesOf` bounds everything that normalization can
meet. -/
theorem Inside.mem_nodesOf (h : s.Inside via e x) : x ∈ s.nodesOf e := by
  rcases h.mem_nodes with hx | ⟨l, t, ht, hx⟩
  · exact List.mem_append_left _ hx
  · refine List.mem_append_right _ (List.mem_flatMap.2 ⟨t, ?_, hx⟩)
    exact List.mem_map.2 ⟨(l, t), (Table.get?_eq_some_iff _).1 ht, rfl⟩

/-- Identities tell the nodes apart that are met in an expression. -/
def TellsApart (s : Schema) (e : TripleExpr) : Prop :=
  ∀ via via' x y, s.Inside via e x → s.Inside via' e y → x.id = y.id → x = y

/-- Identities that are used once tell nodes apart. -/
theorem tellsApart_of_nodup (h : ((s.nodesOf e).map TripleExpr.id).Nodup) : s.TellsApart e :=
  fun _ _ _ _ hx hy hid => List.inj_on_of_nodup_map h hx.mem_nodesOf hy.mem_nodesOf hid

/-- No node that is met in an expression has the identity `fresh` or a later one. -/
def IsUnused (s : Schema) (e : TripleExpr) (fresh : ExprId) : Prop :=
  ∀ via x, s.Inside via e x → x.id.index < fresh.index

/-- The condition as it is checked on a concrete schema: no identity in sight reaches the first
fresh one. -/
theorem isUnused_of_all {fresh : ExprId}
    (h : (s.nodesOf e).all (·.id.index < fresh.index) = true) : s.IsUnused e fresh :=
  fun _ _ hx => by simpa using List.all_eq_true.1 h _ hx.mem_nodesOf

end Schema

end Shex
