import Mathlib.Data.List.Perm.Basic
import Shex.Proofs.Hiding
import Shex.Proofs.Isolation

/-!
# The order of triples and matching

Whether a bag matches an expression depends on how often each constraint is in it, so whether edges
fit a form does not depend on their order (`Form.fits_of_perm`). What is seen of a node in two
graphs that show the same triples in different orders is the same up to order
(`Scope.filter_neighbourhood_perm`), and a form holds in both or in neither
(`Setting.formHolds_about_iff`), even if not the same edges are hidden, as long as the form is not
concerned with those that differ.
-/

namespace Shex

/-! ### Bags -/

namespace TripleExpr

variable {b b' : Bag}

/-- Whether nothing of an expression occurs in a bag depends on what the bag has. -/
theorem isAbsent_perm (h : b.Perm b') (e : TripleExpr) : e.isAbsent b = e.isAbsent b' := by
  have hcontains : ∀ id, b.contains id = b'.contains id := fun id => by
    rw [Bool.eq_iff_iff, List.contains_iff_mem, List.contains_iff_mem, h.mem_iff]
  unfold isAbsent
  simp only [hcontains]

/-- How often a constraint occurs in a bag does not depend on the order. -/
theorem amount_perm (h : b.Perm b') (id : ExprId) : b.amount id = b'.amount id := by
  rw [Bag.amount, Bag.amount, h.count_eq]

mutual

/-- The interval of an expression is computed from amounts, so it does not depend on the order. -/
theorem interval_perm (h : b.Perm b') : ∀ e : TripleExpr, e.interval b = e.interval b'
  | .eachOf m es => by rw [interval, interval, intervalOfAll_perm h]
  | .oneOf m es => by rw [interval, interval, intervalOfAny_perm h]
  | .repeated m e c => by
    rw [interval, interval, amount_perm h, isAbsent_perm h, interval_perm h e]
  | .constraint m a v => by rw [interval, interval, amount_perm h]
  | .ref m l => rfl
  | .empty m => rfl

/-- The same for the parts of a group. -/
theorem intervalOfAll_perm (h : b.Perm b') :
    ∀ (es : List TripleExpr) (acc : Cardinality), intervalOfAll b acc es = intervalOfAll b' acc es
  | [], acc => rfl
  | e :: es, acc => by
    rw [intervalOfAll, intervalOfAll, interval_perm h e]
    exact congrArg _ (funext fun i => intervalOfAll_perm h es _)

/-- The same for the alternatives of a choice. -/
theorem intervalOfAny_perm (h : b.Perm b') :
    ∀ (es : List TripleExpr) (acc : Cardinality), intervalOfAny b acc es = intervalOfAny b' acc es
  | [], acc => rfl
  | e :: es, acc => by
    rw [intervalOfAny, intervalOfAny, interval_perm h e]
    exact congrArg _ (funext fun i => intervalOfAny_perm h es _)

end

/-- The order of a bag does not matter. -/
theorem matchesBag_perm (h : b.Perm b') (e : TripleExpr) : e.matchesBag b = e.matchesBag b' := by
  rw [matchesBag, matchesBag, interval_perm h]

end TripleExpr

/-! ### Edges -/

/-- Whether edges fit a form depends on those that the form concerns, in any order. -/
theorem Form.fits_of_perm {V : Term → ShapeExpr → Prop} {extra : List Iri} {f : Form}
    {edges edges' : List Edge}
    (h : (edges.filter f.concerns).Perm (edges'.filter f.concerns)) (hf : f.Fits V extra edges') :
    f.Fits V extra edges := by
  obtain ⟨chosen', hchosen', hbag⟩ := hf
  obtain ⟨chosen, hchosen, hperm⟩ := List.perm_comp_forall₂ h hchosen'
  refine ⟨chosen, hchosen, ?_⟩
  rw [TripleExpr.matchesBag_perm (hperm.filterMap id)]
  exact hbag

namespace Neighbourhood

/-- Removing edges keeps the order of the others. -/
theorem edges_without (n : Neighbourhood) (removed : List Edge) :
    (n.without removed).edges = n.edges.filter fun e => e ∉ removed := by
  have hkeep : ∀ (inverse : Bool) (ts : List Triple),
      (ts.filter fun t => !removed.contains ⟨t, inverse⟩).map (fun t => (⟨t, inverse⟩ : Edge)) =
        (ts.map fun t => (⟨t, inverse⟩ : Edge)).filter fun e => e ∉ removed := by
    intro inverse ts
    rw [List.filter_map]
    refine congrArg _ (List.filter_congr fun t _ => ?_)
    simp
  rw [edges, edges, List.filter_append, ← hkeep, ← hkeep]
  rfl

end Neighbourhood

/-- Two graphs show the same triples around every node, in different orders perhaps. -/
structure GraphView.IsReordering (g g' : GraphView) : Prop where
  outgoing : ∀ n, (g.outgoing n).Perm (g'.outgoing n)
  incoming : ∀ n, (g.incoming n).Perm (g'.incoming n)

/-- Every graph is a reordering of itself. -/
theorem GraphView.IsReordering.refl (g : GraphView) : g.IsReordering g :=
  ⟨fun _ => .refl _, fun _ => .refl _⟩

/-- Graphs with the same triples show them in different orders. -/
theorem Graph.isReordering_view {g g' : Graph} (h : g.triples.Perm g'.triples) :
    g.view.IsReordering g'.view :=
  ⟨fun _ => h.filter _, fun _ => h.filter _⟩

section
variable {g g' : GraphView} (hg : g.IsReordering g')
include hg

/-- The edges around a node in a reordered graph are the same, reordered. Incoming edges are
collected predicate by predicate on both sides. -/
theorem Neighbourhood.collect_perm (node : Term) (inverse : List Iri) :
    (collect g node inverse).edges.Perm (collect g' node inverse).edges := by
  refine ((hg.outgoing node).map _).append (List.Perm.map _ ?_)
  unfold collect
  split
  · exact .refl _
  · exact (hg.incoming node).filter _

end

namespace Scope

variable {a k : Scope} {g g' : GraphView} {node : Term} {inverse : List Iri}

/-- A neighbourhood is what is collected around the node without what is hidden there. As one
filter, though the entries of the scope are taken away one after the other. -/
theorem neighbourhood_edges :
    (a.neighbourhood g node inverse).edges = (Neighbourhood.collect g node inverse).edges.filter
      fun e => ∀ h ∈ a.hidden, h.1 = node → e ∉ h.2 := by
  unfold neighbourhood
  generalize Neighbourhood.collect g node inverse = n
  induction a.hidden generalizing n with
  | nil => simp
  | cons h hs ih =>
    rw [List.foldl_cons, ih]
    by_cases hn : h.1 = node
    · rw [if_pos hn, Neighbourhood.edges_without, List.filter_filter]
      refine List.filter_congr fun e _ => ?_
      rw [← Bool.decide_and, decide_eq_decide, List.forall_mem_cons, and_comm]
      simp [hn]
    · rw [if_neg hn]
      refine List.filter_congr fun e _ => ?_
      rw [decide_eq_decide, List.forall_mem_cons]
      simp [hn]

/-- Nothing that is seen is out of sight for lack of a triple. -/
theorem sees_iff_of_mem {e : Edge} (h : e ∈ (Neighbourhood.collect g node inverse).edges) :
    a.Sees g node e ↔ ∀ h ∈ a.hidden, h.1 = node → e ∉ h.2 := by
  have houter : outermost.Sees g node e :=
    (mem_neighbourhood_iff_sees.1 (neighbourhood_outermost ▸ h)).1
  exact and_iff_right houter.1

/-- Of the edges with a property the same are found in both neighbourhoods, if the same of them are
seen. -/
theorem filter_neighbourhood_perm (hg : g.IsReordering g') {p : Edge → Bool}
    (h : ∀ e, p e = true → (a.Sees g node e ↔ k.Sees g' node e)) :
    ((a.neighbourhood g node inverse).edges.filter p).Perm
      ((k.neighbourhood g' node inverse).edges.filter p) := by
  have hcollect := Neighbourhood.collect_perm hg node inverse
  have hsame : ((Neighbourhood.collect g node inverse).edges.filter fun e =>
        p e && decide (∀ h ∈ a.hidden, h.1 = node → e ∉ h.2)) =
      (Neighbourhood.collect g node inverse).edges.filter fun e =>
        p e && decide (∀ h ∈ k.hidden, h.1 = node → e ∉ h.2) := by
    refine List.filter_congr fun e he => ?_
    cases hp : p e with
    | false => rfl
    | true =>
      rw [Bool.true_and, Bool.true_and, decide_eq_decide, ← sees_iff_of_mem he,
        ← sees_iff_of_mem (hcollect.mem_iff.1 he), h e hp]
  rw [neighbourhood_edges, neighbourhood_edges, List.filter_filter, List.filter_filter, hsame]
  exact hcollect.filter _

end Scope

namespace Setting

variable {σ : Type} {st : Setting σ} {V : Term → ShapeExpr → Prop} {a k : Scope} {node : Term}

/-- Whether a form holds depends on the edges that it concerns and, if it is closed, on the outgoing
edges, not on their order. -/
theorem formHolds_about_iff {g : GraphView} (hg : g.IsReordering st.graph) {f : Form}
    {closed : Bool} {extra : List Iri}
    (h : ∀ e : Edge, f.concerns e = true ∨ closed = true ∧ e.inverse = false →
      (a.Sees g node e ↔ k.Sees st.graph node e)) :
    (st.about g).FormHolds V a node f closed extra ↔ st.FormHolds V k node f closed extra := by
  have hperm := @Scope.filter_neighbourhood_perm a k g st.graph node (f.predicates true) hg
    f.concerns fun e he => h e (.inl he)
  have houtgoing : ∀ (s : Scope) (g' : GraphView) (t : Triple),
      t ∈ (s.neighbourhood g' node (f.predicates true)).outgoing ↔ s.Sees g' node ⟨t, false⟩ := by
    intro s g' t
    have hedge := @Neighbourhood.mem_edges (s.neighbourhood g' node (f.predicates true)) ⟨t, false⟩
    rw [Scope.mem_neighbourhood_iff_sees] at hedge
    simpa using hedge.symm
  refine and_congr (imp_congr_right fun hclosed => forall_congr' fun t => ?_)
    ⟨Form.fits_of_perm hperm.symm, Form.fits_of_perm hperm⟩
  rw [houtgoing, houtgoing]
  exact imp_congr_left (h ⟨t, false⟩ (.inr ⟨hclosed, rfl⟩))

end Setting

end Shex
