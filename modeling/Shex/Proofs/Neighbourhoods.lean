import Shex.Validation.Run

/-!
# The edges that are looked at

What evaluation sees of a node is its edges in the graph without those that are hidden in the scope
(`Scope.Sees`). The neighbourhood that is collected has just these, incoming ones only with the
predicates asked for.
-/

namespace Shex

namespace Neighbourhood

/-- An edge is in a neighbourhood if its triple is, on the side that it is seen from. -/
theorem mem_edges {n : Neighbourhood} {e : Edge} :
    e ∈ n.edges ↔ if e.inverse then e.triple ∈ n.incoming else e.triple ∈ n.outgoing := by
  obtain ⟨t, inverse⟩ := e
  cases inverse <;> simp [edges]

/-- Removing edges removes those and no others. -/
theorem mem_edges_without {n : Neighbourhood} {removed : List Edge} {e : Edge} :
    e ∈ (n.without removed).edges ↔ e ∈ n.edges ∧ e ∉ removed := by
  rw [mem_edges, mem_edges]
  obtain ⟨t, inverse⟩ := e
  cases inverse <;> simp [without]

/-- Removing edges keeps the order of the rest. -/
theorem edges_without_sublist (n : Neighbourhood) (removed : List Edge) :
    (n.without removed).edges.Sublist n.edges :=
  (List.filter_sublist.map _).append (List.filter_sublist.map _)

end Neighbourhood

namespace Scope

variable {scope : Scope} {graph : GraphView} {node : Term} {inverse : List Iri}

/-- The edges of a node that are not hidden from it. -/
def Sees (scope : Scope) (graph : GraphView) (node : Term) (e : Edge) : Prop :=
  (if e.inverse then e.triple ∈ graph.incoming node else e.triple ∈ graph.outgoing node) ∧
    ∀ h ∈ scope.hidden, h.1 = node → e ∉ h.2

instance {e : Edge} : Decidable (scope.Sees graph node e) :=
  inferInstanceAs (Decidable ((if e.inverse then _ else _) ∧ ∀ h ∈ scope.hidden, _))

/-- What is hidden is taken away from the neighbourhood. The scope lists for each entry a node and
edges; only those at the node itself count. -/
theorem mem_neighbourhood {e : Edge} :
    e ∈ (scope.neighbourhood graph node inverse).edges ↔
      e ∈ (Neighbourhood.collect graph node inverse).edges ∧
        ∀ h ∈ scope.hidden, h.1 = node → e ∉ h.2 := by
  unfold neighbourhood
  generalize Neighbourhood.collect graph node inverse = n
  induction scope.hidden generalizing n with
  | nil => simp
  | cons h hs ih =>
    rw [List.foldl_cons, ih, List.forall_mem_cons]
    by_cases hn : h.1 = node
    · rw [if_pos hn, Neighbourhood.mem_edges_without]
      simp [hn, and_assoc]
    · simp [hn]

/-- What is seen around a node is among its triples, outgoing ones before incoming ones, in the
order of the graph. What the form looks for and what is hidden only takes edges away. -/
theorem neighbourhood_edges_sublist :
    (scope.neighbourhood graph node inverse).edges.Sublist
      ((graph.outgoing node).map (⟨·, false⟩) ++ (graph.incoming node).map (⟨·, true⟩)) := by
  have hfold : ∀ (hs : List (Term × List Edge)) (n : Neighbourhood),
      (hs.foldl (fun n h => if h.1 = node then n.without h.2 else n) n).edges.Sublist n.edges := by
    intro hs
    induction hs with
    | nil => exact fun n => List.Sublist.refl _
    | cons h hs ih =>
      intro n
      rw [List.foldl_cons]
      refine (ih _).trans ?_
      split
      · exact n.edges_without_sublist h.2
      · exact List.Sublist.refl _
  refine (hfold scope.hidden _).trans (List.Sublist.append (List.Sublist.refl _) ?_)
  unfold Neighbourhood.collect
  split
  · exact List.nil_sublist _
  · exact List.filter_sublist.map _

/-- The edges that are looked at are those that are seen, incoming ones only with the predicates
asked for. -/
theorem mem_neighbourhood_iff_sees {e : Edge} :
    e ∈ (scope.neighbourhood graph node inverse).edges ↔
      scope.Sees graph node e ∧ (e.inverse = true → e.predicate ∈ inverse) := by
  rw [mem_neighbourhood, Neighbourhood.mem_edges, Sees, and_right_comm]
  refine and_congr_left fun _ => ?_
  obtain ⟨t, b⟩ := e
  cases b
  · simp [Neighbourhood.collect]
  · by_cases hi : inverse = []
    · simp [Neighbourhood.collect, hi]
    · simp [Neighbourhood.collect, hi, Edge.predicate]

end Scope

/-! Settings for examples. -/

/-- `<subject> <predicate> <object>` -/
def link (subject predicate object : String) : Triple :=
  ⟨.iri ⟨subject⟩, ⟨predicate⟩, .resource (.iri ⟨object⟩)⟩

/-- A run about a graph, without handlers. -/
def settingOf (s : Schema) (ts : List Triple) : Setting Unit where
  validator := ⟨s, .ofSchema s, fun _ => s.freshId, .standard⟩
  limits := .standard
  handlers := .empty
  graph := (Graph.ofList ts).view

end Shex
