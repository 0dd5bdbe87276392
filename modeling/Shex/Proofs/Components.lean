import Mathlib.Data.List.Find
import Mathlib.Data.List.Induction
import Shex.Proofs.Reachability
import Shex.Wellformed.Cycles
import Shex.Wellformed.Stratification

/-!
# Cycles and components

What is said of a graph of labels in terms of the calls that made it (`LabelGraph.ofCalls`): which
edges it has, and in which order its nodes were mentioned. Labels that lead to each other are in one
component. The first cycle is found exactly if a label leads back to itself, and it is the
component of the label that was mentioned first among those
(`LabelGraph.firstCycle?_eq_some`); a negative cycle is found exactly if the end of a negative edge
leads back to its start (`LabelGraph.negativeCycle?_eq_none_iff`).
-/

namespace Shex

open Relation

namespace LabelGraph

/-! ### Calls -/

/-- What is added to a graph by one call. -/
inductive Call where
  | node (a : Label)
  | edge (a b : Label) (p : Polarity)
deriving DecidableEq

/-- The labels that a call mentions, in the order in which they become nodes. -/
def Call.labels : Call → List Label
  | node a => [a]
  | edge a b _ => [a, b]

/-- The graph after a call. -/
def call (g : LabelGraph) : Call → LabelGraph
  | .node a => g.addNode a
  | .edge a b p => g.addEdge a b p

/-- The graph that calls make of the empty one. -/
def ofCalls (calls : List Call) : LabelGraph := calls.foldl call .empty

/-- The labels that are mentioned, in order. -/
def mentions (calls : List Call) : List Label := calls.flatMap Call.labels

/-- One of the calls adds an edge between two labels. -/
def Adds (calls : List Call) (a b : Label) : Prop := ∃ p, .edge a b p ∈ calls

/-- The graph of one more call. Calls are added at the end, so the inductions below go by the last
call. -/
theorem ofCalls_append {calls : List Call} {c : Call} :
    ofCalls (calls ++ [c]) = (ofCalls calls).call c := by
  rw [ofCalls, ofCalls, List.foldl_append, List.foldl_cons, List.foldl_nil]

variable {g : LabelGraph} {calls : List Call} {a b : Label}

/-- The edges are those that some call adds. No call takes an edge away, whatever comes after it;
the induction goes by the last call. -/
theorem hasEdge_ofCalls : (ofCalls calls).HasEdge a b ↔ Adds calls a b := by
  induction calls using List.reverseRecOn with
  | nil => simp [Adds, ofCalls, HasEdge, empty, Table.get?, Table.empty, Table.lookupEntry]
  | append_singleton calls c ih =>
    rw [ofCalls_append]
    cases c with
    | node x =>
      refine ih.trans (exists_congr fun p => ?_)
      simp
    | edge x y q =>
      rw [call, hasEdge_addEdge, ih, Adds, Adds]
      simp only [List.mem_append, List.mem_singleton, Call.edge.injEq, exists_or]
      grind

/-- The negative edges are those that some call adds as negative: a later positive call for the same
edge does not undo it, and an earlier one does not prevent it. -/
theorem hasNegative_ofCalls :
    (ofCalls calls).HasNegative a b ↔ .edge a b .negative ∈ calls := by
  induction calls using List.reverseRecOn with
  | nil => simp [ofCalls, HasNegative, empty, Table.get?, Table.empty, Table.lookupEntry]
  | append_singleton calls c ih =>
    rw [ofCalls_append]
    cases c with
    | node x =>
      refine ih.trans ?_
      simp
    | edge x y q =>
      rw [call, hasNegative_addEdge, ih]
      simp only [List.mem_append, List.mem_singleton, Call.edge.injEq]
      grind

/-- The graphs of a schema are made by such calls. -/
theorem ofDependencies_eq_ofCalls {δ : Type} (deps : δ → List (Label × Polarity))
    (es : List (Label × δ)) :
    ofDependencies deps es =
      ofCalls (es.flatMap fun e => .node e.1 :: (deps e.2).map fun b => .edge e.1 b.1 b.2) := by
  rw [ofDependencies, ofCalls, List.foldl_flatMap]
  simp only [List.foldl_cons, List.foldl_map]
  rfl

/-- The nodes are the labels that are mentioned, in the order of their first mentions. -/
structure ListsMentions (keys mentions : List Label) : Prop where
  mem_iff : ∀ a, a ∈ keys ↔ a ∈ mentions
  pairwise : keys.Pairwise fun a b => mentions.idxOf a < mentions.idxOf b

/-- One more mention keeps the order: a label that is known stays at its first mention, a new one
comes after all others. Both follow from the index of a first occurrence in a longer list. -/
theorem ListsMentions.insert {t : Table Label Unit} {ms : List Label}
    (h : ListsMentions t.keys ms) (a : Label) : ListsMentions (t.insert a ()).keys (ms ++ [a]) := by
  have hold : t.keys.Pairwise fun x y => (ms ++ [a]).idxOf x < (ms ++ [a]).idxOf y := by
    refine h.pairwise.imp_of_mem fun {x y} hx hy hlt => ?_
    rwa [List.idxOf_append_of_mem ((h.mem_iff x).1 hx),
      List.idxOf_append_of_mem ((h.mem_iff y).1 hy)]
  refine ⟨fun x => ?_, ?_⟩
  · rw [Table.mem_keys_insert, h.mem_iff, List.mem_append, List.mem_singleton]
  · rw [Table.keys_insert]
    split
    · exact hold
    · rename_i hnew
      refine List.pairwise_append.2 ⟨hold, List.pairwise_singleton _ _, fun x hx y hy => ?_⟩
      rw [List.mem_singleton.1 hy, List.idxOf_append_of_mem ((h.mem_iff x).1 hx),
        List.idxOf_append_of_notMem fun hmem => hnew ((h.mem_iff a).2 hmem)]
      have := List.idxOf_lt_length_of_mem ((h.mem_iff x).1 hx)
      omega

/-- The nodes of the graph are what the calls mention, in the order of first mentions. An edge
mentions its source before its target. -/
theorem listsMentions_ofCalls : ListsMentions (ofCalls calls).nodes.keys (mentions calls) := by
  induction calls using List.reverseRecOn with
  | nil => exact ⟨fun _ => Iff.rfl, List.Pairwise.nil⟩
  | append_singleton calls c ih =>
    rw [ofCalls_append, mentions, List.flatMap_append, List.flatMap_singleton]
    cases c with
    | node x => exact ih.insert x
    | edge x y q =>
      have := (ih.insert x).insert y
      rwa [List.append_assoc] at this

/-! ### Components -/

/-- Each of two labels can be reached from the other. -/
def Mutual (g : LabelGraph) (a b : Label) : Prop :=
  ReflTransGen g.HasEdge a b ∧ ReflTransGen g.HasEdge b a

/-- Every label at an edge is a node. -/
def KnowsEnds (g : LabelGraph) : Prop :=
  ∀ a b, g.HasEdge a b → a ∈ g.nodes.keys ∧ b ∈ g.nodes.keys

/-- Whatever the calls are, both ends of an edge are nodes, since the call that adds the edge
mentions both. -/
theorem knowsEnds_ofCalls : (ofCalls calls).KnowsEnds := by
  intro a b h
  obtain ⟨p, hp⟩ := hasEdge_ofCalls.1 h
  have hmentioned : ∀ c ∈ [a, b], c ∈ (ofCalls calls).nodes.keys := fun c hc =>
    (listsMentions_ofCalls.mem_iff c).2 (List.mem_flatMap.2 ⟨_, hp, hc⟩)
  exact ⟨hmentioned a (.head _), hmentioned b (.tail _ (.head _))⟩

/-- Where a way begins there is an edge, so its first label is a node. -/
theorem KnowsEnds.mem_of_transGen (hg : g.KnowsEnds) (h : TransGen g.HasEdge a b) :
    a ∈ g.nodes.keys := by
  obtain ⟨c, hac, -⟩ := TransGen.head'_iff.1 h
  exact (hg a c hac).1

/-- A label on a cycle and another one are mutually reachable if each reaches the other by one or
more edges. -/
theorem mutual_iff_transGen (ha : TransGen g.HasEdge a a) :
    g.Mutual a b ↔ TransGen g.HasEdge a b ∧ TransGen g.HasEdge b a :=
  ⟨fun h => ⟨ha.trans_left h.1, .trans_right h.2 ha⟩,
    fun h => ⟨h.1.to_reflTransGen, h.2.to_reflTransGen⟩⟩

/-- The two ways are exchanged. -/
theorem Mutual.symm (h : g.Mutual a b) : g.Mutual b a := ⟨h.2, h.1⟩

/-- Ways are put one after the other, in both directions. -/
theorem Mutual.trans {c : Label} (h : g.Mutual a b) (h' : g.Mutual b c) : g.Mutual a c :=
  ⟨h.1.trans h'.1, h'.2.trans h.2⟩

/-- A label that is mutually reachable with one on a cycle is on a cycle. -/
theorem Mutual.transGen (h : g.Mutual a b) (ha : TransGen g.HasEdge a a) : TransGen g.HasEdge b b :=
  .trans_right h.2 (ha.trans_left h.1)

/-- The component of a label on a cycle has what is mutually reachable with the label. -/
theorem mem_component_iff (hg : g.KnowsEnds) (ha : TransGen g.HasEdge a a) :
    b ∈ g.component a ↔ g.Mutual a b := by
  rw [component, List.mem_filter, Bool.and_eq_true, reaches_iff, reaches_iff,
    mutual_iff_transGen ha]
  exact and_iff_right_of_imp fun h => hg.mem_of_transGen h.2

/-- A label on a cycle is in its own component, by the two empty ways. -/
theorem mem_component_self (hg : g.KnowsEnds) (ha : TransGen g.HasEdge a a) :
    a ∈ g.component a := (mem_component_iff hg ha).2 ⟨.refl, .refl⟩

/-- Mutually reachable labels have the same component. -/
theorem component_eq (ha : TransGen g.HasEdge a a) (h : g.Mutual a b) :
    g.component a = g.component b := by
  refine List.filter_congr fun c _ => ?_
  rw [Bool.eq_iff_iff, Bool.and_eq_true, Bool.and_eq_true, reaches_iff, reaches_iff, reaches_iff,
    reaches_iff, ← mutual_iff_transGen ha, ← mutual_iff_transGen (h.transGen ha)]
  exact ⟨h.symm.trans, h.trans⟩

/-- The place of a label among the nodes. -/
def position (g : LabelGraph) (a : Label) : Nat := g.nodes.keys.idxOf a

/-- Nodes come in the order of their places, since none is listed twice. -/
theorem pairwise_position :
    g.nodes.keys.Pairwise fun a b => g.position a < g.position b := by
  have hnodup : g.nodes.keys.Nodup := g.nodes.keys_nodup
  rw [List.pairwise_iff_getElem]
  intro i j hi hj hij
  rwa [position, position, hnodup.idxOf_getElem, hnodup.idxOf_getElem]

/-- A node is determined by its place. -/
theorem position_inj (ha : a ∈ g.nodes.keys) (h : g.position a = g.position b) : a = b :=
  (List.idxOf_inj ha).1 h

/-- A component is listed in the order of the nodes, being cut out of them by a filter. -/
theorem pairwise_component : (g.component a).Pairwise fun b c => g.position b < g.position c :=
  pairwise_position.filter _

/-- The first cycle is the component of the first label on a cycle: all others come after it. The
labels before it are on no cycle, so none of them is in its component, and the component begins with
the label itself. -/
theorem firstCycle?_eq_some (hg : g.KnowsEnds) {ls : List Label} (h : g.firstCycle? = some ls) :
    ∃ a rest, TransGen g.HasEdge a a ∧ ls = g.component a ∧ g.component a = a :: rest ∧
      ∀ b, TransGen g.HasEdge b b → b = a ∨ [a, b].Sublist g.nodes.keys := by
  rw [firstCycle?, Option.map_eq_some_iff] at h
  obtain ⟨a, hfind, rfl⟩ := h
  obtain ⟨ha, before, after, hkeys, hbefore⟩ := List.find?_eq_some_iff_append.1 hfind
  have hcycle := reaches_iff.1 ha
  have hnone : ∀ b ∈ before, ¬ TransGen g.HasEdge b b := fun b hb hb' => by
    simpa [reaches_iff.2 hb'] using hbefore b hb
  have hskip : before.filter (fun b => g.reaches a b && g.reaches b a) = [] := by
    refine List.filter_eq_nil_iff.2 fun b hb hmutual => hnone b hb ?_
    rw [Bool.and_eq_true, reaches_iff, reaches_iff] at hmutual
    exact hmutual.2.trans hmutual.1
  have hhead : g.component a = a :: after.filter fun b => g.reaches a b && g.reaches b a := by
    rw [component, hkeys, List.filter_append, hskip, List.nil_append,
      List.filter_cons_of_pos (by rw [ha]; rfl)]
  refine ⟨a, _, hcycle, rfl, hhead, fun b hb => ?_⟩
  have hmem := hg.mem_of_transGen hb
  rw [hkeys] at hmem ⊢
  rcases List.mem_append.1 hmem with hmem | hmem
  · exact absurd hb (hnone b hmem)
  · refine (List.mem_cons.1 hmem).imp_right fun hmem => ?_
    exact List.sublist_append_of_sublist_right ((List.singleton_sublist.2 hmem).cons_cons a)

/-- No cycle is found exactly if no label leads back to itself: the search tries every node, and a
label on a cycle is one. -/
theorem firstCycle?_eq_none_iff (hg : g.KnowsEnds) :
    g.firstCycle? = none ↔ ∀ a, ¬ TransGen g.HasEdge a a := by
  constructor
  · exact not_transGen_of_firstCycle?_eq_none fun a b h => (hg a b h).1
  · intro h
    rw [firstCycle?, Option.map_eq_none_iff, List.find?_eq_none]
    exact fun a _ ha => h a (reaches_iff.1 ha)

/-- What is reported is a negative edge whose end leads back to its start. -/
theorem of_negativeCycle?_eq_some (h : g.negativeCycle? = some (a, b)) :
    g.HasNegative a b ∧ TransGen g.HasEdge b a := by
  rw [negativeCycle?, Option.map_eq_some_iff] at h
  obtain ⟨⟨⟨a, b⟩, p⟩, hfind, ⟨⟩⟩ := h
  have hfound := List.find?_some hfind
  rw [Bool.and_eq_true, decide_eq_true_eq] at hfound
  obtain ⟨rfl, hback⟩ := hfound
  exact ⟨g.edges.get?_eq_some_iff.2 (List.mem_of_find?_eq_some hfind), reaches_iff.1 hback⟩

/-- Nothing is reported exactly if no negative edge is on a cycle. No end of an edge has to be known
here, since the search runs over the edges and not over the nodes. -/
theorem negativeCycle?_eq_none_iff :
    g.negativeCycle? = none ↔ ∀ a b, g.HasNegative a b → ¬ TransGen g.HasEdge b a := by
  refine ⟨fun h a b => not_transGen_of_negativeCycle?_eq_none h, fun h => ?_⟩
  cases hfound : g.negativeCycle? with
  | none => rfl
  | some e =>
    obtain ⟨hneg, hback⟩ := of_negativeCycle?_eq_some hfound
    exact absurd hback (h _ _ hneg)

/-- Refuses a graph with a negative edge on a cycle. -/
def rejectNegativeCycles (g : LabelGraph) : Except SchemaFault Unit :=
  match g.negativeCycle? with
  | some (a, b) => .error (.unstratifiedNegation a b)
  | none => .ok ()

/-- Negation is stratified if the graph of dependencies is not refused. -/
theorem checkStratification_eq (s : Schema) :
    s.checkStratification = rejectNegativeCycles s.dependencyGraph := rfl

section
variable {fault : SchemaFault}

/-- A graph is let through if it has no cycle. -/
theorem rejectCycles_eq_ok_iff : Schema.rejectCycles g = .ok () ↔ g.firstCycle? = none := by
  rw [Schema.rejectCycles]
  cases g.firstCycle? <;> simp

/-- A graph is refused with the component of its first cycle. -/
theorem rejectCycles_eq_error_iff : Schema.rejectCycles g = .error fault ↔
    ∃ ls, g.firstCycle? = some ls ∧ fault = .cyclicReference ls := by
  rw [Schema.rejectCycles]
  cases g.firstCycle? <;> simp [eq_comm]

/-- A graph is let through if it has no negative cycle. -/
theorem rejectNegativeCycles_eq_ok_iff :
    g.rejectNegativeCycles = .ok () ↔ g.negativeCycle? = none := by
  rw [rejectNegativeCycles]
  cases g.negativeCycle? <;> simp

/-- A graph is refused with the first negative edge on a cycle, in the order in which edges were
added. -/
theorem rejectNegativeCycles_eq_error_iff : g.rejectNegativeCycles = .error fault ↔
    ∃ a b, g.negativeCycle? = some (a, b) ∧ fault = .unstratifiedNegation a b := by
  rw [rejectNegativeCycles]
  rcases g.negativeCycle? with _ | ⟨a, b⟩
  · simp
  · simp [eq_comm, and_assoc]

end

end LabelGraph

end Shex
