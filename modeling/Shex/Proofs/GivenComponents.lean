import Shex.Proofs.Components

/-!
# Components that are given

The components of a graph can also be given from outside, in any order, and be searched for cycles
(`LabelGraph.firstCycleBy`, `LabelGraph.negativeCycleBy`). Since cyclic components are sorted by
where their labels were mentioned first, the order in which they are given does not matter, and what
is found is what is found by reachability. `LabelGraph.cycles_exact` says what that is for a graph
that any sequence of calls has made.
-/

namespace Shex

open Relation

namespace LabelGraph

variable {g : LabelGraph} {calls : List Call} {a b : Label}

/-- The lists are the components of the graph, in any order: every node is in one of them, once, and
two nodes are in the same one if each can be reached from the other. -/
structure AreComponents (g : LabelGraph) (comps : List (List Label)) : Prop where
  perm : comps.flatten.Perm g.nodes.keys
  ne_nil : ∀ c ∈ comps, c ≠ []
  mem_iff : ∀ c ∈ comps, ∀ a ∈ c, ∀ b ∈ g.nodes.keys, b ∈ c ↔ g.Mutual a b

/-- A component has a cycle if it has more than one label, or an edge from its only one to
itself. -/
def isCyclic (g : LabelGraph) : List Label → Bool
  | [] => false
  | [a] => (g.edges.get? (a, a)).isSome
  | _ :: _ :: _ => true

/-- The labels of a component in the order of the nodes. -/
def sorted (g : LabelGraph) (c : List Label) : List Label :=
  c.mergeSort fun a b => g.position a ≤ g.position b

/-- Whether a list comes before another one in lexicographic order, or is the same. -/
def lexLe : List Nat → List Nat → Bool
  | [], _ => true
  | _ :: _, [] => false
  | m :: ms, n :: ns => decide (m < n) || decide (m = n) && lexLe ms ns

/-- Of two sequences of places one comes first. With transitivity this is what sorting needs to give
the list in order. -/
theorem lexLe_total : ∀ ms ns : List Nat, (lexLe ms ns || lexLe ns ms) = true
  | [], _ => rfl
  | _ :: _, [] => rfl
  | m :: ms, n :: ns => by
    have := lexLe_total ms ns
    grind [lexLe]

/-- The order of sequences of places is transitive, by induction on the sequences side by side. -/
theorem lexLe_trans : ∀ ks ms ns : List Nat, lexLe ks ms = true → lexLe ms ns = true →
    lexLe ks ns = true
  | [], _, _, _, _ => rfl
  | _ :: _, [], _, h, _ => nomatch h
  | _ :: _, _ :: _, [], _, h => nomatch h
  | k :: ks, m :: ms, n :: ns, h, h' => by
    have := lexLe_trans ks ms ns
    grind [lexLe]

/-- The components with cycles, each of them sorted, and in the order of their places. -/
def cyclicComponents (g : LabelGraph) (comps : List (List Label)) : List (List Label) :=
  ((comps.filter g.isCyclic).map g.sorted).mergeSort fun c c' =>
    lexLe (c.map g.position) (c'.map g.position)

/-- The components come out in the order of their places. Only this is needed of the sort, and not
how it treats equal keys: different components have different first places. -/
theorem pairwise_cyclicComponents {comps : List (List Label)} :
    (g.cyclicComponents comps).Pairwise fun c c' =>
      lexLe (c.map g.position) (c'.map g.position) = true := by
  apply List.pairwise_mergeSort
  · exact fun _ _ _ => lexLe_trans _ _ _
  · exact fun _ _ => lexLe_total _ _

/-- The first of the components with cycles. -/
def firstCycleBy (g : LabelGraph) (comps : List (List Label)) : Option (List Label) :=
  (g.cyclicComponents comps).head?

/-- Two labels are in the same one of the lists. -/
def inSame (cs : List (List Label)) (a b : Label) : Bool :=
  match cs.findIdx? (·.contains a), cs.findIdx? (·.contains b) with
  | some i, some j => i == j
  | _, _ => false

/-- Lists without common members: two labels are in the same list if one of the lists has both. The
test compares the numbers of the lists that the labels are found in. -/
theorem inSame_iff {cs : List (List Label)}
    (hdisjoint : ∀ c ∈ cs, ∀ c' ∈ cs, ∀ x, x ∈ c → x ∈ c' → c = c') :
    inSame cs a b = true ↔ ∃ c ∈ cs, a ∈ c ∧ b ∈ c := by
  have hfind : ∀ {c : List Label} {x : Label}, c ∈ cs → x ∈ c →
      ∃ i, ∃ hi : i < cs.length, cs.findIdx? (·.contains x) = some i ∧ cs[i] = c := by
    intro c x hc hx
    have hany : cs.any (·.contains x) = true :=
      List.any_eq_true.2 ⟨c, hc, List.contains_iff_mem.2 hx⟩
    obtain ⟨i, hi⟩ := Option.isSome_iff_exists.1 (List.findIdx?_isSome.trans hany)
    obtain ⟨hlt, hxi, -⟩ := List.findIdx?_eq_some_iff_getElem.1 hi
    exact ⟨i, hlt, hi, hdisjoint _ (List.getElem_mem hlt) _ hc x (List.contains_iff_mem.1 hxi) hx⟩
  unfold inSame
  constructor
  · intro h
    split at h
    · rename_i i j hi hj
      obtain rfl := beq_iff_eq.1 h
      obtain ⟨hlt, ha, -⟩ := List.findIdx?_eq_some_iff_getElem.1 hi
      obtain ⟨_, hb, -⟩ := List.findIdx?_eq_some_iff_getElem.1 hj
      exact ⟨_, List.getElem_mem hlt, List.contains_iff_mem.1 ha, List.contains_iff_mem.1 hb⟩
    · cases h
  · rintro ⟨c, hc, ha, hb⟩
    obtain ⟨i, hi, hai, rfl⟩ := hfind hc ha
    obtain ⟨j, hj, hbj, hij⟩ := hfind hc hb
    -- Both are the first list that has the label, so neither comes before the other.
    have hle : ¬ j < i := fun hlt => (List.findIdx?_eq_some_iff_getElem.1 hai).2.2 j hlt
      (List.contains_iff_mem.2 (hij ▸ ha))
    have hge : ¬ i < j := fun hlt => (List.findIdx?_eq_some_iff_getElem.1 hbj).2.2 i hlt
      (List.contains_iff_mem.2 hb)
    rw [hai, hbj]
    exact beq_iff_eq.2 (by omega)

/-- The earliest negative edge inside a component with a cycle. -/
def negativeCycleBy (g : LabelGraph) (comps : List (List Label)) : Option (Label × Label) :=
  let cs := g.cyclicComponents comps
  (g.edges.entries.find? fun e => e.2 = .negative && (e.1.1 = e.1.2 || inSame cs e.1.1 e.1.2)).map
    Prod.fst

section
variable {comps : List (List Label)} {c : List Label} (h : g.AreComponents comps)
include h

/-- What is in a component is a node. -/
theorem AreComponents.mem_keys (hc : c ∈ comps) (ha : a ∈ c) : a ∈ g.nodes.keys :=
  h.perm.subset (List.mem_flatten.2 ⟨c, hc, ha⟩)

/-- No component lists a label twice, since the components together list none twice. -/
theorem AreComponents.nodup (hc : c ∈ comps) : c.Nodup :=
  (List.nodup_flatten.1 (h.perm.nodup_iff.2 g.nodes.keys_nodup)).1 c hc

/-- A component has a cycle if one of its labels is on one. With two labels it always does; with one
it does if the label has an edge to itself. -/
theorem AreComponents.isCyclic_iff (hg : g.KnowsEnds) (hc : c ∈ comps) (ha : a ∈ c) :
    g.isCyclic c = true ↔ TransGen g.HasEdge a a := by
  match c, ha with
  | [x], ha =>
    obtain rfl := List.mem_singleton.1 ha
    refine ⟨fun hedge => .single hedge, fun hcycle => ?_⟩
    obtain ⟨y, hedge, hback⟩ := TransGen.head'_iff.1 hcycle
    have hy := (h.mem_iff _ hc a ha y (hg a y hedge).2).2 ⟨.single hedge, hback⟩
    rwa [List.mem_singleton.1 hy] at hedge
  | x :: y :: rest, ha =>
    refine iff_of_true rfl ?_
    have hxy : x ≠ y := fun heq => by simpa [heq] using h.nodup hc
    obtain ⟨b, hb, hne⟩ : ∃ b ∈ x :: y :: rest, b ≠ a := by
      by_cases hx : x = a
      · exact ⟨y, by simp, fun hy => hxy (hx.trans hy.symm)⟩
      · exact ⟨x, by simp, hx⟩
    have hmutual := (h.mem_iff _ hc a ha b (h.mem_keys hc hb)).1 hb
    have hab := (reflTransGen_iff_eq_or_transGen.1 hmutual.1).resolve_left hne
    exact hab.trans_left hmutual.2

/-- A sorted component with a cycle is the component of each of its labels. Both are the nodes that
lead to the label and back, in the order of the nodes. -/
theorem AreComponents.sorted_eq (hg : g.KnowsEnds) (hc : c ∈ comps) (ha : a ∈ c)
    (hcycle : TransGen g.HasEdge a a) : g.sorted c = g.component a := by
  have hperm : (g.sorted c).Perm c := List.mergeSort_perm _ _
  have hcomponent : (g.component a).Pairwise fun x y => g.position x ≤ g.position y :=
    pairwise_component.imp Nat.le_of_lt
  refine List.Perm.eq_of_pairwise (fun x y hx _ hxy hyx => ?_) ?_ hcomponent ?_
  · exact position_inj (h.mem_keys hc (hperm.subset hx)) (Nat.le_antisymm hxy hyx)
  · exact (List.pairwise_mergeSort (by grind) (by grind) c).imp of_decide_eq_true
  · refine hperm.trans ((List.perm_ext_iff_of_nodup (h.nodup hc) ?_).2 fun b => ?_)
    · exact g.nodes.keys_nodup.filter _
    · rw [mem_component_iff hg hcycle]
      refine ⟨fun hb => (h.mem_iff c hc a ha b (h.mem_keys hc hb)).1 hb, fun hb => ?_⟩
      exact (h.mem_iff c hc a ha b (hg.mem_of_transGen (hb.transGen hcycle))).2 hb

/-- After sorting, the components on cycles are those that the library computes label by label.
Single labels stay only with an edge to themselves, which is what being on a cycle means for
them. -/
theorem AreComponents.mem_cyclicComponents_iff (hg : g.KnowsEnds) {c' : List Label} :
    c' ∈ g.cyclicComponents comps ↔ ∃ a, TransGen g.HasEdge a a ∧ c' = g.component a := by
  rw [cyclicComponents, List.mem_mergeSort, List.mem_map]
  constructor
  · rintro ⟨c, hc, rfl⟩
    obtain ⟨hc, hcyclic⟩ := List.mem_filter.1 hc
    obtain ⟨a, ha⟩ := List.exists_mem_of_ne_nil c (h.ne_nil c hc)
    have hcycle := (h.isCyclic_iff hg hc ha).1 hcyclic
    exact ⟨a, hcycle, h.sorted_eq hg hc ha hcycle⟩
  · rintro ⟨a, hcycle, rfl⟩
    obtain ⟨c, hc, ha⟩ := List.mem_flatten.1 (h.perm.symm.subset (hg.mem_of_transGen hcycle))
    exact ⟨c, List.mem_filter.2 ⟨hc, (h.isCyclic_iff hg hc ha).2 hcycle⟩,
      h.sorted_eq hg hc ha hcycle⟩

/-- The first of the components is that of the first label on a cycle: no other one has a label at
an earlier place. -/
theorem AreComponents.firstCycleBy_eq (hg : g.KnowsEnds) :
    g.firstCycleBy comps = g.firstCycle? := by
  have hmem := @AreComponents.mem_cyclicComponents_iff _ _ h hg
  cases hfirst : g.firstCycle? with
  | none =>
    have hnone := (firstCycle?_eq_none_iff hg).1 hfirst
    rw [firstCycleBy, List.head?_eq_none_iff, List.eq_nil_iff_forall_not_mem]
    exact fun c hc => (hmem.1 hc).elim fun a ha => hnone a ha.1
  | some ls =>
    obtain ⟨a, rest, hcycle, rfl, hhead, hmin⟩ := firstCycle?_eq_some hg hfirst
    have hin : g.component a ∈ g.cyclicComponents comps := hmem.2 ⟨a, hcycle, rfl⟩
    have hsorted := @pairwise_cyclicComponents g comps
    rw [firstCycleBy]
    cases hcs : g.cyclicComponents comps with
    | nil =>
      rw [hcs] at hin
      cases hin
    | cons c cs =>
      rw [hcs] at hin hsorted
      rw [List.head?_cons, Option.some.injEq]
      obtain ⟨b, hb, hc⟩ := hmem.1 (hcs ▸ List.mem_cons_self)
      rcases List.mem_cons.1 hin with hin | hin
      · exact hin.symm
      · have hle := (List.pairwise_cons.1 hsorted).1 _ hin
        obtain ⟨b', rest', rfl⟩ :=
          List.exists_cons_of_ne_nil (List.ne_nil_of_mem (hc ▸ mem_component_self hg hb))
        have hmutual : g.Mutual b b' := (mem_component_iff hg hb).1 (hc ▸ List.mem_cons_self)
        have hge : ¬ g.position a < g.position b' := fun hlt => by
          rw [hhead, List.map_cons, List.map_cons, lexLe, Bool.or_eq_true, Bool.and_eq_true,
            decide_eq_true_eq, decide_eq_true_eq] at hle
          omega
        obtain rfl := (hmin b' (hmutual.transGen hb)).resolve_right fun hafter =>
          hge (List.pairwise_iff_forall_sublist.1 pairwise_position hafter)
        rw [hc, component_eq hb hmutual]

/-- The look-up of an edge in the given components finds what reachability finds: both ends are in
one component if the target leads back to the source. -/
theorem AreComponents.negativeCycleBy_eq (hg : g.KnowsEnds) :
    g.negativeCycleBy comps = g.negativeCycle? := by
  have hmem := @AreComponents.mem_cyclicComponents_iff _ _ h hg
  have hdisjoint : ∀ c ∈ g.cyclicComponents comps, ∀ c' ∈ g.cyclicComponents comps, ∀ x,
      x ∈ c → x ∈ c' → c = c' := by
    intro c hc c' hc' x hx hx'
    obtain ⟨a, ha, rfl⟩ := hmem.1 hc
    obtain ⟨b, hb, rfl⟩ := hmem.1 hc'
    rw [component_eq ha ((mem_component_iff hg ha).1 hx),
      component_eq hb ((mem_component_iff hg hb).1 hx')]
  unfold negativeCycleBy negativeCycle?
  refine congrArg (Option.map Prod.fst) (List.find?_congr ?_)
  rintro ⟨⟨a, b⟩, p⟩ hentry
  have hedge : g.HasEdge a b := by
    rw [HasEdge, g.edges.get?_eq_some_iff.2 hentry]
    rfl
  suffices hback :
      (a = b ∨ inSame (g.cyclicComponents comps) a b = true) ↔ TransGen g.HasEdge b a by
    rw [Bool.eq_iff_iff]
    simp only [Bool.and_eq_true, decide_eq_true_eq, Bool.or_eq_true, reaches_iff, hback]
  rw [inSame_iff hdisjoint]
  constructor
  · rintro (rfl | ⟨c, hc, ha, hb⟩)
    · exact .single hedge
    · obtain ⟨x, hx, rfl⟩ := hmem.1 hc
      have hba := (((mem_component_iff hg hx).1 ha).symm.trans ((mem_component_iff hg hx).1 hb)).2
      rcases reflTransGen_iff_eq_or_transGen.1 hba with rfl | hba
      · exact .single hedge
      · exact hba
  · intro hback
    have hcycle : TransGen g.HasEdge a a := .head hedge hback
    have hmutual : g.Mutual a b := ⟨.single hedge, hback.to_reflTransGen⟩
    exact .inr ⟨_, hmem.2 ⟨a, hcycle, rfl⟩, mem_component_self hg hcycle,
      (mem_component_iff hg hcycle).2 hmutual⟩

end

/-! ### What is found in a graph that calls have made -/

/-- The edge relation of the graph that calls make, as a relation. -/
theorem hasEdge_ofCalls_eq : (ofCalls calls).HasEdge = Adds calls :=
  funext₂ fun _ _ => propext hasEdge_ofCalls

/-- Ways through the graph are ways along added edges. -/
theorem transGen_ofCalls : TransGen (ofCalls calls).HasEdge a b ↔ TransGen (Adds calls) a b := by
  rw [hasEdge_ofCalls_eq]

/-- Being mutually reachable, in terms of added edges. -/
theorem mutual_ofCalls : (ofCalls calls).Mutual a b ↔
    ReflTransGen (Adds calls) a b ∧ ReflTransGen (Adds calls) b a := by
  rw [Mutual, hasEdge_ofCalls_eq]

/-- An edge and a way from its end to its start make a cycle. -/
theorem transGen_iff_of_adds {p : Polarity} (h : .edge a b p ∈ calls) :
    TransGen (ofCalls calls).HasEdge b a ↔ ReflTransGen (Adds calls) b a := by
  rw [transGen_ofCalls]
  refine ⟨TransGen.to_reflTransGen, fun hback => ?_⟩
  rcases reflTransGen_iff_eq_or_transGen.1 hback with rfl | hback
  · exact .single ⟨p, h⟩
  · exact hback

/-- A graph that calls have made is refused for its cycles exactly if a label leads back to itself.
The fault lists the labels that are mutually reachable with the first mentioned one among those, in
the order of their first mentions. The graph is refused for negative cycles exactly if the end of an
edge that was added as a negative one leads back to its start. Searching the components gives the
same answers. -/
theorem cycles_exact (calls : List Call) {comps : List (List Label)}
    (h : (ofCalls calls).AreComponents comps) :
    (Schema.rejectCycles (ofCalls calls) = .ok () ↔ ∀ a, ¬ TransGen (Adds calls) a a) ∧
    (∀ fault, Schema.rejectCycles (ofCalls calls) = .error fault →
      ∃ a ls, fault = .cyclicReference ls ∧ TransGen (Adds calls) a a ∧
        (∀ b, TransGen (Adds calls) b b → (mentions calls).idxOf a ≤ (mentions calls).idxOf b) ∧
        (∀ b, b ∈ ls ↔ ReflTransGen (Adds calls) a b ∧ ReflTransGen (Adds calls) b a) ∧
        ls.Pairwise fun b c => (mentions calls).idxOf b < (mentions calls).idxOf c) ∧
    (rejectNegativeCycles (ofCalls calls) = .ok () ↔
      ∀ a b, .edge a b .negative ∈ calls → ¬ ReflTransGen (Adds calls) b a) ∧
    (∀ fault, rejectNegativeCycles (ofCalls calls) = .error fault →
      ∃ a b, fault = .unstratifiedNegation a b ∧ .edge a b .negative ∈ calls ∧
        ReflTransGen (Adds calls) b a) ∧
    (ofCalls calls).firstCycleBy comps = (ofCalls calls).firstCycle? ∧
    (ofCalls calls).negativeCycleBy comps = (ofCalls calls).negativeCycle? := by
  have hg := @knowsEnds_ofCalls calls
  have hmentions := (@listsMentions_ofCalls calls).pairwise
  refine ⟨?_, ?_, ?_, ?_, h.firstCycleBy_eq hg, h.negativeCycleBy_eq hg⟩
  · rw [rejectCycles_eq_ok_iff, firstCycle?_eq_none_iff hg]
    exact forall_congr' fun a => not_congr transGen_ofCalls
  · intro fault hfault
    obtain ⟨ls, hfirst, rfl⟩ := rejectCycles_eq_error_iff.1 hfault
    obtain ⟨a, rest, hcycle, rfl, -, hmin⟩ := firstCycle?_eq_some hg hfirst
    refine ⟨a, _, rfl, transGen_ofCalls.1 hcycle, fun b hb => ?_,
      fun b => (mem_component_iff hg hcycle).trans mutual_ofCalls, hmentions.filter _⟩
    rcases hmin b (transGen_ofCalls.2 hb) with rfl | hafter
    · exact Nat.le_refl _
    · exact Nat.le_of_lt (List.pairwise_iff_forall_sublist.1 hmentions hafter)
  · rw [rejectNegativeCycles_eq_ok_iff, negativeCycle?_eq_none_iff]
    refine forall₂_congr fun a b => ?_
    rw [hasNegative_ofCalls]
    exact imp_congr_right fun hedge => not_congr (transGen_iff_of_adds hedge)
  · intro fault hfault
    obtain ⟨a, b, hfound, rfl⟩ := rejectNegativeCycles_eq_error_iff.1 hfault
    obtain ⟨hneg, hback⟩ := of_negativeCycle?_eq_some hfound
    have hedge := hasNegative_ofCalls.1 hneg
    exact ⟨a, b, rfl, hedge, (transGen_iff_of_adds hedge).1 hback⟩

/-! ### Examples -/

/-- Reachability is decided by searching. -/
theorem mutual_iff_reaches : g.Mutual a b ↔
    (b = a ∨ g.reaches a b = true) ∧ (a = b ∨ g.reaches b a = true) := by
  rw [Mutual, reflTransGen_iff_eq_or_transGen, reflTransGen_iff_eq_or_transGen, reaches_iff,
    reaches_iff]

/-- A cycle of two labels, where one edge is added with both signs, behind a label on no cycle. -/
def twoOnCycle : List Call :=
  [.edge (.iri ⟨"A"⟩) (.iri ⟨"B"⟩) .positive, .edge (.iri ⟨"B"⟩) (.iri ⟨"C"⟩) .negative,
    .node (.iri ⟨"D"⟩), .edge (.iri ⟨"C"⟩) (.iri ⟨"B"⟩) .positive,
    .edge (.iri ⟨"B"⟩) (.iri ⟨"C"⟩) .positive]

/-- The components can be given in any order. -/
theorem twoOnCycle_components : (ofCalls twoOnCycle).AreComponents
    [[.iri ⟨"C"⟩, .iri ⟨"B"⟩], [.iri ⟨"A"⟩], [.iri ⟨"D"⟩]] where
  perm := by decide
  ne_nil := by decide
  mem_iff := by
    simp only [mutual_iff_reaches]
    decide

/-- The two labels are listed in the order in which they were mentioned, and not in the order in
which the given component lists them. The negative edge is the one between them. -/
theorem twoOnCycle_refused :
    Schema.rejectCycles (ofCalls twoOnCycle) =
      .error (.cyclicReference [.iri ⟨"B"⟩, .iri ⟨"C"⟩]) ∧
    rejectNegativeCycles (ofCalls twoOnCycle) =
      .error (.unstratifiedNegation (.iri ⟨"B"⟩) (.iri ⟨"C"⟩)) ∧
    (ofCalls twoOnCycle).firstCycleBy [[.iri ⟨"C"⟩, .iri ⟨"B"⟩], [.iri ⟨"A"⟩], [.iri ⟨"D"⟩]] =
      some [.iri ⟨"B"⟩, .iri ⟨"C"⟩] ∧
    ∃ a, TransGen (Adds twoOnCycle) a a := by
  have h := cycles_exact twoOnCycle twoOnCycle_components
  refine ⟨by decide, by decide, ?_, ?_⟩
  · rw [h.2.2.2.2.1]
    decide
  · obtain ⟨a, _, -, hcycle, -⟩ := h.2.1 (.cyclicReference [.iri ⟨"B"⟩, .iri ⟨"C"⟩]) (by decide)
    exact ⟨a, hcycle⟩

end LabelGraph

end Shex
