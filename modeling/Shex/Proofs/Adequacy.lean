import Mathlib.Data.Finset.Basic
import Shex.Proofs.Neighbourhoods
import Shex.Proofs.Shapes

/-!
# Matching is adequate

A shape holds at a node by its declarative meaning (`Schema.ShapeHolds`) if its triple expression
denotes a set of edges of the node, if no other edge has an arc of the expression unless its
predicate is extra, and if a closed shape leaves no other predicate. The main result is
`Setting.satisfiesShape_adequate`: this is what evaluation of the shape finds out, through
normalization, choices and counting.
-/

open scoped Pointwise

namespace Shex

open Run BagLanguage

/-! ### The declarative meaning of a shape -/

/-- The bags of one edge that has the arc of a triple constraint and whose other end meets its value
expression. -/
def edgeAtom (V : Term → ShapeExpr → Prop) : AtomLanguage Edge := fun _ a v =>
  {M | ∃ e, M = {e} ∧ e.arc = a ∧ ∀ x, v = some x → V e.opposite x}

/-- The triple expression of a shape. One without is like one with an empty expression. -/
def Shape.triples (s : Shape) : TripleExpr := s.expression.getD (.empty default)

/-- Some triple constraint of an expression has the arc. -/
def Schema.HasArc (S : Schema) (e : TripleExpr) (a : Arc) : Prop :=
  ∃ via m v, S.Inside via e (.constraint m a v)

/-- The declarative meaning of a shape for a node with the edges `sees`, where `V` says which nodes
meet the value expressions. -/
structure Schema.ShapeHolds (S : Schema) (V : Term → ShapeExpr → Prop) (sees : Edge → Prop)
    (s : Shape) : Prop where
  /-- A closed shape admits only outgoing edges with predicates of its own and extra ones. -/
  closed : s.header.closed = true → ∀ e, sees e → e.inverse = false →
    S.HasArc s.triples e.arc ∨ e.predicate ∈ s.header.extra
  /-- The expression denotes a set of edges, and the edges with its arcs that are not in the set
  have extra predicates. -/
  matched : ∃ M : Finset Edge, (∀ e ∈ M, sees e) ∧ S.Denotes (edgeAtom V) s.triples M.val ∧
    ∀ e, sees e → S.HasArc s.triples e.arc → e ∉ M → e.predicate ∈ s.header.extra

/-! ### Choices and sets of edges -/

namespace Form

variable {V : Term → ShapeExpr → Prop} {extra : List Iri} {f : Form}

/-- The edge can be given to the constraint with the identity. -/
abbrev Admits (V : Term → ShapeExpr → Prop) (f : Form) (e : Edge) (id : ExprId) : Prop :=
  f.Allows V [] e (some id)

/-- A form read as bags of edges is its reading as bags of constraints, with edges that the
constraints admit in their place. -/
theorem language_edgeAtom (hc : f.expr.isCountable = true) (hnd : f.expr.constraintIds.Nodup)
    (target : Label → BagLanguage Edge) :
    f.expr.language (edgeAtom V) target = f.expr.bags.pull (f.Admits V) := by
  refine TripleExpr.language_pull (TripleExpr.refs_of_isCountable hc) fun c hmem => ?_
  have hone : ∀ e, f.Admits V e c.id ↔ c.arc = e.arc ∧ c.Accepts V e.opposite := by
    intro e
    constructor
    · rintro ⟨c', hc', harc, hacc, hid⟩
      obtain rfl := List.inj_on_of_nodup_map hnd hc' hmem hid
      exact ⟨harc, hacc⟩
    · exact fun h => ⟨c, hmem, h.1, h.2, rfl⟩
  ext M
  simp only [edgeAtom, pull, TripleExpr.byIdentity, Set.mem_ofPred_eq, Set.mem_singleton_iff,
    exists_eq_left]
  change _ ↔ Multiset.Rel (f.Admits V) M {c.id}
  rw [← Multiset.cons_zero, Multiset.rel_cons_right]
  constructor
  · rintro ⟨e, rfl, harc, hval⟩
    exact ⟨e, 0, (hone e).2 ⟨harc.symm, hval⟩, .zero, rfl⟩
  · rintro ⟨e, M', he, hrel, rfl⟩
    obtain rfl := Multiset.rel_zero_right.1 hrel
    exact ⟨e, rfl, ((hone e).1 he).1.symm, ((hone e).1 he).2⟩

/-- What is chosen for edges makes a bag of constraints for a part of the edges; the others may be
left out. -/
theorem exists_bag_of_chosen {es : List Edge} {chosen : List (Option ExprId)}
    (h : List.Forall₂ (f.Allows V extra) es chosen) :
    ∃ M : Multiset Edge, M ≤ es ∧ Multiset.Rel (f.Admits V) M ↑(chosen.filterMap id) ∧
      ∀ e ∈ es, e ∉ M → e.predicate ∈ extra := by
  induction h with
  | nil => exact ⟨0, le_rfl, .zero, by simp⟩
  | @cons e o es os ho _ ih =>
    obtain ⟨M, hle, hrel, hrest⟩ := ih
    cases o with
    | none =>
      refine ⟨M, hle.trans (Multiset.le_cons_self _ e), hrel, fun x hx hxM => ?_⟩
      rcases List.mem_cons.1 hx with rfl | hx
      · exact ho
      · exact hrest x hx hxM
    | some i =>
      have he : f.Admits V e i := ho
      refine ⟨e ::ₘ M, (Multiset.cons_le_cons_iff e).2 hle, .cons he hrel, fun x hx hxM => ?_⟩
      rw [Multiset.mem_cons, not_or] at hxM
      exact hrest x ((List.mem_cons.1 hx).resolve_left hxM.1) hxM.2

/-- A bag of constraints for a part of the edges can be made by choices, if the other edges may be
left out. -/
theorem exists_chosen_of_bag {es : List Edge} (hnd : es.Nodup) :
    ∀ {M : Multiset Edge} {B : Multiset ExprId}, M ≤ es → Multiset.Rel (f.Admits V) M B →
      (∀ e ∈ es, e ∉ M → e.predicate ∈ extra) →
      ∃ chosen, List.Forall₂ (f.Allows V extra) es chosen ∧
        (chosen.filterMap id : Multiset ExprId) = B := by
  induction es with
  | nil =>
    intro M B hle hrel _
    obtain rfl := Multiset.le_zero.1 hle
    obtain rfl := Multiset.rel_zero_left.1 hrel
    exact ⟨[], .nil, rfl⟩
  | cons e es ih =>
    intro M B hle hrel hrest
    rw [List.nodup_cons] at hnd
    rw [← Multiset.cons_coe] at hle
    by_cases he : e ∈ M
    · obtain ⟨M, rfl⟩ := Multiset.exists_cons_of_mem he
      obtain ⟨i, B, hi, hrel', rfl⟩ := Multiset.rel_cons_left.1 hrel
      have hle := (Multiset.cons_le_cons_iff e).1 hle
      obtain ⟨chosen, hch, hbag⟩ := ih hnd.2 hle hrel' fun x hx hxM => by
        refine hrest x (List.mem_cons_of_mem _ hx) fun h => ?_
        rcases Multiset.mem_cons.1 h with rfl | h
        · exact hnd.1 hx
        · exact hxM h
      exact ⟨some i :: chosen, .cons hi hch, by rw [← hbag]; rfl⟩
    · have hle := (Multiset.le_cons_of_notMem he).1 hle
      obtain ⟨chosen, hch, hbag⟩ := ih hnd.2 hle hrel fun x hx =>
        hrest x (List.mem_cons_of_mem _ hx)
      exact ⟨none :: chosen, .cons (hrest e (by simp) he) hch, hbag⟩

/-- Edges fit a form if it denotes a part of them that leaves only extra ones. What is chosen for
the edges is read as a bag of edges, and back: since identities are told apart, a part of the edges
determines what is chosen for them. -/
theorem fits_iff (hc : f.expr.isCountable = true) (hnd : f.expr.constraintIds.Nodup)
    (ha : f.expr.avoidsEmpty = true) {edges : List Edge} (hedges : edges.Nodup)
    (hsize : edges.length < UInt32.size) (target : Label → BagLanguage Edge) :
    f.Fits V extra edges ↔ ∃ M : Multiset Edge, M ≤ edges.filter f.concerns ∧
      M ∈ f.expr.language (edgeAtom V) target ∧
      ∀ e ∈ edges.filter f.concerns, e ∉ M → e.predicate ∈ extra := by
  rw [language_edgeAtom hc hnd]
  have hids : ∀ {es : List Edge} {chosen : List (Option ExprId)},
      List.Forall₂ (f.Allows V extra) es chosen →
      ∀ i ∈ chosen.filterMap id, i ∈ f.expr.constraintIds := by
    intro es chosen hch i hi
    obtain ⟨o, ho, rfl⟩ := List.mem_filterMap.1 hi
    induction hch with
    | nil => cases ho
    | cons hallows _ ih =>
      rcases List.mem_cons.1 ho with rfl | ho
      · obtain ⟨c, hc, _, _, hid⟩ := hallows
        exact List.mem_map.2 ⟨c, hc, hid⟩
      · exact ih (List.mem_filterMap.2 ⟨_, ho, rfl⟩) ho
  have hlen : ∀ {chosen : List (Option ExprId)},
      List.Forall₂ (f.Allows V extra) (edges.filter f.concerns) chosen →
      (chosen.filterMap id).length < UInt32.size := by
    intro chosen hch
    have h1 := List.length_filterMap_le id chosen
    have h2 := hch.length_eq
    have h3 := List.length_filter_le f.concerns edges
    omega
  constructor
  · rintro ⟨chosen, hch, hbag⟩
    obtain ⟨M, hle, hrel, hrest⟩ := exists_bag_of_chosen hch
    exact ⟨M, hle, ⟨_, (TripleExpr.matchesBag_iff hc ha hnd (hlen hch) (hids hch)).1 hbag, hrel⟩,
      hrest⟩
  · rintro ⟨M, hle, ⟨B, hB, hrel⟩, hrest⟩
    obtain ⟨chosen, hch, hbag⟩ := exists_chosen_of_bag (hedges.filter _) hle hrel hrest
    refine ⟨chosen, hch, ?_⟩
    rw [TripleExpr.matchesBag_iff hc ha hnd (hlen hch) (hids hch), hbag]
    exact hB

end Form

/-! ### Adequacy -/

namespace Form.Represents

variable {S : Schema} {e : TripleExpr} {f : Form}

/-- The arcs of a form are those of the expression. -/
theorem hasArc_iff (h : f.Represents S e) {a : Arc} :
    S.HasArc e a ↔ ∃ c ∈ f.constraints, c.arc = a := by
  constructor
  · rintro ⟨via, m, v, hin⟩
    obtain ⟨c, hc, _, harc, _⟩ := (h.sources m.source a v).2 ⟨via, m, hin, rfl⟩
    exact ⟨c, hc, harc⟩
  · rintro ⟨c, hc, rfl⟩
    obtain ⟨via, m, hin, _⟩ := (h.sources _ _ _).1 ⟨c, hc, rfl, rfl, rfl⟩
    exact ⟨via, m, _, hin⟩

/-- The predicates of a form are those of the arcs that are met in the expression. -/
theorem mem_predicates_iff (h : f.Represents S e) {inverse : Bool} {p : Iri} :
    p ∈ f.predicates inverse ↔ S.HasArc e ⟨p, inverse⟩ := by
  rw [h.hasArc_iff, mem_predicates]

/-- A form concerns an edge if the expression has its arc somewhere. -/
theorem concerns_iff (h : f.Represents S e) {x : Edge} :
    f.concerns x = true ↔ S.HasArc e x.arc := by
  rw [Form.concerns_iff, h.hasArc_iff]

end Form.Represents

/-- The edge bags of a triple constraint are not empty. -/
theorem zero_notMem_edgeAtom {V : Term → ShapeExpr → Prop} (m : TripleMark) (a : Arc)
    (v : Option ShapeExpr) : 0 ∉ edgeAtom V m a v := by
  rintro ⟨e, h, _⟩
  exact Multiset.cons_ne_zero h.symm

namespace Setting

variable {σ : Type} {st : Setting σ} {V : Term → ShapeExpr → Prop} {scope : Scope} {node : Term}

/-- A shape holds by its form if and only if it holds by its declarative meaning. The form is
replaced by the expression it stands for, and the neighbourhood, which is collected by predicate, by
the edges that are seen. -/
theorem formHolds_iff {s : Shape} {f : Form}
    (hf : f.Represents st.validator.schema s.triples)
    (hempty : st.validator.schema.AvoidsEmpty s.triples) (hout : (st.graph.outgoing node).Nodup)
    (hin : (st.graph.incoming node).Nodup)
    (hsize : (st.graph.outgoing node).length + (st.graph.incoming node).length < UInt32.size) :
    st.FormHolds V scope node f s.header.closed s.header.extra ↔
      st.validator.schema.ShapeHolds V (scope.Sees st.graph node) s := by
  set n := scope.neighbourhood st.graph node (f.predicates true) with hn
  have hsub := @Scope.neighbourhood_edges_sublist scope st.graph node (f.predicates true)
  have hall : ((st.graph.outgoing node).map (Edge.mk · false) ++
      (st.graph.incoming node).map (Edge.mk · true)).Nodup := by
    rw [List.nodup_append]
    refine ⟨hout.map fun a b h => (Edge.mk.inj h).1, hin.map fun a b h => (Edge.mk.inj h).1, ?_⟩
    intro x hx y hy hxy
    obtain ⟨_, _, rfl⟩ := List.mem_map.1 hx
    obtain ⟨_, _, rfl⟩ := List.mem_map.1 hy
    cases hxy
  have hnodup : n.edges.Nodup := hall.sublist hsub
  have hlen : n.edges.length < UInt32.size := by
    have := hsub.length_le
    simp only [List.length_append, List.length_map] at this
    exact Nat.lt_of_le_of_lt this hsize
  have hconcerned : ∀ x, x ∈ n.edges.filter f.concerns ↔
      scope.Sees st.graph node x ∧ st.validator.schema.HasArc s.triples x.arc := by
    intro x
    rw [List.mem_filter, Scope.mem_neighbourhood_iff_sees, hf.concerns_iff]
    refine ⟨fun h => ⟨h.1.1, h.2⟩, fun h => ⟨⟨h.1, fun hx => ?_⟩, h.2⟩⟩
    rw [hf.mem_predicates_iff]
    have : x.arc = ⟨x.predicate, true⟩ := by rw [Edge.arc, hx]
    exact this ▸ h.2
  have hlang : ∀ M, M ∈ f.expr.language (edgeAtom V) (fun _ => ∅) ↔
      st.validator.schema.Denotes (edgeAtom V) s.triples M := fun M => by
    rw [hf.language (fun _ _ _ _ => rfl) zero_notMem_edgeAtom, Schema.mem_language_iff]
  have hfits := @Form.fits_iff V s.header.extra f hf.countable hf.nodup (hf.avoids hempty) _ hnodup
    hlen fun _ => ∅
  have hpredicates : ∀ x : Edge, x.inverse = false →
      (x.predicate ∈ f.predicates false ↔ st.validator.schema.HasArc s.triples x.arc) := by
    intro x hx
    rw [hf.mem_predicates_iff, Edge.arc, hx]
  constructor
  · rintro ⟨hclosed, hF⟩
    refine ⟨fun hc x hsees hx => ?_, ?_⟩
    · have hmem : x ∈ n.edges := Scope.mem_neighbourhood_iff_sees.2 ⟨hsees, by simp [hx]⟩
      rw [Neighbourhood.mem_edges, hx] at hmem
      exact (hclosed hc x.triple hmem).imp_left (hpredicates x hx).1
    · obtain ⟨M, hle, hM, hrest⟩ := hfits.1 hF
      have hmem : ∀ x ∈ M, x ∈ n.edges.filter f.concerns := fun x hx => Multiset.mem_of_le hle hx
      refine ⟨⟨M, Multiset.nodup_of_le hle (hnodup.filter _)⟩, fun x hx => ?_, (hlang M).1 hM, ?_⟩
      · exact ((hconcerned x).1 (hmem x hx)).1
      · exact fun x hsees harc hx => hrest x ((hconcerned x).2 ⟨hsees, harc⟩) hx
  · rintro ⟨hclosed, M, hsees, hM, hrest⟩
    refine ⟨fun hc t ht => ?_, hfits.2 ⟨M.val, ?_, (hlang _).2 hM, fun x hx hxM => ?_⟩⟩
    · have hmem : (⟨t, false⟩ : Edge) ∈ n.edges := Neighbourhood.mem_edges.2 ht
      have := (Scope.mem_neighbourhood_iff_sees.1 hmem).1
      exact (hclosed hc _ this rfl).imp_left (hpredicates ⟨t, false⟩ rfl).2
    · rw [Multiset.le_iff_subset M.nodup]
      intro x hx
      refine (hconcerned x).2 ⟨hsees x hx, ?_⟩
      rw [← hlang, Form.language_edgeAtom hf.countable hf.nodup] at hM
      obtain ⟨B, _, hrel⟩ := hM
      obtain ⟨i, _, c, hc, harc, _⟩ := Multiset.exists_mem_of_rel_of_mem hrel hx
      exact hf.hasArc_iff.2 ⟨c, hc, harc⟩
    · obtain ⟨hx, harc⟩ := (hconcerned x).1 hx
      exact hrest x hx harc hxM

/-- The form of a shape stands for its triple expression. A shape without one is read as a shape
with the empty expression, so that this case needs no rules of its own. -/
theorem IsForm.represents_triples (hacc : st.validator.IsAccepted) {mk : Mark}
    {s : Shape} (hs : st.validator.schema.Has (.shape mk s.header s.expression)) {f : Form}
    (hf : st.IsForm s.expression f) : f.Represents st.validator.schema s.triples := by
  obtain ⟨header, t⟩ := s
  cases t with
  | some e => exact hf.represents hacc hs
  | none =>
    obtain rfl : f = .empty _ := hf
    constructor
    · rfl
    · exact List.nodup_nil
    · intro m a v
      simp [Form.constraints, Form.empty, TripleExpr.constraints, Schema.HasSource, Shape.triples,
        Schema.inside_empty_constraint]
    · exact fun _ => rfl
    · exact fun _ => rfl
    · intro α atom _ _ target
      simp [Form.empty, Shape.triples]

/-- Evaluation of a shape of an accepted schema finds out whether the shape holds at the node by its
declarative meaning, or a bound is not kept. `values` is any evaluation of value expressions whose
verdicts depend on the node and the expression alone. -/
theorem satisfiesShape_adequate {values : Evaluator σ} {mk : Mark} {s : Shape}
    (hacc : st.validator.IsAccepted) (hco : st.validator.schema.IsCoherent)
    (hs : st.validator.schema.Has (.shape mk s.header s.expression))
    (hempty : st.validator.schema.AvoidsEmpty s.triples)
    (hact : st.validator.schema.IsActionFree s.triples)
    (hout : (st.graph.outgoing node).Nodup) (hin : (st.graph.incoming node).Nodup)
    (hsize : (st.graph.outgoing node).length + (st.graph.incoming node).length < UInt32.size)
    (hvalues : ∀ t v, Meets (fun _ => True) (values scope.showAll t v)
      (fun d => d = .conforms ↔ V t v) ValidationFault.IsLimit)
    (r : RunState σ) (hmemo : st.KnowsForms r.memo) :
    match ((st.satisfiesShape values scope node s).run.run r).1 with
    | .ok j => (∃ ts, j = .ok ts) ↔
        st.validator.schema.ShapeHolds V (scope.Sees st.graph node) s
    | .error fault => fault.IsLimit := by
  have hactS : st.validator.schema.IsActionFreeShape s.expression := fun e he => by
    rwa [Shape.triples, he] at hact
  have hrun := formFor_meets hacc hco hs r hmemo
  rw [satisfiesShape_eq, run_bind]
  rcases hr : (st.formFor s.expression).run.run r with ⟨_ | form, r'⟩
  · rw [hr] at hrun
    exact hrun.2
  rw [hr] at hrun
  have hf : st.IsForm s.expression form := hrun.2
  have hiff := @formHolds_iff _ _ V scope _ _ _ (hf.represents_triples hacc hs) hempty hout hin
    hsize
  have hrest : Meets (fun _ => True)
      (do
        return (← st.matchAround values scope node form s.header.closed s.header.extra).map
          Assignment.triples)
      (fun j => (∃ ts, j = .ok ts) ↔
        st.validator.schema.ShapeHolds V (scope.Sees st.graph node) s)
      ValidationFault.IsLimit := by
    refine (matchAround_meets (hf.isMatchable hacc hco hs hactS) (tick_meets fun _ _ _ => trivial)
      fun e _ c _ _ v _ => hvalues e.opposite v).bind fun j hj => Meets.pure ?_
    rw [← hiff]
    cases j with
    | ok a => exact iff_of_true ⟨_, rfl⟩ hj.1
    | error rs => exact iff_of_false (fun ⟨_, h⟩ => by cases h) hj
  have hfinal := (hrest r' trivial).2
  simp only
  split
  · rename_i j hj
    rwa [hj] at hfinal
  · rename_i fault hfault
    rwa [hfault] at hfinal

end Setting

/-! A person with a name and perhaps a mail address. -/

/-- `name . ; mail . ?` -/
def mailShape : Shape :=
  ⟨.plain, some (.eachOf (.written ⟨⟨1⟩, []⟩)
    [.constraint (.written ⟨⟨2⟩, []⟩) ⟨⟨"name"⟩, false⟩ none,
      .repeated (.written ⟨⟨3⟩, []⟩)
        (.constraint (.written ⟨⟨4⟩, []⟩) ⟨⟨"mail"⟩, false⟩ none) .optional])⟩

/-- The schema that declares the shape of persons. -/
def mailSchema : Schema :=
  Schema.empty.addShape (.iri ⟨"Person"⟩)
    ⟨false, .shape ⟨⟨0⟩, []⟩ mailShape.header mailShape.expression⟩

/-- A run about a person with a name. -/
def mailSetting : Setting Unit where
  validator := ⟨mailSchema, .ofSchema mailSchema, fun _ => mailSchema.freshId, .standard⟩
  limits := .standard
  handlers := .empty
  graph := (Graph.ofList [⟨.iri ⟨"ann"⟩, ⟨"name"⟩, .resource (.iri ⟨"Ann"⟩)⟩]).view

/-- In the example nothing has actions, and the only repetitions are optional ones. -/
theorem mailShape_inside {via : List Label} {x : TripleExpr}
    (h : mailSchema.Inside via mailShape.triples x) :
    x.source.actions = [] ∧ ∀ m e c, x = .repeated m e c → c = .optional := by
  unfold mailShape Shape.triples at h
  cases h with
  | self => exact ⟨rfl, nofun⟩
  | eachOf he h =>
    simp only [List.mem_cons, List.not_mem_nil, or_false] at he
    rcases he with rfl | rfl
    · cases h
      exact ⟨rfl, nofun⟩
    · cases h with
      | self => exact ⟨rfl, fun m e c h => by cases h; rfl⟩
      | repeated h =>
        cases h
        exact ⟨rfl, nofun⟩

/-- Evaluation finds out that the person has the shape. The mail and the phone are told by their
predicates, and the second phone is an extra one. -/
theorem mailShape_holds :
    mailSchema.ShapeHolds (fun _ _ => True)
      (Scope.outermost.Sees mailSetting.graph (.resource (.iri ⟨"ann"⟩))) mailShape := by
  have h := @Setting.satisfiesShape_adequate Unit mailSetting (fun _ _ => True) .outermost
    (.resource (.iri ⟨"ann"⟩)) (fun _ _ _ => pure .conforms) ⟨⟨0⟩, []⟩ mailShape rfl
    (Schema.isCoherent_of_nodup (by decide) (by decide))
    (@Schema.has_of_shape? mailSchema (.iri ⟨"Person"⟩)
      ⟨false, .shape ⟨⟨0⟩, []⟩ mailShape.header mailShape.expression⟩ rfl)
    (fun via m x c h => by rw [(mailShape_inside h).2 m x c rfl]; decide)
    (fun via x h => (mailShape_inside h).1) (by decide) (by decide) (by decide)
    (fun _ _ => Run.Meets.pure (by simp)) ⟨.empty, 0, ()⟩ Setting.knowsForms_empty
  exact h.1 ⟨_, rfl⟩

end Shex
