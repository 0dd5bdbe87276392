import Mathlib.Data.Set.Card
import Shex.Proofs.Parts
import Shex.Proofs.Faults

/-!
# Evaluation comes to an end

How deep evaluations are nested is bounded by the schema and the graph, if no expression is a part
of itself behind references to labelled triple expressions (`Validator.validate_within_bound`): a
step into a part leads to an expression with fewer expressions in it, and each time a label is
entered there is one pair of a node and a label less that is not active. Without the condition
evaluation can go on for ever, since only pairs with labels of shapes are remembered as active
(`endless_at_any_depth`).
-/

namespace Shex

open Relation Run

/-! ### Parts of expressions -/

namespace Schema

variable {s : Schema} {e x : ShapeExpr}

/-- Evaluation can come to an expression: it is within a declaration or the start expression. -/
def Evaluates (s : Schema) (e : ShapeExpr) : Prop :=
  (∃ l d, s.shape? l = some d ∧ s.Within d.expr e) ∨ ∃ x, s.start = some x ∧ s.Within x e

/-- No expression that evaluation can come to is a part of itself. -/
def NeverNests (s : Schema) : Prop := ∀ e, s.Evaluates e → ¬ TransGen s.HasPart e e

/-- How many expressions there are within an expression, without the expression itself. -/
noncomputable def height (s : Schema) (e : ShapeExpr) : Nat := {x | TransGen s.HasPart e x}.ncard

/-- Evaluation can come to a declared expression. -/
theorem evaluates_of_shape? {l : Label} {d : ShapeDecl} (h : s.shape? l = some d) :
    s.Evaluates d.expr := .inl ⟨l, d, h, .refl⟩

/-- Evaluation can come to the start expression. -/
theorem evaluates_of_start (h : s.start = some e) : s.Evaluates e := .inr ⟨e, h, .refl⟩

/-- With an expression, evaluation can come to its parts. -/
theorem Evaluates.of_hasPart (h : s.Evaluates e) (hx : s.HasPart e x) : s.Evaluates x := by
  rcases h with ⟨l, d, hd, hwithin⟩ | ⟨y, hy, hwithin⟩
  · exact .inl ⟨l, d, hd, hwithin.tail hx⟩
  · exact .inr ⟨y, hy, hwithin.tail hx⟩

/-- What evaluation can come to is in the schema. -/
theorem Evaluates.has (h : s.Evaluates e) : s.Has e := by
  rcases h with ⟨l, d, hd, hwithin⟩ | ⟨y, hy, hwithin⟩
  · exact (has_of_shape? hd).of_within hwithin
  · exact (has_of_start hy).of_within hwithin

/-- If no labelled triple expression reaches itself, no expression is a part of itself. -/
theorem neverNests_of_neverReenters (h : s.NeverReenters) : s.NeverNests := by
  intro e _ hcycle
  have hwf : WellFounded (TransGen (flip s.HasPart)) := (wellFounded_hasPart h).transGen
  exact hwf.irrefl.irrefl e (TransGen.swap e e hcycle)

/-- The expressions within an expression of the schema are some of its expressions. -/
theorem Evaluates.finite_parts (h : s.Evaluates e) :
    {x | TransGen s.HasPart e x} ⊆ {x | x ∈ s.expressions} :=
  fun _ hx => has_iff_mem_expressions.1 (h.has.of_within hx.to_reflTransGen)

/-- An expression has no more expressions within it than the schema has. So the height bounds how
many parts of parts are evaluated before a shape reference is. -/
theorem Evaluates.height_le (h : s.Evaluates e) : s.height e ≤ s.expressions.length := by
  classical
  calc s.height e
      ≤ {x | x ∈ s.expressions}.ncard :=
        Set.ncard_le_ncard h.finite_parts (List.finite_toSet _)
    _ = s.expressions.toFinset.card := by rw [← List.coe_toFinset, Set.ncard_coe_finset]
    _ ≤ s.expressions.length := List.toFinset_card_le _

/-- A part has fewer expressions in it. -/
theorem Evaluates.height_lt (hs : s.NeverNests) (h : s.Evaluates e) (hx : s.HasPart e x) :
    s.height x < s.height e := by
  refine Set.ncard_lt_ncard ⟨fun y hy => TransGen.head hx hy, fun hsub => ?_⟩
    ((List.finite_toSet _).subset h.finite_parts)
  exact hs x (h.of_hasPart hx) (hsub (TransGen.single hx))

end Schema

/-! ### Pairs that are not active -/

/-- A graph shows no triples but those of a list. -/
def GraphView.IsWithin (g : GraphView) (ts : List Triple) : Prop :=
  ∀ n, g.outgoing n ⊆ ts ∧ g.incoming n ⊆ ts

/-- The view of a graph shows no triples but those of the graph. -/
theorem Graph.isWithin_view (g : Graph) : g.view.IsWithin g.triples :=
  fun _ => ⟨List.filter_sublist.subset, List.filter_sublist.subset⟩

/-- The nodes of triples. -/
def endsOf (ts : List Triple) : List Term := ts.flatMap fun t => [.resource t.subject, t.object]

/-- Going along an edge that is seen leads to a node of the triples, so evaluation never leaves
finitely many nodes. -/
theorem Scope.Sees.opposite_mem {scope : Scope} {g : GraphView} {ts : List Triple}
    (hg : g.IsWithin ts) {node : Term} {e : Edge} (h : scope.Sees g node e) :
    e.opposite ∈ endsOf ts := by
  obtain ⟨t, inverse⟩ := e
  cases inverse with
  | false => exact List.mem_flatMap.2 ⟨t, (hg node).1 h.1, by simp [Edge.opposite]⟩
  | true => exact List.mem_flatMap.2 ⟨t, (hg node).2 h.1, by simp [Edge.opposite]⟩

namespace Setting

variable {σ : Type} {st : Setting σ} {nodes : List Term}

/-- How many pairs of the nodes and the labels of the schema are not active. -/
def room (st : Setting σ) (nodes : List Term) (active : List (Term × Label)) : Nat :=
  ((nodes.toFinset ×ˢ st.validator.schema.labels.toFinset) \ active.toFinset).card

/-- There are at most as many pairs as nodes and labels make together. -/
theorem room_le (active : List (Term × Label)) :
    st.room nodes active ≤ nodes.length * st.validator.schema.labels.length := by
  calc st.room nodes active
      ≤ (nodes.toFinset ×ˢ st.validator.schema.labels.toFinset).card :=
        Finset.card_le_card Finset.sdiff_subset
    _ = nodes.toFinset.card * st.validator.schema.labels.toFinset.card := Finset.card_product _ _
    _ ≤ nodes.length * st.validator.schema.labels.length :=
        Nat.mul_le_mul (List.toFinset_card_le _) (List.toFinset_card_le _)

/-- A pair that becomes active takes its place. There are only so many pairs of a node that is seen
and a declared label. -/
theorem room_enter {scope : Scope} {node : Term} {l : Label} (hnode : node ∈ nodes)
    (hl : ∃ d, st.validator.schema.shape? l = some d) (hactive : scope.isActive node l = false) :
    st.room nodes (scope.enter node l).active + 1 ≤ st.room nodes scope.active := by
  obtain ⟨d, hd⟩ := hl
  have hlabel : l ∈ st.validator.schema.labels :=
    List.mem_map.2 ⟨(l, d), (Table.get?_eq_some_iff _).1 hd, rfl⟩
  have hnew : (node, l) ∉ scope.active := by
    simpa [Scope.isActive] using hactive
  refine Finset.card_lt_card ⟨fun p hp => ?_, fun hsub => ?_⟩
  · simp only [Finset.mem_sdiff, List.mem_toFinset, Scope.enter, List.mem_cons, not_or] at hp ⊢
    exact ⟨hp.1, hp.2.2⟩
  · have hmem : (node, l) ∈ (nodes.toFinset ×ˢ st.validator.schema.labels.toFinset) \
        scope.active.toFinset := by
      simp [hnode, hlabel, hnew]
    have hgone := hsub hmem
    simp [Scope.enter] at hgone

/-! ### Positions and the depth they need -/

/-- The positions where so many nested evaluations are enough: pairs that are not active can be
entered, and from each of them all expressions be passed. -/
def Spans (st : Setting σ) (nodes : List Term) (depth : Nat) : Position → Prop
  | .expr scope node e => node ∈ nodes ∧ st.validator.schema.Evaluates e ∧
      st.room nodes scope.active * (st.validator.schema.expressions.length + 1) +
        st.validator.schema.height e < depth
  | .label scope node l => node ∈ nodes ∧ (∃ d, st.validator.schema.shape? l = some d) ∧
      st.room nodes scope.active * (st.validator.schema.expressions.length + 1) ≤ depth
  | .entered scope node _ => node ∈ nodes ∧
      (st.room nodes scope.active + 1) * (st.validator.schema.expressions.length + 1) ≤ depth

variable {depth : Nat} {scope : Scope} {node : Term} {step : Step} {q : Position}

/-- What an expression asks for needs less depth. An operand or a value expression is less high; a
reference gives up the height and is left with the room of the active pairs. -/
theorem Spans.step_expr {ts : List Triple} (hacc : st.validator.IsAccepted)
    (hends : st.validator.schema.NeverNests) (hgraph : st.graph.IsWithin ts)
    (hnodes : endsOf ts ⊆ nodes) {e : ShapeExpr}
    (h : st.Spans nodes (depth + 1) (.expr scope node e))
    (hask : st.Asks (.expr scope node e) step q) : st.Spans nodes depth q := by
  obtain ⟨hnode, he, hroom⟩ := h
  have hpart : ∀ x, st.validator.schema.HasPart e x → st.validator.schema.Evaluates x ∧
      st.room nodes scope.active * (st.validator.schema.expressions.length + 1) +
        st.validator.schema.height x < depth := fun x hx => by
    have hlt := he.height_lt hends hx
    exact ⟨he.of_hasPart hx, by omega⟩
  cases hask with
  | and hx => exact ⟨hnode, hpart _ (.and hx)⟩
  | or hx => exact ⟨hnode, hpart _ (.or hx)⟩
  | not => exact ⟨hnode, hpart _ .not⟩
  | ref => exact ⟨hnode, Schema.exists_shape_of_has_ref hacc he.has, by omega⟩
  | value hin hsees => exact ⟨hnodes (hsees.opposite_mem hgraph), hpart _ (.value hin)⟩

/-- What a label asks for needs no more depth, since a pair becomes active. A label whose subtypes
are checked in its place makes two pairs active. -/
theorem Spans.step_label {l : Label} (h : st.Spans nodes depth (.label scope node l))
    (hask : st.Asks (.label scope node l) step q) : st.Spans nodes depth q := by
  obtain ⟨hnode, hl, hroom⟩ := h
  have henter : scope.isActive node l = false →
      (st.room nodes (scope.enter node l).active + 1) *
        (st.validator.schema.expressions.length + 1) ≤ depth := fun hactive =>
    (Nat.mul_le_mul_right _ (room_enter hnode hl hactive)).trans hroom
  cases hask with
  | enter _ _ hactive => exact ⟨hnode, henter hactive⟩
  | subtype _ _ hactive hchild =>
    refine ⟨hnode, ⟨_, (of_mem_concreteSubtypes hchild).1⟩, ?_⟩
    exact (Nat.mul_le_mul_right _ (Nat.le_succ _)).trans (henter hactive)

/-- An entered label leaves depth for any expression. The pair that became active paid for it: one
pair is worth as much depth as there are expressions. -/
theorem Spans.step_entered {ts : List Triple} (hgraph : st.graph.IsWithin ts)
    (hnodes : endsOf ts ⊆ nodes) {l : Label} (h : st.Spans nodes depth (.entered scope node l))
    (hask : st.Asks (.entered scope node l) step q) : st.Spans nodes depth q := by
  obtain ⟨hnode, hroom⟩ := h
  have hexpr : ∀ x, st.validator.schema.Evaluates x → st.validator.schema.Evaluates x ∧
      st.room nodes scope.active * (st.validator.schema.expressions.length + 1) +
        st.validator.schema.height x < depth := fun x hx => by
    have hle := hx.height_le
    rw [Nat.succ_mul] at hroom
    exact ⟨hx, by omega⟩
  cases hask with
  | declared hd _ => exact ⟨hnode, hexpr _ (Schema.evaluates_of_shape? hd)⟩
  | @partValue _ _ _ a d form t _ _ _ _ _ _ hd hform ht hin hsees =>
    have hdecl := Schema.evaluates_of_shape? hd
    obtain ⟨⟨m, hmain⟩, ⟨hexpr', -⟩ | ⟨m', hexpr'⟩⟩ := ShapeExpr.extendable?_eq_some hform
    · rw [hexpr', hmain, ht] at hdecl
      exact ⟨hnodes (hsees.opposite_mem hgraph), hexpr _ (hdecl.of_hasPart (.value hin))⟩
    · rw [hexpr', hmain, ht] at hdecl
      have hshape := hdecl.of_hasPart (.and List.mem_cons_self)
      exact ⟨hnodes (hsees.opposite_mem hgraph), hexpr _ (hshape.of_hasPart (.value hin))⟩
  | @conjunct _ _ _ a d form c _ _ _ hd hform hc =>
    have hdecl := Schema.evaluates_of_shape? hd
    obtain ⟨-, ⟨-, hnil⟩ | ⟨m', hexpr'⟩⟩ := ShapeExpr.extendable?_eq_some hform
    · rw [hnil] at hc
      cases hc
    · rw [hexpr'] at hdecl
      exact ⟨hnode, hexpr _ (hdecl.of_hasPart (.and (List.mem_cons_of_mem _ hc)))⟩

/-- Evaluation does not end because it was nested too deep. By induction on the depth, since every
nested evaluation is asked for where less depth is enough. -/
theorem satisfies_confines_spans {ts : List Triple}
    (hv : st.validator.IsBuilt)
    (hco : st.validator.schema.IsCoherent) (hends : st.validator.schema.NeverNests)
    (hgraph : st.graph.IsWithin ts) (hnodes : endsOf ts ⊆ nodes) (depth : Nat) :
    st.Confines (fun f => ∀ n, f ≠ .limit (.depth n)) (st.Spans nodes depth)
      (st.satisfies depth) := by
  have hacc := hv.accepted
  have hadmits : st.Admits fun f => ∀ n, f ≠ .limit (.depth n) :=
    ⟨fun f hf => hf.2, fun _ _ _ _ _ _ _ => nofun⟩
  induction depth with
  | zero =>
    refine ⟨fun scope node e h => absurd h.2.2 (Nat.not_lt_zero _), fun _ _ _ h => h.2.1,
      fun _ _ _ _ _ => Spans.step_label, fun _ _ _ _ _ => Spans.step_entered hgraph hnodes⟩
  | succ depth ih =>
    refine ⟨fun scope node e h => ?_, fun _ _ _ h => h.2.1, fun _ _ _ _ _ => Spans.step_label,
      fun _ _ _ _ _ => Spans.step_entered hgraph hnodes⟩
    exact satisfies_succ_faults hv hco hadmits ih h.2.1.has fun _ _ =>
      h.step_expr hacc hends hgraph hnodes

end Setting

/-! ### Runs -/

/-- A number of nested evaluations that is enough for the nodes. -/
def Schema.depthBound (s : Schema) (nodes : List Term) : Nat :=
  (nodes.length * s.labels.length + 1) * (s.expressions.length + 1)

/-- A check begins where the bound is enough: no pair is active yet, and no expression is higher
than there are expressions. -/
theorem Setting.Begins.spans {σ : Type} {st : Setting σ} {nodes : List Term} {depth : Nat}
    {node : Term} {selector : Selector} {p : Position} (h : st.Begins node selector p)
    (hnode : node ∈ nodes) (hresolve : resolve st.validator.schema selector = .ok ())
    (hdepth : st.validator.schema.depthBound nodes ≤ depth) : st.Spans nodes depth p := by
  have hposed := h.isPosed hresolve
  have hroom := Nat.mul_le_mul_right (st.validator.schema.expressions.length + 1)
    (@room_le σ st nodes Scope.outermost.active)
  rw [Schema.depthBound, Nat.succ_mul] at hdepth
  cases h with
  | label l => exact ⟨hnode, hposed, by omega⟩
  | start he =>
    have hheight := (Schema.evaluates_of_start he).height_le
    exact ⟨hnode, Schema.evaluates_of_start he, by omega⟩

/-- Evaluation about the triples of a list comes to an end by itself: if as many nested evaluations
are allowed as the bound for the nodes says, the run does not end because of their number. -/
theorem Validator.validate_within_bound {σ : Type} {v : Validator}
    (hv : v.IsBuilt) (hco : v.schema.IsCoherent)
    (hends : v.schema.NeverNests) {graph : GraphView} {ts : List Triple}
    (hgraph : graph.IsWithin ts) (pairs : List (Term × Selector)) {limits : Limits}
    (hdepth : v.schema.depthBound (pairs.map Prod.fst ++ endsOf ts) ≤ limits.depth)
    {memo : Memo} (hmemo : v.Remembers memo) (handlers : Handlers σ) (world : σ) (n : Nat) :
    (v.validate limits handlers graph pairs memo world).1 ≠ .error (.limit (.depth n)) := by
  intro hfault
  let st : Setting σ := ⟨v, limits, handlers, graph⟩
  have hconfines : st.Confines (fun f => ∀ n, f ≠ .limit (.depth n))
      (st.Spans (pairs.map Prod.fst ++ endsOf ts) limits.depth) (st.satisfies limits.depth) :=
    Setting.satisfies_confines_spans hv hco hends hgraph (List.subset_append_right _ _) _
  have hmeets : Meets (fun s => st.KnowsMemo s.memo) (st.run pairs) (fun _ => True)
      fun f => ∀ n, f ≠ .limit (.depth n) := by
    refine Setting.run_faults hv hco ⟨fun f hf => hf.2, fun _ _ _ _ _ _ _ => nofun⟩ hconfines
      fun x hx hresolve p hp => hp.spans ?_ hresolve hdepth
    exact List.mem_append_left _ (List.mem_map.2 ⟨x, hx, rfl⟩)
  exact Setting.fault_of_validate hv hco hmemo hmeets hfault n rfl

/-! ### Examples -/

/-- `<S> { &<T> }` with `$<T> p value` -/
def throughSchema (value : ShapeExpr) : Schema :=
  (Schema.empty.addShape (.iri ⟨"S"⟩)
    ⟨false, .shape ⟨⟨0⟩, []⟩ .plain (some (.ref (.written ⟨⟨1⟩, []⟩) (.iri ⟨"T"⟩)))⟩).addTripleExpr
    (.iri ⟨"T"⟩) (.constraint (.written ⟨⟨2⟩, []⟩) ⟨⟨"p"⟩, false⟩ (some value))

/-- The check of `n` against `<S>` about `n p n`. -/
def checkThrough (value : ShapeExpr) (L : Limits) : Except ValidationFault Report :=
  ((settingOf (throughSchema value) []).validator.validate L .empty
    (Graph.ofList [link "n" "p" "n"]).view [(.resource (.iri ⟨"n"⟩), .label (.iri ⟨"S"⟩))] .empty
    ()).1

/-- For `<S> { &<T> }` with `$<T> p @<S>` twelve nested evaluations are enough. The check comes back
to the pair of `n` and `<S>`, which is active then. -/
theorem through_within_bound :
    (throughSchema (.ref ⟨⟨3⟩, []⟩ (.iri ⟨"S"⟩))).depthBound
        ([.resource (.iri ⟨"n"⟩)] ++ endsOf [link "n" "p" "n"]) = 12 ∧
      ∀ n, checkThrough (.ref ⟨⟨3⟩, []⟩ (.iri ⟨"S"⟩)) ⟨12, none, none, 0, 1⟩ ≠
        .error (.limit (.depth n)) := by
  have hends : (throughSchema (.ref ⟨⟨3⟩, []⟩ (.iri ⟨"S"⟩))).NeverNests := by
    refine Schema.neverNests_of_neverReenters fun l hl => ?_
    obtain ⟨l', ⟨t, ht, hmem⟩, -⟩ := TransGen.head'_iff.1 hl
    have hentry := (Table.get?_eq_some_iff _).1 ht
    obtain ⟨rfl, rfl⟩ := Prod.mk.inj (List.mem_singleton.1 hentry)
    cases hmem
  refine ⟨by decide, fun n => ?_⟩
  exact Validator.validate_within_bound ⟨rfl, rfl⟩
    (Schema.isCoherent_of_nodup (by decide) (by decide)) hends
    (Graph.isWithin_view (Graph.ofList [link "n" "p" "n"]))
    [(.resource (.iri ⟨"n"⟩), .label (.iri ⟨"S"⟩))] (by decide) .nothing .empty () n

/-- `{ &<T> }` -/
def insideT (i j : Nat) : ShapeExpr :=
  .shape ⟨⟨i⟩, []⟩ .plain (some (.ref (.written ⟨⟨j⟩, []⟩) (.iri ⟨"T"⟩)))

/-- A run about `n p n` with `<S> { &<T> }` and `$<T> p { &<T> }`. -/
def endlessSetting (L : Limits) : Setting Unit :=
  { settingOf (throughSchema (insideT 3 4)) [link "n" "p" "n"] with limits := L }

/-- In the example every identity is used once. -/
theorem endlessSchema_isCoherent : (throughSchema (insideT 3 4)).IsCoherent :=
  Schema.isCoherent_of_nodup (by decide) (by decide)

/-- The only constraint of the forms of the two shapes. -/
def endlessConstraint : TripleConstraint :=
  ⟨(TripleMark.written ⟨⟨2⟩, []⟩).copy ⟨5⟩, ⟨⟨"p"⟩, false⟩, some (insideT 3 4)⟩

/-- Evaluation at `n` asks for evaluation at `n` until no more is allowed. No label is entered on
the way, so no active pair ends the recursion, whatever pairs are active. -/
theorem endless_satisfies {L : Limits} (hexpansion : 1 ≤ L.expansion) (depth : Nat) :
    ∀ (active : List (Term × Label)) (label : Option Label) (i j : Nat),
      (throughSchema (insideT 3 4)).Has (insideT i j) →
      Meets (fun s => (endlessSetting L).KnowsForms s.memo)
        ((endlessSetting L).satisfies depth ⟨active, label, []⟩ (.resource (.iri ⟨"n"⟩))
          (insideT i j))
        (fun _ => False) fun f => f = .limit (.depth L.depth) := by
  induction depth with
  | zero => exact fun _ _ _ _ _ => Meets.throw rfl
  | succ depth ih =>
    intro active label i j hhas
    obtain ⟨k, hk⟩ : ∃ k, L.expansion = k + 1 := ⟨L.expansion - 1, by omega⟩
    have hnormal : (TripleExpr.ref (.written ⟨⟨j⟩, []⟩) (.iri ⟨"T"⟩)).normalize
        (throughSchema (insideT 3 4)) L.expansion ⟨5⟩ = .ok
          ⟨.constraint endlessConstraint.mark endlessConstraint.arc endlessConstraint.value,
            []⟩ := by
      rw [hk]
      rfl
    have hform := @Setting.formOf_meets_of Unit (endlessSetting L)
      (fun f => f = .limit (.depth L.depth)) endlessSchema_isCoherent _ _ _ hhas
      fun fault hfault => by
        change (TripleExpr.ref (.written ⟨⟨j⟩, []⟩) (.iri ⟨"T"⟩)).normalize
          (throughSchema (insideT 3 4)) L.expansion ⟨5⟩ = _ at hfault
        rw [hnormal] at hfault
        cases hfault
    rw [Setting.satisfies, insideT, Setting.evaluate, Setting.satisfiesShape_eq]
    refine Meets.bind_of_fails (hform.bind fun f hf => ?_)
    obtain rfl : f = ⟨.constraint endlessConstraint.mark endlessConstraint.arc
        endlessConstraint.value, []⟩ := hf.unique ⟨_, hnormal⟩
    -- The edge of `n` has a constraint with its arc, and its other end is `n` again.
    change Meets _ (((endlessSetting L).matchForm ((endlessSetting L).satisfies depth)
      ⟨active, label, []⟩ (.resource (.iri ⟨"n"⟩)) ⟨[link "n" "p" "n"], []⟩ _ []) >>= _) _ _
    unfold Setting.matchForm findAssignment
    refine Meets.bind_of_fails (Meets.bind_of_fails (Meets.bind_of_fails ?_))
    change Meets _ (List.foldlM _ _ ([⟨link "n" "p" "n", false⟩] : List Edge)) _ _
    rw [List.foldlM_cons]
    refine Meets.bind_of_fails (Meets.bind_of_fails ?_)
    change Meets _ (List.foldlM _ _ [endlessConstraint]) _ _
    rw [List.foldlM_cons]
    refine Meets.bind_of_fails (Meets.bind_of_fails (Meets.bind_of_fails ?_))
    exact ih active label 3 4 (Schema.has_iff_mem_expressions.2 (List.mem_append_right _ (.head _)))

/-- In the schema `<S> { &<T> }` with `$<T> p { &<T> }`, which is accepted, evaluation at `n` does
not come to an end for the graph of the triple `n p n`: however many evaluations may be nested, the
run says that it needs more. -/
theorem endless_at_any_depth :
    (Validator.ofSchema (throughSchema (insideT 3 4)) =
        .ok (settingOf (throughSchema (insideT 3 4)) []).validator ∧
      (throughSchema (insideT 3 4)).IsCoherent ∧
      (Graph.ofList [link "n" "p" "n"]).view.IsWithin [link "n" "p" "n"]) ∧
    ∀ L : Limits, 1 ≤ L.expansion →
      checkThrough (insideT 3 4) L = .error (.limit (.depth L.depth)) := by
  refine ⟨⟨rfl, endlessSchema_isCoherent, Graph.isWithin_view _⟩, fun L hexpansion => ?_⟩
  have hmeets : Meets (fun s => (endlessSetting L).KnowsForms s.memo)
      ((endlessSetting L).run [(.resource (.iri ⟨"n"⟩), .label (.iri ⟨"S"⟩))])
      (fun _ => False) fun f => f = .limit (.depth L.depth) := by
    change Meets _ ((endlessSetting L).runActions [] [] >>= _) _ _
    refine Meets.bind (P := fun b => b = true) (fun _ hs => ⟨hs, rfl⟩) fun b hb => ?_
    subst hb
    change Meets _ (((endlessSetting L).satisfies L.depth _ (.resource (.iri ⟨"n"⟩))
      (insideT 0 1) >>= _) >>= _) _ _
    refine Meets.bind_of_fails (Meets.bind_of_fails ?_)
    exact endless_satisfies hexpansion _ _ _ _ _
      (Schema.has_iff_mem_expressions.2 (List.mem_append_left _ (.head _)))
  have hrun := hmeets ⟨.empty, 0, ()⟩ Setting.knowsForms_empty
  change (((endlessSetting L).run [(.resource (.iri ⟨"n"⟩), .label (.iri ⟨"S"⟩))]).run.run
    ⟨.empty, 0, ()⟩).1 = _
  cases hr : (((endlessSetting L).run [(.resource (.iri ⟨"n"⟩), .label (.iri ⟨"S"⟩))]).run.run
    ⟨.empty, 0, ()⟩).1 with
  | ok report =>
    rw [hr] at hrun
    exact hrun.2.elim
  | error fault =>
    rw [hr] at hrun
    exact congrArg Except.error hrun.2

end Shex
