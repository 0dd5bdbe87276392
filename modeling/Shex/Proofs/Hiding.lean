import Shex.Proofs.Neighbourhoods
import Shex.Proofs.Plans

/-!
# What hidden edges change

While the conjuncts of a part of an extending shape are evaluated, the edges of the other parts are
hidden from the node. A subject ignores an arc if no shape that its evaluation comes to at the same
node is closed or has a triple constraint with the arc (`Validator.Ignores`). Edges that are ignored
can be hidden or not: the shape holds as it does when everything is seen
(`Setting.fulfils_iff_of_spares`), and so does the joined form of an extending shape
(`Setting.IsPlan.formHolds_iff_of_spares`).
-/

namespace Shex

open Run

namespace Neighbourhood

variable {n : Neighbourhood} {removed : List Edge}

/-- Removing nothing changes nothing. -/
theorem without_nil : n.without [] = n := by
  simp [without]

/-- Edges that do not have a property can be taken away without loss to those that have it. Used for
the property of concerning a form, and for that of being outgoing. -/
theorem filter_edges_without {p : Edge → Bool} (h : ∀ e ∈ removed, p e = false) :
    (n.without removed).edges.filter p = n.edges.filter p := by
  have hkeep : ∀ (inverse : Bool) (ts : List Triple),
      ((ts.filter fun t => !removed.contains ⟨t, inverse⟩).map
          fun t => (⟨t, inverse⟩ : Edge)).filter p =
        (ts.map fun t => (⟨t, inverse⟩ : Edge)).filter p := by
    intro inverse ts
    rw [List.filter_map, List.filter_map, List.filter_filter]
    congr 1
    refine List.filter_congr fun t _ => ?_
    by_cases hmem : (⟨t, inverse⟩ : Edge) ∈ removed
    · simp [h _ hmem]
    · simp [hmem]
  simp only [edges, without, List.filter_append]
  rw [← hkeep false n.outgoing, ← hkeep true n.incoming]

end Neighbourhood

namespace Scope

variable {scope : Scope} {graph : GraphView} {node : Term} {inverse : List Iri}

/-- In the outermost scope nothing is hidden. -/
theorem neighbourhood_outermost :
    outermost.neighbourhood graph node inverse = .collect graph node inverse := rfl

/-- If nothing is hidden from a node, everything is seen. Edges may be hidden at other nodes. -/
theorem neighbourhood_eq_collect (h : ∀ x ∈ scope.hidden, x.1 = node → x.2 = []) :
    scope.neighbourhood graph node inverse = .collect graph node inverse := by
  rw [neighbourhood]
  generalize Neighbourhood.collect graph node inverse = n
  generalize scope.hidden = hidden at h
  induction hidden with
  | nil => rfl
  | cons x xs ih =>
    rw [List.forall_mem_cons] at h
    rw [List.foldl_cons]
    by_cases hx : x.1 = node
    · rw [if_pos hx, h.1 hx, Neighbourhood.without_nil]
      exact ih h.2
    · rw [if_neg hx]
      exact ih h.2

/-- Hidden edges that do not have a property are not missed among those that have it, by induction
on what is hidden. -/
theorem filter_neighbourhood {p : Edge → Bool}
    (h : ∀ x ∈ scope.hidden, x.1 = node → ∀ e ∈ x.2, p e = false) :
    (scope.neighbourhood graph node inverse).edges.filter p =
      (Neighbourhood.collect graph node inverse).edges.filter p := by
  rw [neighbourhood]
  generalize Neighbourhood.collect graph node inverse = n
  generalize scope.hidden = hidden at h
  induction hidden generalizing n with
  | nil => rfl
  | cons x xs ih =>
    rw [List.forall_mem_cons] at h
    rw [List.foldl_cons]
    by_cases hx : x.1 = node
    · rw [if_pos hx, ih _ h.2, Neighbourhood.filter_edges_without (h.1 hx)]
    · rw [if_neg hx, ih _ h.2]

end Scope

/-! ### Ignored arcs -/

/-- What can be evaluated at a node: an expression, or the declaration of a label. -/
inductive Subject where
  | expr (e : ShapeExpr)
  | label (l : Label)

namespace Validator

/-- Evaluation of a subject at a node comes to a shape at the same node. -/
inductive ComesTo (v : Validator) : Subject → Shape → Prop
  | shape {m : Mark} {h : ShapeHeader} {t : Option TripleExpr} :
      ComesTo v (.expr (.shape m h t)) ⟨h, t⟩
  | and {m : Mark} {es : List ShapeExpr} {x : ShapeExpr} {s : Shape} (hx : x ∈ es)
      (hs : ComesTo v (.expr x) s) : ComesTo v (.expr (.and m es)) s
  | or {m : Mark} {es : List ShapeExpr} {x : ShapeExpr} {s : Shape} (hx : x ∈ es)
      (hs : ComesTo v (.expr x) s) : ComesTo v (.expr (.or m es)) s
  | not {m : Mark} {x : ShapeExpr} {s : Shape} (hs : ComesTo v (.expr x) s) :
      ComesTo v (.expr (.not m x)) s
  | ref {m : Mark} {l : Label} {s : Shape} (hs : ComesTo v (.label l) s) :
      ComesTo v (.expr (.ref m l)) s
  | declared {l : Label} {d : ShapeDecl} {s : Shape} (hd : v.schema.shape? l = some d)
      (hs : ComesTo v (.expr d.expr) s) : ComesTo v (.label l) s
  | ancestor {l a : Label} {s : Shape} (ha : a ∈ v.hierarchy.ancestors l)
      (hs : ComesTo v (.label a) s) : ComesTo v (.label l) s
  | subtype {l child : Label} {d d' : ShapeDecl} {s : Shape} (hd : v.schema.shape? l = some d)
      (habstract : d.isAbstract = true) (hchild : (child, d') ∈ Setting.concreteSubtypes v l)
      (hs : ComesTo v (.label child) s) : ComesTo v (.label l) s

/-- The shapes that evaluation of a subject comes to at the same node are open, and have no triple
constraint with an arc. -/
def Ignores (v : Validator) (x : Subject) (a : Arc) : Prop :=
  ∀ s, v.ComesTo x s → s.header.closed = false ∧
    ∀ t via m c, s.expression = some t → ¬ v.schema.Inside via t (.constraint m a c)

end Validator

namespace Setting

variable {σ : Type} {st : Setting σ} {V : Term → ShapeExpr → Prop} {scope : Scope} {node : Term}

/-- The edges that are hidden from a node have arcs that a subject ignores. -/
def Spares (st : Setting σ) (scope : Scope) (node : Term) (x : Subject) : Prop :=
  ∀ h ∈ scope.hidden, h.1 = node → ∀ e ∈ h.2, st.validator.Ignores x e.arc

/-- Nothing is spared where nothing is hidden. -/
theorem spares_of_hidden_eq_nil (h : scope.hidden = []) (x : Subject) : st.Spares scope node x := by
  simp [Spares, h]

/-- A subject that comes to no more shapes ignores no less. -/
theorem Spares.of_comesTo {x y : Subject} (h : st.Spares scope node x)
    (hxy : ∀ s, st.validator.ComesTo y s → st.validator.ComesTo x s) : st.Spares scope node y :=
  fun p hp hn e he s hs => h p hp hn e he s (hxy s hs)

/-- A form does not depend on hidden edges that it does not concern, unless it is closed: then it
looks at all outgoing ones. -/
theorem formHolds_iff_of_hidden {f : Form} {closed : Bool} {extra : List Iri}
    (h : ∀ x ∈ scope.hidden, x.1 = node → ∀ e ∈ x.2, closed = false ∧ f.concerns e = false) :
    st.FormHolds V scope node f closed extra ↔ st.FormHolds V .outermost node f closed extra := by
  have hfits : f.Fits V extra (scope.neighbourhood st.graph node (f.predicates true)).edges ↔
      f.Fits V extra (Scope.outermost.neighbourhood st.graph node (f.predicates true)).edges := by
    rw [Form.Fits, Form.Fits, Scope.neighbourhood_outermost,
      Scope.filter_neighbourhood fun x hx hn e he => (h x hx hn e he).2]
  rw [FormHolds, FormHolds, hfits]
  cases closed with
  | false => simp
  | true =>
    rw [Scope.neighbourhood_outermost, Scope.neighbourhood_eq_collect fun x hx hn => ?_]
    exact List.eq_nil_iff_forall_not_mem.2 fun e he => by simpa using (h x hx hn e he).1

/-- A shape holds as if everything was seen, if it ignores what is hidden. -/
theorem fulfils_iff_of_spares (hacc : st.validator.IsAccepted) {m : Mark}
    {h : ShapeHeader} {t : Option TripleExpr} (hx : st.validator.schema.Has (.shape m h t))
    (hs : st.Spares scope node (.expr (.shape m h t))) :
    st.Fulfils V scope node ⟨h, t⟩ ↔ st.Fulfils V .outermost node ⟨h, t⟩ := by
  refine exists_congr fun f => and_congr_right fun hf => formHolds_iff_of_hidden ?_
  intro x hx' hn e he
  obtain ⟨hopen, hnone⟩ := hs x hx' hn e he _ .shape
  refine ⟨hopen, Bool.eq_false_iff.2 fun hc => ?_⟩
  obtain ⟨c, hc, harc⟩ := Form.concerns_iff.1 hc
  obtain ⟨t', via, m', ht, hin, -⟩ := hf.inside hacc hx hc
  exact hnone t' via m' c.value ht (harc ▸ hin)

/-! ### Plans -/

/-- A label has one joined form, since neither the limit nor what is remembered makes a difference
to it. -/
theorem IsJoined.unique {l : Label} {es : List TripleExpr} {f f' : Form}
    (h : st.IsJoined l es f) (h' : st.IsJoined l es f') : f = f' := by
  match es, h, h' with
  | [], h, h' => exact Eq.trans h (Eq.symm h')
  | [e], h, h' => exact IsForm.unique (t := some e) h h'
  | _ :: _ :: _, ⟨_, h⟩, ⟨_, h'⟩ => exact TripleExpr.normalize_limit h h'

/-- A joined form can be counted with, has a constraint for every identity, and has no semantic
actions if the expressions have none. -/
theorem IsJoined.regular (hacc : st.validator.IsAccepted) {l : Label}
    {es : List TripleExpr}
    (hes : ∀ e ∈ es, ∃ m h, st.validator.schema.Has (.shape m h (some e))) {f : Form}
    (hf : st.IsJoined l es f) :
    f.expr.isCountable = true ∧ f.expr.constraintIds.Nodup ∧
      ((∀ e ∈ es, st.validator.schema.IsActionFree e) → f.annotated = []) := by
  match es, hes, hf with
  | [], _, hf =>
    obtain rfl : f = .empty _ := hf
    exact ⟨rfl, List.nodup_nil, fun _ => rfl⟩
  | [e], hes, hf =>
    obtain ⟨m, h, he⟩ := hes e (List.mem_singleton_self e)
    have hrep := IsForm.represents hacc he hf
    exact ⟨hrep.countable, hrep.nodup, fun h => hrep.annotated (h e (List.mem_singleton_self e))⟩
  | e :: e' :: es, hes, hf =>
    have hrep := hf.represents hacc hes
    refine ⟨hrep.countable, hrep.nodup, fun h => hrep.annotated fun via x hx => ?_⟩
    cases hx with
    | self => rfl
    | eachOf hy hx => exact h _ hy _ _ hx

namespace IsPlan

variable {l : Label} {plan plan' : Plan}

/-- A label has one plan. -/
theorem unique (h : st.IsPlan l plan) (h' : st.IsPlan l plan') : plan = plan' := by
  obtain ⟨parts, form⟩ := plan
  obtain ⟨parts', form'⟩ := plan'
  obtain rfl : parts = parts' := Except.ok.inj (h.parts.symm.trans h'.parts)
  obtain rfl : form = form' := h.form.unique h'.form
  rfl

variable (hhier : st.validator.hierarchy = .ofSchema st.validator.schema)
include hhier

/-- The parts are those of the ancestors. -/
theorem isPart (h : st.IsPlan l plan) {p : Part} (hp : p ∈ plan.parts) :
    p.label ∈ st.validator.hierarchy.ancestors l ∧ st.validator.schema.IsPart p := by
  have hparts := h.parts
  rw [hhier] at hparts
  obtain ⟨hlabels, hall⟩ := Plan.partsOf_eq_ok hparts
  rw [hhier, ← hlabels]
  exact ⟨List.mem_map.2 ⟨p, hp, rfl⟩, hall p hp⟩

/-- Evaluation of the label comes to the main shapes of the parts. -/
theorem comesTo_main (h : st.IsPlan l plan) {p : Part} (hp : p ∈ plan.parts) :
    st.validator.ComesTo (.label l) p.shape := by
  obtain ⟨hlabel, hpart⟩ := h.isPart hhier hp
  obtain ⟨d, form, hd, hform, -, hshape, -⟩ := hpart.exists_form
  refine .ancestor hlabel (.declared hd ?_)
  obtain ⟨⟨m, hmain⟩, ⟨hexpr, -⟩ | ⟨m', hexpr⟩⟩ := ShapeExpr.extendable?_eq_some hform
  · rw [hexpr, hmain, ← hshape]
    exact .shape
  · rw [hexpr, hmain, ← hshape]
    exact .and List.mem_cons_self .shape

/-- Evaluation of the label comes to what evaluation of the other conjuncts comes to. So whatever
the label ignores, they ignore. -/
theorem comesTo_conjunct (h : st.IsPlan l plan) {p : Part} (hp : p ∈ plan.parts) {c : ShapeExpr}
    (hc : c ∈ p.constraints) {s : Shape} (hs : st.validator.ComesTo (.expr c) s) :
    st.validator.ComesTo (.label l) s := by
  obtain ⟨hlabel, hpart⟩ := h.isPart hhier hp
  obtain ⟨d, form, hd, hform, -, -, hconstraints⟩ := hpart.exists_form
  refine .ancestor hlabel (.declared hd ?_)
  rw [← hconstraints] at hc
  obtain ⟨-, ⟨-, hnil⟩ | ⟨m, hexpr⟩⟩ := ShapeExpr.extendable?_eq_some hform
  · rw [hnil] at hc
    cases hc
  · rw [hexpr]
    exact .and (List.mem_cons_of_mem _ hc) hs

/-- The other conjuncts of a part are in the schema. -/
theorem has_conjunct (h : st.IsPlan l plan) {p : Part} (hp : p ∈ plan.parts) {c : ShapeExpr}
    (hc : c ∈ p.constraints) : st.validator.schema.Has c := by
  obtain ⟨d, form, hd, hform, -, -, hconstraints⟩ := (h.isPart hhier hp).2.exists_form
  exact (Schema.has_of_shape? hd).conjunct hform (hconstraints ▸ hc)

/-- The main shape of a part is in the schema. -/
theorem has_main (h : st.IsPlan l plan) {p : Part} (hp : p ∈ plan.parts) :
    st.validator.schema.Has p.main := by
  obtain ⟨d, form, hd, hform, hmain, -⟩ := (h.isPart hhier hp).2.exists_form
  exact hmain ▸ (Schema.has_of_shape? hd).main hform

/-- The joined triple expressions are in the schema. -/
theorem has_expression (h : st.IsPlan l plan) {e : TripleExpr}
    (he : e ∈ Plan.expressions plan.parts) :
    ∃ m hd, st.validator.schema.Has (.shape m hd (some e)) :=
  has_of_mem_expressions (fun _ hp => (h.isPart hhier hp).2) he

/-- The joined form holds as if everything was seen, if the label ignores what is hidden. The main
shapes are among the shapes that the label comes to. -/
theorem formHolds_iff_of_spares (hacc : st.validator.IsAccepted)
    (h : st.IsPlan l plan) (hs : st.Spares scope node (.label l)) :
    st.FormHolds V scope node plan.form plan.isClosed plan.extra ↔
      st.FormHolds V .outermost node plan.form plan.isClosed plan.extra := by
  refine formHolds_iff_of_hidden fun x hx hn e he => ⟨?_, Bool.eq_false_iff.2 fun hc => ?_⟩
  · rw [Plan.isClosed]
    cases hhead : plan.parts.head? with
    | none => rfl
    | some p => exact (hs x hx hn e he _ (h.comesTo_main hhier (List.mem_of_mem_head? hhead))).1
  · obtain ⟨c, hc, harc⟩ := Form.concerns_iff.1 hc
    obtain ⟨t, ht, via, m, hin, -⟩ :=
      h.form.inside hacc (fun t ht => h.has_expression hhier ht) hc
    obtain ⟨p, hp, hpt⟩ := List.mem_filterMap.1 ht
    exact (hs x hx hn e he _ (h.comesTo_main hhier hp)).2 t via m c.value hpt (harc ▸ hin)

/-- The joined form of a schema without semantic actions can be matched: it can be counted, it has
nothing annotated, and its value expressions are told apart by their identities. -/
theorem isMatchable (hacc : st.validator.IsAccepted)
    (hco : st.validator.schema.IsCoherent)
    (hact : ∀ m h t, st.validator.schema.Has (.shape m h t) →
      st.validator.schema.IsActionFreeShape t)
    (h : st.IsPlan l plan) : plan.form.IsMatchable := by
  have hhas := fun e he => @has_expression _ st l plan hhier h e he
  have hfree : ∀ e ∈ Plan.expressions plan.parts, st.validator.schema.IsActionFree e := by
    intro e he
    obtain ⟨m, hd, hx⟩ := hhas e he
    exact hact m hd _ hx e rfl
  have hvalues : ∀ v ∈ plan.form.expr.values, st.validator.schema.Has v := by
    intro v hv
    obtain ⟨c, hc, hcv⟩ := List.mem_filterMap.1 hv
    obtain ⟨t, ht, via, m, hin, -⟩ := h.form.inside hacc hhas hc
    obtain ⟨mk, hd, hx⟩ := hhas t ht
    rw [hcv] at hin
    exact hx.of_shape hin
  obtain ⟨hcountable, -, hannotated⟩ := h.form.regular hacc hhas
  exact ⟨fun v hv v' hv' => hco.shapes v v' (hvalues v hv) (hvalues v' hv'), hannotated hfree,
    TripleExpr.matchesBag_total hcountable⟩

/-- The constraints of the joined form have identities of their own. -/
theorem constraint?_eq_some (hacc : st.validator.IsAccepted) (h : st.IsPlan l plan)
    {c : TripleConstraint} (hc : c ∈ plan.form.constraints) :
    plan.form.constraint? c.id = some c := by
  obtain ⟨-, hnodup, -⟩ := h.form.regular hacc fun e he => h.has_expression hhier he
  exact (Form.constraint?_eq_some_iff hnodup).2 ⟨hc, rfl⟩

end IsPlan

/-! ### Edges of other parts -/

/-- What stands beside the main shape of a part of an extending shape looks at no triples of other
parts: it ignores the arcs of the triple constraints that belong to them. -/
def IsDiscreet (st : Setting σ) : Prop :=
  ∀ l plan, st.validator.hierarchy.hasParents l = true → st.IsPlan l plan →
    ∀ x ∈ plan.parts.zipIdx, ∀ c ∈ x.1.constraints, ∀ tc ∈ plan.form.constraints, ∀ i,
      plan.ownerOf tc = some i → i ≠ x.2 → st.validator.Ignores (.expr c) tc.arc

/-- What has an owner was matched with a constraint of the owner. Both lists are in the order of the
edges. -/
theorem mem_of_ownersOf_eq_ok {plan : Plan} {l : Label} :
    ∀ {matched : List (Edge × ExprId)} {owners : List (Edge × Nat)},
      ownersOf plan l matched = .ok owners → ∀ x ∈ owners,
        ∃ id, (x.1, id) ∈ matched ∧ plan.ownerOfId id = some x.2
  | [], owners, h, x, hx => by
    cases h
    cases hx
  | (e, id) :: rest, owners, h, x, hx => by
    rw [ownersOf] at h
    split at h
    · cases h
    rename_i i hi
    cases hrest : ownersOf plan l rest with
    | error fault =>
      rw [hrest] at h
      cases h
    | ok owners' =>
      rw [hrest] at h
      cases h
      rcases List.mem_cons.1 hx with rfl | hx
      · exact ⟨id, List.mem_cons_self, hi⟩
      · obtain ⟨id', hmem, hid'⟩ := mem_of_ownersOf_eq_ok hrest x hx
        exact ⟨id', List.mem_cons_of_mem _ hmem, hid'⟩

/-- Every matched edge is given its owner, since the first one without would have ended in a
fault. -/
theorem exists_mem_of_ownersOf_eq_ok {plan : Plan} {l : Label} :
    ∀ {matched : List (Edge × ExprId)} {owners : List (Edge × Nat)},
      ownersOf plan l matched = .ok owners → ∀ x ∈ matched,
        ∃ i, plan.ownerOfId x.2 = some i ∧ (x.1, i) ∈ owners
  | [], _, _, x, hx => by cases hx
  | (e, id) :: rest, owners, h, x, hx => by
    rw [ownersOf] at h
    split at h
    · cases h
    rename_i i hi
    cases hrest : ownersOf plan l rest with
    | error fault =>
      rw [hrest] at h
      cases h
    | ok owners' =>
      rw [hrest] at h
      cases h
      rcases List.mem_cons.1 hx with rfl | hx
      · exact ⟨i, hi, List.mem_cons_self⟩
      · obtain ⟨j, hj, hmem⟩ := exists_mem_of_ownersOf_eq_ok hrest x hx
        exact ⟨j, hj, List.mem_cons_of_mem _ hmem⟩

/-- In a discreet schema the edges of other parts can be hidden from what stands beside a main
shape. -/
theorem IsDiscreet.spares (hdiscreet : st.IsDiscreet) (hacc : st.validator.IsAccepted)
    (hhier : st.validator.hierarchy = .ofSchema st.validator.schema) {l : Label}
    (hparents : st.validator.hierarchy.hasParents l = true) {plan : Plan}
    (hplan : st.IsPlan l plan) {extra : List Iri} {edges : List Edge} {a : Assignment}
    (ha : a.IsLawful V extra plan.form edges) {owners : List (Edge × Nat)}
    (howners : ownersOf plan l a.matched = .ok owners) {p : Part} {i : Nat}
    (hp : (p, i) ∈ plan.parts.zipIdx) {c : ShapeExpr} (hc : c ∈ p.constraints)
    (hs : st.Spares scope node (.label l)) :
    st.Spares (scope.hide node ((owners.filter (·.2 ≠ i)).map Prod.fst)) node (.expr c) := by
  refine List.forall_mem_cons.2 ⟨fun _ e he => ?_, ?_⟩
  · obtain ⟨⟨e, j⟩, hx, rfl⟩ := List.mem_map.1 he
    obtain ⟨hx, hj⟩ := List.mem_filter.1 hx
    obtain ⟨id, hmem, hid⟩ := mem_of_ownersOf_eq_ok howners _ hx
    obtain ⟨-, tc, htc, harc, -, rfl⟩ := ha.matched _ hmem
    rw [Plan.ownerOfId, hplan.constraint?_eq_some hhier hacc htc, Option.bind_some] at hid
    exact harc ▸ hdiscreet l plan hparents hplan (p, i) hp c hc tc htc j hid (by simpa using hj)
  · refine hs.of_comesTo fun s hcs => hplan.comesTo_conjunct hhier ?_ hc hcs
    exact List.fst_mem_of_mem_zipIdx hp

end Setting

end Shex
