import Shex.Proofs.Consistency
import Shex.Proofs.Faults
import Shex.Proofs.Reordering

/-!
# Settled schemas

Which of several possible assignments is found depends on the order of the triples, and so does
which edges are hidden from what stands beside the main shape of a part of an extending shape. In a
settled schema (`Setting.IsSettled`) this makes no difference there: an arc that is looked at has
all of its constraints in the part itself, and nothing with it is hidden, or it has none there and
is not extra, and all that matches a constraint is hidden. So what is hidden by an assignment may be
replaced by something that is said without one (`Setting.edgesOfOthers`, `Setting.Alike.hide`), and
evaluation has verdicts that are said without an order (`Setting.verdicts`).
-/

namespace Shex

open Run

/-- Whether it is conformant says all of a status. -/
theorem Status.eq_of_conformant_iff {s s' : Status} (h : s = .conformant ↔ s' = .conformant) :
    s = s' := by
  cases s with
  | conformant => exact (h.1 rfl).symm
  | nonconformant =>
    cases s' with
    | conformant => exact h.2 rfl
    | nonconformant => rfl

namespace Validator

/-- Evaluation of a subject looks at the edges of the node with an arc: it comes to a shape that has
a triple constraint with the arc, or to a closed shape and the arc is an outgoing one. -/
def LooksAt (v : Validator) (x : Subject) (a : Arc) : Prop :=
  ∃ s, v.ComesTo x s ∧ ((s.header.closed = true ∧ a.inverse = false) ∨
    ∃ t via m c, s.expression = some t ∧ v.schema.Inside via t (.constraint m a c))

/-- A subject that comes to no more shapes looks at no more edges. -/
theorem LooksAt.of_comesTo {v : Validator} {x y : Subject} {a : Arc} (h : v.LooksAt y a)
    (hxy : ∀ s, v.ComesTo y s → v.ComesTo x s) : v.LooksAt x a := by
  obtain ⟨s, hs, hlook⟩ := h
  exact ⟨s, hxy s hs, hlook⟩

end Validator

namespace Setting

variable {σ : Type}

/-- What stands beside the main shape of a part of an extending shape sees the same whatever
assignment is found: of the arcs that it looks at, each has all its constraints in the part itself,
or it is not extra and has none of them there. -/
def IsSettled (st : Setting σ) : Prop :=
  ∀ l plan, st.validator.hierarchy.hasParents l = true → st.IsPlan l plan →
    ∀ x ∈ plan.parts.zipIdx, ∀ c ∈ x.1.constraints, ∀ a, st.validator.LooksAt (.expr c) a →
      (∀ tc ∈ plan.form.constraints, tc.arc = a → plan.ownerOf tc = some x.2) ∨
        (a.predicate ∉ plan.extra ∧
          ∀ tc ∈ plan.form.constraints, tc.arc = a → plan.ownerOf tc ≠ some x.2)

/-! ### Verdicts without an order -/

/-- The edges of a node whose arc has a constraint that belongs to another part. -/
def edgesOfOthers (st : Setting σ) (node : Term) (plan : Plan) (i : Nat) : List Edge :=
  (Neighbourhood.edges ⟨st.graph.outgoing node, st.graph.incoming node⟩).filter fun e =>
    plan.form.constraints.any fun c => c.arc = e.arc && plan.ownerOf c ≠ some i

section
variable (st : Setting σ) (J : Scope → Term → ShapeExpr → Prop) (scope : Scope) (node : Term)

/-- The parts of an extending declaration hold, where all edges of other parts are hidden from what
stands beside a main shape. -/
def PartsHold (l : Label) : Prop :=
  ∃ plan, st.IsPlan l plan ∧
    st.FormHolds (J scope.showAll) scope node plan.form plan.isClosed plan.extra ∧
    ∀ x ∈ plan.parts.zipIdx, ∀ c ∈ x.1.constraints,
      J (scope.hide node (st.edgesOfOthers node plan x.2)) node c

/-- The declaration of a label that is not abstract holds. -/
def ConcreteHolds (l : Label) (d : ShapeDecl) : Prop :=
  scope.isActive node l = true ∨
    if st.validator.hierarchy.hasParents l then st.PartsHold J (scope.enter node l) node l
    else J (scope.enter node l) node d.expr

/-- The declaration of a label holds. -/
def DeclarationHolds (l : Label) : Prop :=
  ∃ d, st.validator.schema.shape? l = some d ∧
    if d.isAbstract then
      scope.isActive node l = true ∨ ∃ x ∈ concreteSubtypes st.validator l,
        st.ConcreteHolds J (scope.enter node l) node x.1 x.2
    else st.ConcreteHolds J scope node l d

end

/-- Whether a node satisfies an expression, where `depth` evaluations may be nested. -/
def verdicts (st : Setting σ) : Nat → Scope → Term → ShapeExpr → Prop
  | 0 => fun _ _ _ => False
  | depth + 1 => fun scope node => st.HoldsBy node (verdicts st depth scope node)
      (st.DeclarationHolds (verdicts st depth) scope node)
      (st.Fulfils (verdicts st depth scope.showAll) scope node)

/-- What a selector names holds at a node. -/
def PairHolds (st : Setting σ) : Term × Selector → Prop
  | (node, .label l) => st.DeclarationHolds (st.verdicts st.limits.depth) .outermost node l
  | (node, .start) => ∃ e, st.validator.schema.start = some e ∧
      st.verdicts st.limits.depth .outermost node e

/-- An entry records for a pair whether what the selector names holds at the node. -/
def Records (st : Setting σ) (pair : Term × Selector) (entry : Entry) : Prop :=
  entry.node = pair.1 ∧ entry.shape = pair.2 ∧ (entry.status = .conformant ↔ st.PairHolds pair)

variable {st : Setting σ} {g : GraphView} {a k : Scope} {node : Term}

/-- Entries that are recorded for the same pairs have the same statuses. A pair leaves no choice: an
entry has its node and selector, and its status tells whether it holds. -/
theorem forall₂_same_of_records {pairs : List (Term × Selector)} {es es' : List Entry}
    (h : List.Forall₂ st.Records pairs es) (h' : List.Forall₂ st.Records pairs es') :
    List.Forall₂ (fun e e' => e.node = e'.node ∧ e.shape = e'.shape ∧ e.status = e'.status) es
      es' := by
  induction h generalizing es' with
  | nil =>
    cases h'
    exact .nil
  | @cons pair e pairs es he _ ih =>
    cases h' with
    | @cons _ e' _ es' he' hes' =>
      obtain ⟨hnode, hshape, hstatus⟩ := he
      obtain ⟨hnode', hshape', hstatus'⟩ := he'
      exact .cons ⟨hnode.trans hnode'.symm, hshape.trans hshape'.symm,
        Status.eq_of_conformant_iff (hstatus.trans hstatus'.symm)⟩ (ih hes')

/-! ### Scopes that show the same -/

/-- In a run about the graph `g`, a subject sees in the scope `a` what it would see in the scope `k`
about the graph of the setting. -/
structure Alike (st : Setting σ) (g : GraphView) (a k : Scope) (node : Term) (x : Subject) : Prop
    where
  active : a.active = k.active
  sees : ∀ e : Edge, st.validator.LooksAt x e.arc → (a.Sees g node e ↔ k.Sees st.graph node e)

/-- Where nothing is hidden, everything is seen in both. -/
theorem alike_of_hidden_eq_nil (hg : g.IsReordering st.graph) (hactive : a.active = k.active)
    (ha : a.hidden = []) (hk : k.hidden = []) (n : Term) (x : Subject) : st.Alike g a k n x := by
  refine ⟨hactive, fun e _ => and_congr ?_ (by simp [ha, hk])⟩
  split
  · exact (hg.incoming n).mem_iff
  · exact (hg.outgoing n).mem_iff

namespace Alike

variable {x y : Subject}

/-- An expression that comes to fewer labels is told apart by fewer active pairs. -/
theorem of_comesTo (h : st.Alike g a k node x)
    (hxy : ∀ s, st.validator.ComesTo y s → st.validator.ComesTo x s) : st.Alike g a k node y :=
  ⟨h.active, fun e he => h.sees e (he.of_comesTo hxy)⟩

/-- A pair that is entered in both scopes is active in both. -/
theorem enter (h : st.Alike g a k node x) (l : Label) :
    st.Alike g (a.enter node l) (k.enter node l) node x := by
  refine ⟨?_, h.sees⟩
  rw [Scope.enter, Scope.enter, h.active]

/-- A label that the expression is, or comes to, is active in both scopes or in neither. -/
theorem isActive (h : st.Alike g a k node x) (l : Label) :
    a.isActive node l = k.isActive node l := by
  rw [Scope.isActive, Scope.isActive, h.active]

/-- What is shown without anything hidden is the same for every node. -/
theorem showAll (hg : g.IsReordering st.graph) (h : st.Alike g a k node x) (m : Term)
    (y : Subject) : st.Alike g a.showAll k.showAll m y :=
  alike_of_hidden_eq_nil (a := a.showAll) (k := k.showAll) hg h.active rfl rfl m y

end Alike

/-- In a run about the graph `g`, an evaluator finds out what `J` says. -/
def Yields (st : Setting σ) (g : GraphView) (J : Scope → Term → ShapeExpr → Prop)
    (E : Evaluator σ) : Prop :=
  ∀ a k node e, st.validator.schema.Has e → st.Alike g a k node (.expr e) →
    Meets (fun r => (st.about g).KnowsMemo r.memo) (E a node e)
      (fun v => v = .conforms ↔ J k node e) fun _ => True

/-- Plans are plans in runs about any graph. -/
theorem isPlan_about {l : Label} {plan : Plan} :
    (st.about g).IsPlan l plan ↔ st.IsPlan l plan :=
  ⟨fun h => ⟨h.parts, h.form⟩, fun h => ⟨h.parts, h.form⟩⟩

/-! ### Hidden edges -/

/-- After edges were hidden, what is seen is what was seen without them. -/
theorem sees_hide_iff {s : Scope} {edges : List Edge} {e : Edge} :
    (s.hide node edges).Sees g node e ↔ s.Sees g node e ∧ e ∉ edges := by
  simp only [Scope.Sees, Scope.hide, List.forall_mem_cons]
  tauto

/-- The edges of other parts are those that were matched with constraints of other owners. What the
parts are checked with is so told by the assignment alone. -/
theorem mem_edges_of_others_iff {plan : Plan} {l : Label} {matched : List (Edge × ExprId)}
    {owners : List (Edge × Nat)} (howners : ownersOf plan l matched = .ok owners) {i : Nat}
    {e : Edge} :
    e ∈ (owners.filter (·.2 ≠ i)).map Prod.fst ↔
      ∃ id, (e, id) ∈ matched ∧ ∃ j, plan.ownerOfId id = some j ∧ j ≠ i := by
  constructor
  · intro he
    obtain ⟨⟨e, j⟩, hx, rfl⟩ := List.mem_map.1 he
    obtain ⟨hx, hj⟩ := List.mem_filter.1 hx
    obtain ⟨id, hmem, hid⟩ := mem_of_ownersOf_eq_ok howners _ hx
    exact ⟨id, hmem, j, hid, by simpa using hj⟩
  · rintro ⟨id, hmem, j, hid, hj⟩
    obtain ⟨j', hid', hx⟩ := exists_mem_of_ownersOf_eq_ok howners _ hmem
    obtain rfl : j' = j := Option.some.inj (hid'.symm.trans hid)
    exact List.mem_map.2 ⟨(e, j'), List.mem_filter.2 ⟨hx, by simpa using hj⟩, rfl⟩

/-- An edge that is seen is one of other parts if a constraint with its arc belongs to another
part. -/
theorem mem_edgesOfOthers_iff {plan : Plan} {i : Nat} {e : Edge} (h : k.Sees st.graph node e) :
    e ∈ st.edgesOfOthers node plan i ↔
      ∃ tc ∈ plan.form.constraints, tc.arc = e.arc ∧ plan.ownerOf tc ≠ some i := by
  have hedge : e ∈ Neighbourhood.edges ⟨st.graph.outgoing node, st.graph.incoming node⟩ :=
    Neighbourhood.mem_edges.2 h.1
  rw [edgesOfOthers, List.mem_filter, and_iff_right hedge, List.any_eq_true]
  simp

/-- The edges that a form concerns are looked at if they are seen. -/
theorem mem_neighbourhood_of_concerns {f : Form} {e : Edge} (h : a.Sees g node e)
    (hf : f.concerns e = true) : e ∈ (a.neighbourhood g node (f.predicates true)).edges := by
  refine Scope.mem_neighbourhood_iff_sees.2 ⟨h, fun hinverse => ?_⟩
  obtain ⟨c, hc, harc⟩ := Form.concerns_iff.1 hf
  have hc' : c.arc.inverse = true := by rw [harc]; exact hinverse
  exact List.mem_map.2 ⟨c, List.mem_filter.2 ⟨hc, by simpa using hc'⟩, by rw [harc]; rfl⟩

section
variable {l : Label} {plan : Plan} {x : Part × Nat} {c : ShapeExpr} {V : Term → ShapeExpr → Prop}
  {m : Assignment} {owners : List (Edge × Nat)}

/-- In a settled schema the edges that were matched with other parts are hidden from what stands
beside a main shape just as if all edges of other parts were. -/
theorem Alike.hide (hsettled : st.IsSettled) (hacc : st.validator.IsAccepted)
    (hhier : st.validator.hierarchy = .ofSchema st.validator.schema)
    (hparents : st.validator.hierarchy.hasParents l = true) (hplan : st.IsPlan l plan)
    (h : st.Alike g a k node (.label l)) (hx : x ∈ plan.parts.zipIdx) (hc : c ∈ x.1.constraints)
    (hlawful : m.IsLawful V plan.extra plan.form
      (a.neighbourhood g node (plan.form.predicates true)).edges)
    (hregular : m.IsRegular plan.extra plan.form
      (a.neighbourhood g node (plan.form.predicates true)).edges)
    (howners : ownersOf plan l m.matched = .ok owners) :
    st.Alike g (a.hide node ((owners.filter (·.2 ≠ x.2)).map Prod.fst))
      (k.hide node (st.edgesOfOthers node plan x.2)) node (.expr c) := by
  refine ⟨h.active, fun e he => ?_⟩
  have hsame : a.Sees g node e ↔ k.Sees st.graph node e :=
    h.sees e (he.of_comesTo fun s hs =>
      hplan.comesTo_conjunct hhier (List.fst_mem_of_mem_zipIdx hx) hc hs)
  rw [sees_hide_iff, sees_hide_iff, ← hsame]
  refine and_congr_right fun hseen => not_congr ?_
  rw [mem_edges_of_others_iff howners, mem_edgesOfOthers_iff (hsame.1 hseen)]
  -- What an owner says of a matched edge is said by a constraint with its arc.
  have howned : ∀ id, (e, id) ∈ m.matched →
      ∃ tc ∈ plan.form.constraints, tc.arc = e.arc ∧ plan.ownerOfId id = plan.ownerOf tc := by
    intro id hid
    obtain ⟨-, tc, htc, harc, -, rfl⟩ := hlawful.matched _ hid
    refine ⟨tc, htc, harc, ?_⟩
    rw [Plan.ownerOfId, hplan.constraint?_eq_some hhier hacc htc, Option.bind_some]
  rcases hsettled l plan hparents hplan x hx c hc e.arc he with hown | ⟨hextra, hnone⟩
  · refine iff_of_false ?_ ?_
    · rintro ⟨id, hid, j, hj, hne⟩
      obtain ⟨tc, htc, harc, heq⟩ := howned id hid
      rw [heq, hown tc htc harc] at hj
      exact hne (Option.some.inj hj).symm
    · rintro ⟨tc, htc, harc, hne⟩
      exact hne (hown tc htc harc)
  · constructor
    · rintro ⟨id, hid, -⟩
      obtain ⟨tc, htc, harc, -⟩ := howned id hid
      exact ⟨tc, htc, harc, hnone tc htc harc⟩
    · rintro ⟨tc, htc, harc, -⟩
      have hconcerns : plan.form.concerns e = true := Form.concerns_iff.2 ⟨tc, htc, harc⟩
      obtain ⟨id, hid⟩ :=
        (hregular.covered e (mem_neighbourhood_of_concerns hseen hconcerns) hconcerns).resolve_right
          hextra
      obtain ⟨j, hj, -⟩ := exists_mem_of_ownersOf_eq_ok howners _ hid
      obtain ⟨tc', htc', harc', heq⟩ := howned id hid
      refine ⟨id, hid, j, hj, fun hji => hnone tc' htc' harc' ?_⟩
      rw [← heq, ← hji]
      exact hj

end

end Setting

end Shex
