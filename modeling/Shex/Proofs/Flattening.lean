import Shex.Proofs.Ancestry
import Shex.Proofs.Renewal

/-!
# Inheritance, flattened

A shape that extends others is checked like one shape that has the triple expressions of all of them
in one group, all of their extra predicates, and is closed if the extending shape is
(`Setting.satisfiesExtending_flattens`). This is so if the declarations have nothing beside these
shapes: no other conjuncts, and no semantic actions on the shapes.

Both checks match the neighbourhood of the node with one form. The form of the plan and that of the
group were normalized with different identities, perhaps at different times, and differ in nothing
else (`Setting.group_outcomes`). From there on the two runs take the same course
(`Setting.SameCourse`), whatever the handlers do: what the plan does after matching has nothing to
check, since every constraint has an owner and no part has conjuncts or actions
(`Setting.satisfiesExtending_bare`).
-/

namespace Shex

open Run

/-! ### Extra predicates -/

/-- The order of the extra predicates does not matter, nor how often one is listed. -/
theorem Sorting.place_extra {m : Type → Type} [Monad m] (r : Referee m)
    (cs : List TripleConstraint) {extra extra' : List Iri}
    (h : ∀ p, extra.contains p = extra'.contains p) :
    Sorting.place r cs extra = Sorting.place r cs extra' := by
  funext s e
  unfold Sorting.place
  rw [h]

namespace Setting

variable {σ : Type} {st : Setting σ} {values nested : Evaluator σ} {scope : Scope} {node : Term}

/-- Extra predicates are asked for membership only, so how they are listed does not matter. A plan
lists them part by part, and a flat shape may list them in any way. -/
theorem matchAround_extra (form : Form) (closed : Bool) {extra extra' : List Iri}
    (h : ∀ p, p ∈ extra ↔ p ∈ extra') :
    st.matchAround values scope node form closed extra =
      st.matchAround values scope node form closed extra' := by
  have hcontains : ∀ p, extra.contains p = extra'.contains p := by
    intro p
    rw [Bool.eq_iff_iff, List.contains_iff_mem, List.contains_iff_mem, h p]
  unfold matchAround matchForm findAssignment closedFailures
  simp only [hcontains, Sorting.place_extra _ _ hcontains]

end Setting

/-! ### Forms -/

/-- Forms that differ in their identities only do so the other way round. -/
theorem Form.Alike.swap {I : ExprId → ExprId → Prop} {P : ShapeExpr → Prop} {f g : Form}
    (h : f.Alike I P g) : g.Alike (flip I) P f where
  unique := ⟨fun _ _ _ hi hj => h.unique.2 hi hj, fun _ _ _ hi hj => h.unique.1 hi hj⟩
  constraints := h.constraints.flip.imp fun _ _ hc =>
    ⟨hc.id, hc.source.symm, hc.arc.symm, hc.value.symm, fun v hv => hc.holds v (hc.value.trans hv)⟩
  matchesBag b b' hb := (h.matchesBag b' b hb.flip).symm
  annotated := h.annotated.flip.imp fun _ _ ha =>
    ⟨ha.actions.symm, fun i j hij => (ha.constraints j i hij).symm⟩

/-- What is true of all identities that others correspond to is true of those in an assignment. -/
theorem Assignment.Alike.forall_matched {I : ExprId → ExprId → Prop} {a b : Assignment}
    (h : a.Alike I b) {p : ExprId → Prop} (hp : ∀ i j, I i j → p j) : ∀ x ∈ b.matched, p x.2 := by
  have hmatched := h.matched
  generalize a.matched = xs at hmatched
  generalize b.matched = ys at hmatched
  induction hmatched with
  | nil => nofun
  | cons hxy _ ih => exact List.forall_mem_cons.2 ⟨hp _ _ hxy.2, ih⟩

/-- Several triple expressions as one: a group, if there are at least two. -/
def TripleExpr.group? (id : ExprId) : List TripleExpr → Option TripleExpr
  | [] => none
  | [e] => some e
  | es => some (.eachOf (.written ⟨id, []⟩) es)

namespace Setting

variable {σ : Type} {st : Setting σ}

variable (st) in
/-- An identity that no triple expression of a shape has, and for which nothing is remembered. -/
structure IsNew (m : Memo) (id : ExprId) : Prop where
  schema : ∀ mk h e, st.validator.schema.Has (.shape mk h (some e)) → e.id ≠ id
  memo : m.forms.get? id = none

section
variable {id : ExprId} {es : List TripleExpr}

/-- How the form of a group is found: the form of the only expression if there is one, and otherwise
a form that is not remembered, since the identity of the group is new. -/
theorem formFor_group_run (hhier : st.validator.hierarchy = .ofSchema st.validator.schema)
    (hco : st.validator.schema.IsCoherent)
    (hes : ∀ e ∈ es, ∃ mk h, st.validator.schema.Has (.shape mk h (some e))) {s : RunState σ}
    (hid : st.IsNew s.memo id) :
    ∃ m, (st.formFor (TripleExpr.group? id es)).run.run s =
        (st.formForFrom s.memo (TripleExpr.group? id es), { s with memo := m }) ∧
      st.OffersSame s.memo m := by
  match es, hes with
  | [], _ => exact ⟨s.memo, rfl, .refl _⟩
  | [e], hes =>
    obtain ⟨mk, h, he⟩ := hes e (List.mem_singleton_self e)
    exact formFor_run hhier hco he s
  | e :: e' :: es, _ =>
    obtain ⟨m, hrun, hsame, -⟩ := formOf_run_of
      (e := .eachOf (.written ⟨id, []⟩) (e :: e' :: es)) hhier
      (fun mk h x hx hsame => absurd hsame.symm (hid.schema mk h x hx)) s
    exact ⟨m, hrun, hsame⟩

variable {m : Memo} (hid : st.IsNew m id)
include hid

/-- The form of a group of several expressions is not recalled. -/
theorem formForFrom_group {e e' : TripleExpr} :
    st.formForFrom m (TripleExpr.group? id (e :: e' :: es)) =
      (TripleExpr.eachOf (.written ⟨id, []⟩) (e :: e' :: es)).normalize st.validator.schema
        st.limits.expansion (st.validator.numbering (.expr id)) := by
  have hnone : m.forms.get? (TripleExpr.eachOf (.written ⟨id, []⟩) (e :: e' :: es)).id = none :=
    hid.memo
  change st.formFrom m (.eachOf (.written ⟨id, []⟩) (e :: e' :: es)) = _
  rw [formFrom, hnone]
  rfl

/-- Where a group has a form, the joined expressions of a plan have one. -/
theorem exists_joinedFrom_of_group (l : Label) {g : Form}
    (hg : st.formForFrom m (TripleExpr.group? id es) = .ok g) :
    ∃ f, st.joinedFrom m l es = .ok f := by
  match es, hg with
  | [], _ => exact ⟨_, rfl⟩
  | [e], hg => exact ⟨g, hg⟩
  | e :: e' :: es, hg =>
    rw [formForFrom_group hid] at hg
    exact TripleExpr.exists_normalize (TripleExpr.joined_corresponds _ _ _) hg _

variable (hes : ∀ e ∈ es, ∃ mk h, st.validator.schema.Has (.shape mk h (some e)))
include hes

/-- What is computed or recalled for a group is a form of the joined expressions, up to the
identities of its copies: a recalled one was made in an earlier run. -/
theorem isJoinedUpToIds_of_group (hm : st.KnowsUpToIds m) {g : Form}
    (hg : st.formForFrom m (TripleExpr.group? id es) = .ok g) : st.IsJoinedUpToIds es g := by
  match es, hes, hg with
  | [], _, hg =>
    cases hg
    exact ⟨_, rfl⟩
  | [e], hes, hg =>
    obtain ⟨mk, h, he⟩ := hes e (List.mem_singleton_self e)
    exact hm.isForm he hg
  | e :: e' :: es, _, hg =>
    rw [formForFrom_group hid] at hg
    exact ⟨_, _, _, hg⟩

/-- Of a group of expressions of the schema a form is made, or it takes too many nodes. The same
holds of the joined form of a plan, and then both runs end in the same fault. -/
theorem formForFrom_group_expansion (hacc : st.validator.IsAccepted)
    {x : ValidationFault} (hx : st.formForFrom m (TripleExpr.group? id es) = .error x) :
    x.IsExpansion := by
  match es, hes, hx with
  | [], _, hx => cases hx
  | [e], hes, hx =>
    obtain ⟨mk, h, he⟩ := hes e (List.mem_singleton_self e)
    refine formForFrom_expansion (t := some e) hacc he ?_
    change st.formFrom m e = .error x at hx
    rw [formFrom] at hx
    split at hx
    · cases hx
    · exact hx
  | e :: e' :: es, hes, hx =>
    have hjoined := normalize_joined hacc hes (.written ⟨id, []⟩) st.limits.expansion
      (st.validator.numbering (.expr id))
    rw [formForFrom_group hid] at hx
    rwa [hx] at hjoined

end

/-- What is computed or recalled for a label has a form alike to that of the group of the same
expressions, if that does not take too many nodes. -/
theorem group_outcomes (hacc : st.validator.IsAccepted)
    (hhier : st.validator.hierarchy = .ofSchema st.validator.schema) {m : Memo}
    (hm : st.KnowsUpToIds m) {id : ExprId} (hid : st.IsNew m id) {l : Label} {parts : List Part}
    (hparts : Plan.partsOf st.validator.schema st.validator.hierarchy l = .ok parts) :
    Outcomes ValidationFault.IsExpansion
      (fun g p => p.parts = parts ∧ ∃ I, g.Alike I st.validator.schema.Has p.form ∧
        ∀ i j, I i j → j ∈ p.form.expr.constraintIds)
      (st.formForFrom m (TripleExpr.group? id (Plan.expressions parts))) (st.planFrom m l) := by
  have hes := fun e he => @has_of_partsOf _ st hhier l parts hparts e he
  cases hg : st.formForFrom m (TripleExpr.group? id (Plan.expressions parts)) with
  | error x => exact .inl (formForFrom_group_expansion hid hes hacc hg)
  | ok g =>
    obtain ⟨p, hp⟩ : ∃ p, st.planFrom m l = .ok p := by
      rw [planFrom]
      cases m.plans.get? l with
      | some p => exact ⟨p, rfl⟩
      | none =>
        obtain ⟨f, hf⟩ := exists_joinedFrom_of_group hid l hg
        exact ⟨⟨parts, f⟩, by simp [hparts, Except.bind, hf, Except.map]⟩
    have hvalues := (hm.isPlan hhier hp).has hacc hhier
    obtain ⟨i, hplan⟩ := hm.isPlan hhier hp
    obtain rfl : p.parts = parts := Except.ok.inj (hplan.parts.symm.trans hparts)
    obtain ⟨I, hI, hids⟩ := joined_alike hacc hes hplan.form
      (isJoinedUpToIds_of_group hid hes hm hg) hvalues
    exact ⟨p, hp, rfl, flip I, hI.swap, fun i j hij => hids j i hij⟩

end Setting

/-! ### Shapes without further conjuncts -/

namespace Schema

variable {s : Schema}

/-- The shape that a label is declared as, if the declaration is nothing but a shape and the shape
has no semantic actions. -/
def bareShape? (s : Schema) (l : Label) : Option Shape :=
  match s.shape? l with
  | some ⟨_, .shape m h t⟩ => if m.actions.isEmpty then some ⟨h, t⟩ else none
  | _ => none

/-- The shapes of a label and of what it extends, in the order of its ancestors. -/
def lineage (s : Schema) (l : Label) : List Shape :=
  ((Hierarchy.ofSchema s).ancestors l).filterMap s.bareShape?

/-- A shape has what a label and its ancestors have: their triple expressions in the order of the
ancestors, in a group with the identity `id` if they are several, and their extra predicates. It is
closed if the shape of the label is. -/
structure Flattens (s : Schema) (l : Label) (id : ExprId) (flat : Shape) : Prop where
  expression : flat.expression = TripleExpr.group? id ((s.lineage l).filterMap Shape.expression)
  extra : ∀ p, p ∈ flat.header.extra ↔ ∃ shape ∈ s.lineage l, p ∈ shape.header.extra
  closed : flat.header.closed = (s.bareShape? l).any (·.header.closed)

/-- A bare declaration is a shape without actions, and nothing else. -/
theorem bareShape?_eq_some {l : Label} {shape : Shape} (h : s.bareShape? l = some shape) :
    ∃ a m, m.actions = [] ∧ s.shape? l = some ⟨a, .shape m shape.header shape.expression⟩ := by
  unfold bareShape? at h
  split at h
  · rename_i a m hd t hdecl
    obtain ⟨hactions, h⟩ := Option.ite_none_right_eq_some.mp h
    obtain rfl := Option.some.inj h
    exact ⟨a, m, List.isEmpty_iff.mp hactions, hdecl⟩
  · cases h

end Schema

/-- A part with nothing to check beside its triple expression. -/
structure Part.IsBare (p : Part) : Prop where
  actions : p.main.actions = []
  constraints : p.constraints = []

/-- The part of a label that is declared as a shape and nothing else. -/
theorem Part.ofLabel_bare {s : Schema} {l : Label} {shape : Shape}
    (h : s.bareShape? l = some shape) :
    ∃ p, Part.ofLabel s l = .ok p ∧ p.shape = shape ∧ p.IsBare ∧
      ∀ d, s.shape? l = some d → p.main = d.expr := by
  obtain ⟨a, m, hactions, hd⟩ := Schema.bareShape?_eq_some h
  simp only [Part.ofLabel, hd, ShapeExpr.extendable?]
  refine ⟨_, rfl, rfl, ⟨hactions, rfl⟩, fun d hd' => ?_⟩
  obtain rfl := Option.some.inj hd'
  rfl

/-- The parts of labels that are declared as shapes and nothing else: each has its shape, no
actions, and nothing beside the main shape. -/
theorem Part.mapM_ofLabel_bare {s : Schema} {as : List Label}
    (h : ∀ a ∈ as, (s.bareShape? a).isSome = true) :
    ∃ parts, as.mapM (Part.ofLabel s) = .ok parts ∧
      parts.map Part.shape = as.filterMap s.bareShape? ∧ ∀ p ∈ parts, p.IsBare := by
  induction as with
  | nil => exact ⟨[], rfl, rfl, nofun⟩
  | cons a as ih =>
    rw [List.forall_mem_cons] at h
    obtain ⟨shape, hshape⟩ := Option.isSome_iff_exists.mp h.1
    obtain ⟨p, hp, rfl, hbare, -⟩ := Part.ofLabel_bare hshape
    obtain ⟨parts, hparts, hshapes, hrest⟩ := ih h.2
    refine ⟨p :: parts, mapM_eq_ok_iff.2 (.cons hp (mapM_eq_ok_iff.1 hparts)), ?_,
      List.forall_mem_cons.2 ⟨hbare, hrest⟩⟩
    rw [List.map_cons, List.filterMap_cons, hshape, hshapes]

/-- What the plan of a label is made of, if the label and its ancestors are declared as shapes and
nothing else. -/
theorem Plan.partsOf_bare {s : Schema} {l : Label} {d : ShapeDecl} (hd : s.shape? l = some d)
    (h : ∀ a ∈ (Hierarchy.ofSchema s).ancestors l, (s.bareShape? a).isSome = true) :
    ∃ p rest, partsOf s (.ofSchema s) l = .ok (p :: rest) ∧
      (p :: rest).map Part.shape = s.lineage l ∧ (∀ q ∈ p :: rest, q.IsBare) ∧
      p.main = d.expr ∧ s.bareShape? l = some p.shape := by
  obtain ⟨as, has⟩ := Hierarchy.ancestors_eq_cons (Schema.isFunctional_ofSchema s) l
  obtain ⟨parts, hparts, hshapes, hbare⟩ := Part.mapM_ofLabel_bare h
  have hall := mapM_eq_ok_iff.1 hparts
  rw [has] at hall h
  cases hall with
  | @cons _ p _ rest hp _ =>
    obtain ⟨shape, hshape⟩ := Option.isSome_iff_exists.mp (h l List.mem_cons_self)
    obtain ⟨p', hp', rfl, -, hmain⟩ := Part.ofLabel_bare hshape
    obtain rfl : p' = p := Except.ok.inj (hp'.symm.trans hp)
    exact ⟨p', rest, hparts, hshapes, hbare, hmain d hd, hshape⟩

namespace Setting

variable {σ : Type} {st : Setting σ} {values nested : Evaluator σ} {scope : Scope} {node : Term}

/-- Without actions there is nothing to judge. -/
theorem judgeActions_nil (ts : List Triple) :
    st.judgeActions scope node [] ts = pure .conforms := rfl

/-- Parts with nothing to check are checked at once. -/
theorem satisfiesParts_bare (owners : List (Edge × Nat)) :
    ∀ {parts : List (Part × Nat)}, (∀ p ∈ parts, p.1.IsBare) →
      st.satisfiesParts nested scope node owners parts = pure .conforms
  | [], _ => rfl
  | (p, i) :: rest, h => by
    rw [List.forall_mem_cons] at h
    have hrest := satisfiesParts_bare owners h.2
    rw [satisfiesParts, h.1.actions, h.1.constraints, judgeActions_nil, pure_bind]
    exact hrest

/-- The verdict that an outcome of matching leads to when nothing else is to be checked. -/
def verdictOf {α : Type} : Judged α → Verdict
  | .error reasons => .fails reasons
  | .ok _ => .conforms

/-- A shape without semantic actions is a matter of its form. The verdict of the flat shape is then
that of matching, and so is the verdict of an extension of bare ancestors. -/
theorem satisfies_shape {k : Nat} {mark : Mark} (hmark : mark.actions = []) (hd : ShapeHeader)
    (t : Option TripleExpr) :
    st.satisfies (k + 1) scope node (.shape mark hd t) = (do
      let form ← st.formFor t
      let j ← st.matchAround (st.satisfies k) scope node form hd.closed hd.extra
      return verdictOf j) := by
  have hactions : (ShapeExpr.shape mark hd t).actions = [] := hmark
  rw [satisfies, evaluate, satisfiesShape_eq, bind_assoc, hactions]
  refine bind_congr fun form => ?_
  rw [bind_assoc]
  refine bind_congr fun j => ?_
  rw [pure_bind]
  cases j <;> rfl

variable (st nested) in
/-- What is left to check for an extending shape when its neighbourhood is matched. -/
def finishExtending (scope : Scope) (node : Term) (l : Label) (declared : ShapeExpr) (plan : Plan)
    (a : Assignment) : Run σ Verdict := do
  match ownersOf plan l a.matched with
  | .error fault => throw fault
  | .ok owners =>
    match ← st.satisfiesParts nested scope node owners plan.parts.zipIdx with
    | .fails reasons => return .fails reasons
    | .conforms =>
      if plan.parts.head?.map (·.main.id) = some declared.id then return .conforms
      else st.judgeActions scope node declared.actions a.triples

/-- The evaluation of an extension in two steps: matching with its plan, and what is done with the
assignment. The first is shared with the flat shape, and the second does nothing where ancestors are
bare. -/
theorem satisfiesExtending_eq (l : Label) (declared : ShapeExpr) :
    st.satisfiesExtending values nested scope node l declared = (do
      let plan ← st.planOf l
      match ← st.matchAround values scope node plan.form plan.isClosed plan.extra with
      | .error reasons => return .fails reasons
      | .ok a => st.finishExtending nested scope node l declared plan a) := rfl

/-- Nothing is left to check if the parts have nothing beside their triple expressions and all that
is matched has owners. -/
theorem finishExtending_bare {l : Label} {declared : ShapeExpr} {plan : Plan} {a : Assignment}
    (hbare : ∀ q ∈ plan.parts, q.IsBare) (hmain : plan.parts.head?.map Part.main = some declared)
    (howned : ∀ x ∈ a.matched, (plan.ownerOfId x.2).isSome = true) :
    st.finishExtending nested scope node l declared plan a = pure .conforms := by
  have hid : plan.parts.head?.map (·.main.id) = some declared.id := by
    rw [← Option.map_some, ← hmain, Option.map_map]
    rfl
  unfold finishExtending
  cases ho : ownersOf plan l a.matched with
  | error fault =>
    obtain ⟨x, hx, hnone, -⟩ := ownersOf_eq_error ho
    have := howned x hx
    rw [hnone] at this
    cases this
  | ok owners =>
    dsimp only
    rw [satisfiesParts_bare owners fun x hx => hbare x.1 (List.fst_mem_of_mem_zipIdx hx), pure_bind]
    exact if_pos hid

end Setting

/-! ### The two checks -/

namespace Setting

variable {σ : Type} {st : Setting σ} {nested : Evaluator σ} {scope : Scope} {node : Term}

variable (st) in
/-- Two runs have done the same: they offer what `m` offers, have tried as many assignments, and
have left the handlers in the same state. -/
structure SameCourse (m : Memo) (s t : RunState σ) : Prop where
  left : st.OffersSame m s.memo
  right : st.OffersSame m t.memo
  assignments : s.assignments = t.assignments
  world : s.world = t.world

/-- What is remembered on the way offers the same, so the relation lasts. -/
theorem lastsOnRecall_sameCourse (m : Memo) : LastsOnRecall st st m m (st.SameCourse m) where
  left h := h.left
  right h := h.right
  lasts h hn hn' := ⟨h.left.trans hn, h.right.trans hn', h.assignments, h.world⟩

/-- Runs that have done the same go on to do the same. The memos may differ in what was added since
`m`, as long as they offer the same: a form that one of them has is what the other one would
compute. -/
theorem mirrors_sameCourse {F : ValidationFault → Prop} {m : Memo}
    (hacc : st.validator.IsAccepted)
    (hhier : st.validator.hierarchy = .ofSchema st.validator.schema)
    (hco : st.validator.schema.IsCoherent) (hm : st.KnowsUpToIds m) :
    Mirrors (st.SameCourse m) F st.validator.schema.Has st st := by
  refine mirrors_of_lasts (lastsOnRecall_sameCourse m) hhier hco rfl rfl rfl (fun acts ts => ?_)
    ?_ (fun mk h t ht => ?_) fun l _ => ?_
  · intro s t hst
    rw [runActions_run, runActions_run, ← hst.world]
    cases ((st.handlers.run ts acts).run s.world).1 with
    | error e => exact .inr ⟨_, rfl, hst.left, hst.right, hst.assignments, rfl⟩
    | ok b => exact ⟨b, _, rfl, rfl, hst.left, hst.right, hst.assignments, rfl⟩
  · intro s t hst
    rw [tick_run, tick_run, ← hst.assignments]
    cases st.limits.allow (s.assignments + 1) with
    | error e => exact .inr ⟨_, rfl, hst.left, hst.right, rfl, hst.world⟩
    | ok u => exact ⟨u, _, rfl, rfl, hst.left, hst.right, rfl, hst.world⟩
  · cases hf : st.formForFrom m t with
    | error e => exact .inr rfl
    | ok f => exact ⟨f, rfl, Eq, .refl ((hm.isForm ht hf).has hacc ht)⟩
  · cases hp : st.planFrom m l with
    | error e => exact .inr rfl
    | ok p =>
      have hplan := hm.isPlan hhier hp
      exact ⟨p, rfl, Eq, .refl (hplan.has hacc hhier) (hplan.has_conjunct hhier)⟩

/-- An extending shape whose parts have nothing to check beside it is checked like a shape with a
form alike to that of its plan. -/
theorem satisfiesExtending_simulates {R : RunState σ → RunState σ → Prop}
    {F : ValidationFault → Prop} {P : ShapeExpr → Prop} (h : Mirrors R F P st st)
    {values values' : Evaluator σ} (hvalues : EvaluatorMirrors R F P values values') (scope : Scope)
    (node : Term) (nested : Evaluator σ) (l : Label) {declared : ShapeExpr} {plan : Plan}
    (hbare : ∀ q ∈ plan.parts, q.IsBare)
    (hmain : plan.parts.head?.map Part.main = some declared)
    (howned : ∀ i ∈ plan.form.expr.constraintIds, (plan.ownerOfId i).isSome = true)
    {I : ExprId → ExprId → Prop} {g : Form} (hg : g.Alike I P plan.form)
    (hids : ∀ i j, I i j → j ∈ plan.form.expr.constraintIds) :
    Simulates R Eq F
      (do
        let j ← st.matchAround values scope node g plan.isClosed plan.extra
        return verdictOf j)
      (do
        match ← st.matchAround values' scope node plan.form plan.isClosed plan.extra with
        | .error reasons => return .fails reasons
        | .ok a => st.finishExtending nested scope node l declared plan a) := by
  refine (h.matchAround hvalues hg scope node _ _).bind fun j j' hj => ?_
  obtain ⟨rs, rfl, rfl⟩ | ⟨a, b, rfl, rfl, hab⟩ := hj
  · exact Simulates.pure rfl
  · dsimp only
    rw [finishExtending_bare hbare hmain
      (hab.forall_matched fun i j hij => howned j (hids i j hij))]
    exact Simulates.pure rfl

/-- Inheritance flattens. Let a label and all that it extends be declared as shapes without semantic
actions and further conjuncts, in an accepted schema that is written. Then the check of its
declaration comes to the same result as the check of one shape with the joined triple expressions,
all extra predicates, and closed if the shape of the label is: the same verdict with the same
diagnostics, or the same fault. It does the same to the counts and the handlers, and what is
remembered afterwards offers the same. This is so in every scope, whatever the graph, the handlers
and what is remembered are, and however deep the two checks may nest, unless the check of the one
shape comes to a limit. -/
theorem satisfiesExtending_flattens
    (hv : st.validator.IsBuilt)
    (hco : st.validator.schema.IsCoherent) (hwritten : st.validator.schema.isWritten = true)
    {l : Label} {d : ShapeDecl} (hd : st.validator.schema.shape? l = some d)
    (hbare : ∀ a ∈ st.validator.hierarchy.ancestors l,
      (st.validator.schema.bareShape? a).isSome = true)
    {s : RunState σ} (hm : st.KnowsUpToIds s.memo) {id : ExprId} (hid : st.IsNew s.memo id)
    {flat : Shape} (hflat : st.validator.schema.Flattens l id flat)
    {mark : Mark} (hmark : mark.actions = []) {k depth : Nat} (hk : k ≤ depth)
    (scope : Scope) (node : Term)
    (hlimit : ∀ x, ((st.satisfies (k + 1) scope node
      (.shape mark flat.header flat.expression)).run.run s).1 ≠ .error (.limit x)) :
    ∃ r t t', (st.satisfies (k + 1) scope node
        (.shape mark flat.header flat.expression)).run.run s = (r, t) ∧
      (st.satisfiesExtending (st.satisfies depth) (st.satisfies depth) scope node l d.expr).run.run
        s = (r, t') ∧
      st.SameCourse s.memo t t' := by
  have hacc := hv.accepted
  have hhier := hv.hierarchy
  obtain ⟨p, rest, hparts, hshapes, hpbare, hmain, hown⟩ := Plan.partsOf_bare hd (hhier ▸ hbare)
  rw [← hhier] at hparts
  have hes := fun e he => @has_of_partsOf _ st hhier l (p :: rest) hparts e he
  have hexpression : flat.expression = TripleExpr.group? id (Plan.expressions (p :: rest)) := by
    rw [hflat.expression, ← hshapes, List.filterMap_map]
    rfl
  have houtcomes := group_outcomes hacc hhier hm hid hparts
  obtain ⟨n, hflatrun, hn⟩ := formFor_group_run hhier hco hes hid
  obtain ⟨n', hplanrun, hn'⟩ := planOf_run hhier hco l s
  rw [satisfies_shape hmark, hexpression, run_bind, hflatrun] at hlimit ⊢
  rw [satisfiesExtending_eq, run_bind, hplanrun]
  cases hg : st.formForFrom s.memo (TripleExpr.group? id (Plan.expressions (p :: rest))) with
  | error x =>
    obtain ⟨y, rfl⟩ := (formForFrom_group_expansion hid hes hacc hg).isLimit
    rw [hg] at hlimit
    exact absurd rfl (hlimit y)
  | ok g =>
    rw [hg] at hlimit houtcomes
    obtain ⟨plan, hplan, hpp, I, hI, hids⟩ := houtcomes
    rw [hplan]
    have hclosed : flat.header.closed = plan.isClosed := by
      rw [hflat.closed, hown, Plan.isClosed, hpp]
      rfl
    have hextra : ∀ q, q ∈ flat.header.extra ↔ q ∈ plan.extra := by
      intro q
      rw [hflat.extra, ← hshapes, Plan.extra, hpp, List.mem_flatMap]
      simp only [List.mem_map, exists_exists_and_eq_and]
    have hmirrors : Mirrors (st.SameCourse s.memo) ValidationFault.IsLimit
        st.validator.schema.Has st st := mirrors_sameCourse hacc hhier hco hm
    have hhead : plan.parts.head?.map Part.main = some d.expr := by
      rw [hpp, List.head?_cons, Option.map_some, hmain]
    have hsim := satisfiesExtending_simulates hmirrors (hmirrors.satisfies (.inr ⟨hk, _, rfl⟩))
      scope node (st.satisfies depth) l (hpp ▸ hpbare) hhead
      (fun i => (hm.isPlan hhier hplan).isSome_ownerOfId hacc hhier hwritten) hI hids
    dsimp only at hlimit ⊢
    rw [hclosed, matchAround_extra g plan.isClosed hextra] at hlimit ⊢
    refine hsim.ends_alike (s := { s with memo := n }) (t := { s with memo := n' })
      ⟨hn, hn', rfl, rfl⟩ ?_
    rintro _ ⟨y, rfl⟩
    exact hlimit y

end Setting

/-! ### Example -/

/-- `<A> { p . }`, `<B> EXTENDS @<A> { q @<D> }`, `<C> EXTENDS @<A> EXTRA r { r . }` and
`<D> EXTENDS @<B> EXTENDS @<C> CLOSED { s . }` -/
def diamondSchema : Schema :=
  (((Schema.empty.addShape (.iri ⟨"A"⟩) ⟨false, .shape ⟨⟨0⟩, []⟩ .plain
    (some (.constraint (.written ⟨⟨1⟩, []⟩) ⟨⟨"p"⟩, false⟩ none))⟩).addShape (.iri ⟨"B"⟩)
    ⟨false, .shape ⟨⟨2⟩, []⟩ ⟨false, [], [.iri ⟨"A"⟩]⟩ (some
      (.constraint (.written ⟨⟨3⟩, []⟩) ⟨⟨"q"⟩, false⟩
        (some (.ref ⟨⟨4⟩, []⟩ (.iri ⟨"D"⟩)))))⟩).addShape (.iri ⟨"C"⟩)
    ⟨false, .shape ⟨⟨5⟩, []⟩ ⟨false, [⟨"r"⟩], [.iri ⟨"A"⟩]⟩ (some
      (.constraint (.written ⟨⟨6⟩, []⟩) ⟨⟨"r"⟩, false⟩ none))⟩).addShape (.iri ⟨"D"⟩)
    ⟨false, .shape ⟨⟨7⟩, []⟩ ⟨true, [], [.iri ⟨"B"⟩, .iri ⟨"C"⟩]⟩ (some
      (.constraint (.written ⟨⟨8⟩, []⟩) ⟨⟨"s"⟩, false⟩ none))⟩

/-- Two triples with `r` around `n`, of which one is left over, and one with `t`, which `<D>` does
not admit. -/
def diamondSetting : Setting Unit :=
  settingOf diamondSchema [link "n" "p" "n", link "n" "q" "n", link "n" "r" "n", link "n" "r" "m",
    link "n" "s" "n", link "n" "t" "n"]

/-- `CLOSED EXTRA r { s . ; q @<D> ; r . ; p . }` -/
def flatDiamond : Shape :=
  ⟨⟨true, [⟨"r"⟩], []⟩, some (.eachOf (.written ⟨⟨100⟩, []⟩)
    [.constraint (.written ⟨⟨8⟩, []⟩) ⟨⟨"s"⟩, false⟩ none,
      .constraint (.written ⟨⟨3⟩, []⟩) ⟨⟨"q"⟩, false⟩ (some (.ref ⟨⟨4⟩, []⟩ (.iri ⟨"D"⟩))),
      .constraint (.written ⟨⟨6⟩, []⟩) ⟨⟨"r"⟩, false⟩ none,
      .constraint (.written ⟨⟨1⟩, []⟩) ⟨⟨"p"⟩, false⟩ none])⟩

/-- Inside a check of `n` against `<D>`, with the triple that is not admitted hidden. -/
def insideDiamond : Scope :=
  ⟨[(.resource (.iri ⟨"n"⟩), .iri ⟨"D"⟩)], some (.iri ⟨"D"⟩),
    [(.resource (.iri ⟨"n"⟩), [⟨link "n" "t" "n", false⟩])]⟩

/-- A memo with a plan of `<D>`, whose copies have identities of their own. -/
def diamondMemo : Memo :=
  ((diamondSetting.validator.renumber fun _ => ⟨50⟩).validate .standard (.empty : Handlers Unit)
    diamondSetting.graph [(.resource (.iri ⟨"n"⟩), .label (.iri ⟨"D"⟩))] .empty ()).2.1

/-- The flat shape of the example has what the four declarations have. -/
theorem diamondSchema_flattens : diamondSchema.Flattens (.iri ⟨"D"⟩) ⟨100⟩ flatDiamond := by
  refine ⟨rfl, fun p => ?_, rfl⟩
  have hextra : (diamondSchema.lineage (.iri ⟨"D"⟩)).flatMap (·.header.extra) = [⟨"r"⟩] := rfl
  rw [← List.mem_flatMap, hextra]
  rfl

/-- The identity of the group in the flat shape occurs nowhere else. -/
theorem diamondMemo_isNew : diamondSetting.IsNew diamondMemo ⟨100⟩ := by
  refine ⟨fun mk h e he hid => ?_, Option.isNone_iff_eq_none.mp (by decide +kernel)⟩
  have hall : diamondSchema.expressions.all
      (fun x => (x.shape?.bind Shape.expression).all (·.id ≠ ⟨100⟩)) = true := rfl
  have hx := List.all_eq_true.mp hall _ (Schema.has_iff_mem_expressions.mp he)
  simp [ShapeExpr.shape?, hid] at hx

/-- A diamond of shapes gets the verdict of one shape, by a plan that an earlier run has left, while
`n` is being checked against the same label and has a triple hidden. -/
theorem diamond_flattens :
    diamondMemo.plans.size = 1 ∧
    ∃ t t', (diamondSetting.satisfies 8 insideDiamond (.resource (.iri ⟨"n"⟩))
        (.shape ⟨⟨101⟩, []⟩ flatDiamond.header flatDiamond.expression)).run.run
          ⟨diamondMemo, 0, ()⟩ = (.ok .conforms, t) ∧
      ∃ d, diamondSchema.shape? (.iri ⟨"D"⟩) = some d ∧
        (diamondSetting.satisfiesExtending (diamondSetting.satisfies 9) (diamondSetting.satisfies 9)
          insideDiamond (.resource (.iri ⟨"n"⟩)) (.iri ⟨"D"⟩) d.expr).run.run
            ⟨diamondMemo, 0, ()⟩ = (.ok .conforms, t') ∧
        diamondSetting.SameCourse diamondMemo t t' := by
  have hconforms : ((diamondSetting.satisfies 8 insideDiamond (.resource (.iri ⟨"n"⟩))
      (.shape ⟨⟨101⟩, []⟩ flatDiamond.header flatDiamond.expression)).run.run
        ⟨diamondMemo, 0, ()⟩).1 = .ok .conforms := by decide +kernel
  have hco : diamondSchema.IsCoherent := Schema.isCoherent_of_nodup (by decide) (by decide)
  have hv : diamondSetting.validator.IsBuilt := ⟨rfl, rfl⟩
  have hacc := hv.accepted
  have hhier := hv.hierarchy
  have hknows : diamondSetting.KnowsUpToIds diamondMemo :=
    Setting.knowsUpToIds_of_mayRemember hacc hhier hco (.run .nothing (fun _ => ⟨50⟩) _ _ _ _ _)
  have hmark : (⟨⟨101⟩, []⟩ : Mark).actions = [] := rfl
  have hdepth : 7 ≤ 9 := by decide
  obtain ⟨r, t, t', hflat, hext, hcourse⟩ := Setting.satisfiesExtending_flattens hv hco (by decide)
    rfl (by decide) (s := ⟨diamondMemo, 0, ()⟩) hknows diamondMemo_isNew diamondSchema_flattens
    hmark hdepth insideDiamond (.resource (.iri ⟨"n"⟩)) fun x hx => by cases hconforms.symm.trans hx
  obtain rfl : r = .ok .conforms := by
    rw [hflat] at hconforms
    exact hconforms
  exact ⟨by decide +kernel, t, t', hflat, _, rfl, hext, hcourse⟩

end Shex
