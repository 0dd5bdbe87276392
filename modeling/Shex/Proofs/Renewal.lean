import Shex.Proofs.InStep
import Shex.Proofs.Owners
import Shex.Proofs.SideBySide

/-!
# What is remembered does not show

Forms of one expression that were computed under different limits and with different identities
differ in their identities only (`Setting.forms_alike`), and so do plans of one label
(`Setting.plans_alike`). A validator that remembers forms and plans therefore gives what it would
give if it remembered nothing, unless that would take copies of too many nodes or end with a
constraint that belongs to no part, which is called by its identity
(`Validator.validate_renumbered`). Such an end does depend on what is remembered
(`recalled_plan_names_other_constraint`).
-/

namespace Shex

variable {I : ExprId → ExprId → Prop} {P : ShapeExpr → Prop}

/-! ### Forms of the same structure -/

/-- Any constraints that differ in their identities only. -/
abbrev TripleConstraint.Renewed (I : ExprId → ExprId → Prop) :
    TripleConstraint → TripleConstraint → Prop :=
  TripleConstraint.Alike I fun _ => True

/-- An expression has the structure that it has. -/
theorem TripleExpr.corresponds_renewed (e : TripleExpr) :
    e.Corresponds (TripleConstraint.Renewed Eq) e :=
  .refl (fun _ => ⟨rfl, rfl, rfl, rfl, fun _ _ => trivial⟩) e

/-- Two forms of the same structure are alike. Only the identities in the first one matter, and
others may be related to anything. -/
theorem Form.Corresponds.alike {f g : Form} (hI : Relator.BiUnique I)
    (h : f.Corresponds (TripleConstraint.Renewed I) I g) (hc : f.expr.isCountable = true)
    (hP : ∀ c ∈ f.constraints, ∀ v, c.value = some v → P v) :
    f.Alike (fun i j => I i j ∧ i ∈ f.expr.constraintIds) P g where
  unique := ⟨fun _ _ _ h h' => hI.left h.1 h'.1, fun _ _ _ h h' => hI.right h.1 h'.1⟩
  constraints := by
    have hcs := h.expr.constraints
    rw [List.forall₂_iff_zip] at hcs ⊢
    refine ⟨hcs.1, fun {c d} hcd => ?_⟩
    have hmem := (List.of_mem_zip hcd).1
    have hrel := hcs.2 hcd
    exact ⟨⟨hrel.id, List.mem_map_of_mem hmem⟩, hrel.source, hrel.arc, hrel.value, hP c hmem⟩
  matchesBag b b' hb :=
    h.expr.matchesBag_eq hI (hb.imp fun _ _ => And.left) (fun _ _ h => h.id) hc
  annotated := h.annotated.imp fun a b hab =>
    ⟨congrArg Mark.actions hab.source, fun i j hij => List.rel_mem hI hij.1 hab.constraints⟩

/-- Expressions of the same structure are normalized alike, whatever identities copies get. A fault
on one side is the same fault on the other, for it comes from the budget or from a reference. -/
theorem TripleExpr.normalize_corresponds (S : Schema) {e e' : TripleExpr}
    (h : e.Corresponds (TripleConstraint.Renewed Eq) e') (limit : Nat) (i j : ExprId) :
    match e.normalize S limit i, e'.normalize S limit j with
    | .ok f, .ok g => ∃ I, Relator.BiUnique I ∧ f.Corresponds (TripleConstraint.Renewed I) I g
    | .error x, .error y => x = y
    | _, _ => False := by
  have hids : e.constraintIds = e'.constraintIds := by
    rw [← List.forall₂_eq_eq_eq]
    exact h.constraintIds fun _ _ h => h.id
  have hsorbe : e.isSorbe = e'.isSorbe := by rw [isSorbe, isSorbe, h.isCountable_eq, hids]
  cases hs : e.isSorbe with
  | true =>
    rw [normalize, normalize, if_pos hs, if_pos (hsorbe ▸ hs)]
    exact ⟨Eq, ⟨fun _ _ _ h h' => h.trans h'.symm, fun _ _ _ h h' => h.symm.trans h'⟩,
      Form.ofSorbe_corresponds (fun _ _ h => h.id) h⟩
  | false =>
    have hS : ∀ l, Option.Rel (Corresponds (TripleConstraint.Renewed Eq)) (S.tripleExpr? l)
        (S.tripleExpr? l) := by
      intro l
      cases S.tripleExpr? l with
      | none => exact .none
      | some e => exact .some e.corresponds_renewed
    have hrel := normalize_relates (A := TripleConstraint.Renewed (Shifted i.index j.index))
      (fun _ _ h => h.id) (fun c d _ _ h hk => ⟨hk, h.source, h.arc, h.value, fun _ _ => trivial⟩)
      hS rfl h hs (hsorbe ▸ hs) limit
    revert hrel
    cases e.normalize S limit i <;> cases e'.normalize S limit j
    · exact fun h => h
    · exact fun h => h
    · exact fun h => h
    · exact fun h => ⟨_, Shifted.biUnique _ _, h⟩

/-- Two forms of expressions of the same structure are alike, whatever the limits were and whatever
identities the copies have. -/
theorem TripleExpr.alike_of_normalize {S : Schema} {e e' : TripleExpr}
    (h : e.Corresponds (TripleConstraint.Renewed Eq) e') {limit limit' : Nat} {i j : ExprId}
    {f g : Form} (hf : e.normalize S limit i = .ok f) (hg : e'.normalize S limit' j = .ok g)
    (hc : f.expr.isCountable = true) (hP : ∀ c ∈ f.constraints, ∀ v, c.value = some v → P v) :
    ∃ I, f.Alike I P g ∧ ∀ a b, I a b → a ∈ f.expr.constraintIds := by
  have hrel := normalize_corresponds S h (max limit limit') i j
  rw [normalize_mono (Nat.le_max_left _ _) hf, normalize_mono (Nat.le_max_right _ _) hg] at hrel
  obtain ⟨I, hI, hfg⟩ := hrel
  exact ⟨_, hfg.alike hI hc hP, fun _ _ h => h.2⟩

/-- Where an expression has a form with some identities, expressions of the same structure have one
with others. -/
theorem TripleExpr.exists_normalize {S : Schema} {e e' : TripleExpr}
    (h : e.Corresponds (TripleConstraint.Renewed Eq) e') {limit : Nat} {i : ExprId} {f : Form}
    (hf : e.normalize S limit i = .ok f) (j : ExprId) : ∃ g, e'.normalize S limit j = .ok g := by
  have hrel := normalize_corresponds S h limit i j
  rw [hf] at hrel
  revert hrel
  cases e'.normalize S limit j with
  | error x => exact False.elim
  | ok g => exact fun _ => ⟨g, rfl⟩

/-- The group that joins expressions has the same structure under every identity. -/
theorem TripleExpr.joined_corresponds (i j : ExprId) (es : List TripleExpr) :
    (eachOf (.written ⟨i, []⟩) es).Corresponds (TripleConstraint.Renewed Eq)
      (eachOf (.written ⟨j, []⟩) es) :=
  .eachOf (.inr ⟨rfl, rfl⟩) (.refl (fun _ => ⟨rfl, rfl, rfl, rfl, fun _ _ => trivial⟩) es)

/-- The forms of shapes without triple expression are alike. -/
theorem Form.empty_alike (i j : ExprId) :
    ∃ I, (Form.empty i).Alike I P (.empty j) ∧
      ∀ a b, I a b → a ∈ (Form.empty i).expr.constraintIds :=
  have h : (Form.empty i).Corresponds (TripleConstraint.Renewed Eq) Eq (.empty j) :=
    ⟨.empty (.inr ⟨rfl, rfl⟩), .nil⟩
  ⟨_, h.alike ⟨fun _ _ _ h h' => h.trans h'.symm, fun _ _ _ h h' => h.symm.trans h'⟩ rfl
    (by simp [Form.constraints, Form.empty, TripleExpr.constraints]), fun _ _ h => h.2⟩

namespace Setting

variable {σ : Type} {st : Setting σ}

/-! ### Forms and plans of the schema -/

/-- Two forms of one shape are alike: each is the form of the triple expression under some limit and
numbering, and neither makes a difference to the structure. -/
theorem forms_alike (hacc : st.validator.IsAccepted) {mk : Mark} {h : ShapeHeader}
    {t : Option TripleExpr} (ht : st.validator.schema.Has (.shape mk h t)) {f g : Form}
    (hf : st.IsFormUpToIds t f) (hg : st.IsFormUpToIds t g) :
    ∃ I, f.Alike I st.validator.schema.Has g ∧ ∀ a b, I a b → a ∈ f.expr.constraintIds := by
  have hvalues := hf.has hacc ht
  obtain ⟨ν, hf⟩ := hf
  obtain ⟨ν', hg⟩ := hg
  have hacc' : (st.renumbered ν).validator.IsAccepted := hacc
  cases t with
  | none =>
    cases hf
    cases hg
    exact Form.empty_alike _ _
  | some e =>
    have hrep := IsForm.represents hacc' ht hf
    obtain ⟨limit, hf⟩ := hf
    obtain ⟨limit', hg⟩ := hg
    exact TripleExpr.alike_of_normalize e.corresponds_renewed hf hg hrep.countable hvalues

variable (st) in
/-- A form of joined triple expressions, under some limit and with some identities. -/
def IsJoinedUpToIds (es : List TripleExpr) (f : Form) : Prop :=
  match es with
  | [] => ∃ i, f = .empty i
  | [e] => st.IsFormUpToIds (some e) f
  | es => ∃ id limit i, (TripleExpr.eachOf (.written ⟨id, []⟩) es).normalize st.validator.schema
      limit i = .ok f

/-- A joined form, made under any numbering, is the joined form up to the identities of its
copies. -/
theorem IsJoined.upToIds {l : Label} {es : List TripleExpr} {ν : Numbering} {f : Form}
    (h : (st.renumbered ν).IsJoined l es f) : st.IsJoinedUpToIds es f := by
  match es, h with
  | [], h => exact ⟨_, h⟩
  | [_], h => exact ⟨ν, h⟩
  | _ :: _ :: _, ⟨limit, h⟩ => exact ⟨_, limit, _, h⟩

/-- Two forms of the same joined expressions are alike. The group that joins them has an identity of
its own in each, which no constraint has. -/
theorem joined_alike (hacc : st.validator.IsAccepted) {es : List TripleExpr}
    (hes : ∀ e ∈ es, ∃ mk h, st.validator.schema.Has (.shape mk h (some e))) {l : Label}
    {ν : Numbering} {f g : Form} (hf : (st.renumbered ν).IsJoined l es f)
    (hg : st.IsJoinedUpToIds es g)
    (hvalues : ∀ c ∈ f.constraints, ∀ v, c.value = some v → st.validator.schema.Has v) :
    ∃ I, f.Alike I st.validator.schema.Has g ∧ ∀ a b, I a b → a ∈ f.expr.constraintIds := by
  have hacc' : (st.renumbered ν).validator.IsAccepted := hacc
  obtain ⟨hcountable, -⟩ := hf.regular hacc' hes
  match es, hes, hf, hg with
  | [], _, hf, ⟨_, hg⟩ =>
    cases hf
    cases hg
    exact Form.empty_alike _ _
  | [e], hes, hf, hg =>
    obtain ⟨mk, h, he⟩ := hes e (List.mem_singleton_self e)
    exact forms_alike hacc he ⟨ν, hf⟩ hg
  | e :: e' :: es, _, ⟨_, hf⟩, ⟨_, _, _, hg⟩ =>
    exact TripleExpr.alike_of_normalize (TripleExpr.joined_corresponds _ _ _) hf hg hcountable
      hvalues

section
variable (hacc : st.validator.IsAccepted)
  (hhier : st.validator.hierarchy = .ofSchema st.validator.schema) {l : Label} {p q : Plan}
include hacc hhier

/-- Every identity in the form of a plan belongs to a part, in a schema that is written. -/
theorem IsPlanUpToIds.isSome_ownerOfId (hwritten : st.validator.schema.isWritten = true)
    (hp : st.IsPlanUpToIds l p) {id : ExprId}
    (hid : id ∈ p.form.expr.constraintIds) : (p.ownerOfId id).isSome = true := by
  obtain ⟨ν, hp⟩ := hp
  have hacc' : (st.renumbered ν).validator.IsAccepted := hacc
  have hhier' : (st.renumbered ν).validator.hierarchy = .ofSchema st.validator.schema := hhier
  obtain ⟨c, hc, rfl⟩ := List.mem_map.1 hid
  obtain ⟨k, hk⟩ := hp.exists_owner hacc' hhier' hwritten hc
  rw [Plan.ownerOfId, hp.constraint?_eq_some hhier' hacc' hc, Option.bind_some, hk]
  rfl

/-- Two plans of one label are alike, up to what a constraint without owner is called. Only that
fault names an identity, so it is the one difference that an observer could see. -/
theorem plans_alike {F : ValidationFault → Prop} (hF : ∀ id, F (.internal (.unowned id l)))
    (hp : st.IsPlanUpToIds l p) (hq : st.IsPlanUpToIds l q) :
    ∃ I, p.Alike F l I st.validator.schema.Has q := by
  have hvalues := hp.has hacc hhier
  have hconjuncts := hp.has_conjunct hhier
  obtain ⟨ν, hp⟩ := hp
  obtain ⟨ν', hq⟩ := hq
  have hhier' : (st.renumbered ν).validator.hierarchy = .ofSchema st.validator.schema := hhier
  have hparts : p.parts = q.parts := Except.ok.inj (hp.parts.symm.trans hq.parts)
  obtain ⟨I, hform, -⟩ := joined_alike hacc (fun e he => hp.has_expression hhier' he) hp.form
    (hparts ▸ hq.form).upToIds hvalues
  exact ⟨I, hparts, hform, hconjuncts, fun a _ _ _ => .inl (hF a)⟩

end

/-! ### What is recalled instead of computed -/

section
variable {m : Memo}

/-- Where a form is computed, another one is computed or recalled. -/
theorem exists_formFrom {e : TripleExpr} {f : Form} (hf : st.formFrom .empty e = .ok f) (m : Memo)
    (ν : Numbering) : ∃ g, (st.renumbered ν).formFrom m e = .ok g := by
  rw [formFrom]
  cases m.forms.get? e.id with
  | some g => exact ⟨g, rfl⟩
  | none => exact TripleExpr.exists_normalize e.corresponds_renewed hf _

/-- Where joined expressions have a form that is computed, another one is computed or recalled. -/
theorem exists_joinedFrom {l : Label} {es : List TripleExpr} {f : Form}
    (hf : st.joinedFrom .empty l es = .ok f) (m : Memo) (ν : Numbering) :
    ∃ g, (st.renumbered ν).joinedFrom m l es = .ok g := by
  match es, hf with
  | [], _ => exact ⟨_, rfl⟩
  | [_], hf => exact exists_formFrom hf m ν
  | _ :: _ :: _, hf => exact TripleExpr.exists_normalize (TripleExpr.joined_corresponds _ _ _) hf _

/-- Where a plan is computed, another one is computed or recalled: a limit that was enough for the
one is enough for the other, since both copy the same number of nodes. -/
theorem exists_planFrom {l : Label} {p : Plan} (hp : st.planFrom .empty l = .ok p) (m : Memo)
    (ν : Numbering) : ∃ q, (st.renumbered ν).planFrom m l = .ok q := by
  rw [planFrom]
  cases m.plans.get? l with
  | some q => exact ⟨q, rfl⟩
  | none =>
    rw [planFrom] at hp
    change (Plan.partsOf st.validator.schema st.validator.hierarchy l).bind _ = _ at hp
    change ∃ q, (Plan.partsOf st.validator.schema st.validator.hierarchy l).bind _ = _
    cases hparts : Plan.partsOf st.validator.schema st.validator.hierarchy l with
    | error x =>
      rw [hparts] at hp
      cases hp
    | ok parts =>
      rw [hparts] at hp
      cases hf : st.joinedFrom .empty l (Plan.expressions parts) with
      | error x => simp [Except.bind, hf, Except.map] at hp
      | ok f =>
        obtain ⟨g, hg⟩ := exists_joinedFrom hf m ν
        exact ⟨⟨parts, g⟩, by simp [Except.bind, hg, Except.map]⟩

section
variable (hacc : st.validator.IsAccepted)
include hacc

/-- What is computed for a shape of an accepted schema is a form, or it takes too many nodes. The
references in it are declared and lead to no cycle. -/
theorem formForFrom_expansion {mk : Mark} {h : ShapeHeader} {t : Option TripleExpr}
    (ht : st.validator.schema.Has (.shape mk h t)) {x : ValidationFault}
    (hx : st.formForFrom .empty t = .error x) : x.IsExpansion := by
  cases t with
  | none => cases hx
  | some e =>
    have hrep := TripleExpr.normalize_represents (Schema.isResolved_of_analyze hacc)
      (Schema.isAcyclic_of_analyze hacc) (Schema.refsDeclared_of_has hacc ht) st.limits.expansion
      (st.validator.numbering (.expr e.id))
    change e.normalize st.validator.schema st.limits.expansion
      (st.validator.numbering (.expr e.id)) = .error x at hx
    rwa [hx] at hrep

/-- If the parts of a label can be read off the schema, then its plan is computed, or it takes too
many nodes. -/
theorem planFrom_expansion (hhier : st.validator.hierarchy = .ofSchema st.validator.schema)
    {l : Label} {parts : List Part}
    (hparts : Plan.partsOf st.validator.schema st.validator.hierarchy l = .ok parts)
    {x : ValidationFault} (hx : st.planFrom .empty l = .error x) : x.IsExpansion := by
  have hhas := fun e he => @has_of_partsOf _ st hhier l parts hparts e he
  change (Plan.partsOf st.validator.schema st.validator.hierarchy l).bind _ = _ at hx
  rw [hparts] at hx
  change (st.joinedFrom .empty l (Plan.expressions parts)).map _ = _ at hx
  cases hf : st.joinedFrom .empty l (Plan.expressions parts) with
  | ok f =>
    rw [hf] at hx
    cases hx
  | error y =>
    rw [hf] at hx
    obtain rfl : y = x := Except.error.inj hx
    generalize Plan.expressions parts = es at hf hhas
    match es, hhas, hf with
    | [], _, hf => cases hf
    | [e], hhas, hf =>
      obtain ⟨mk, h, he⟩ := hhas e (List.mem_singleton_self e)
      exact formForFrom_expansion hacc (t := some e) he hf
    | e :: e' :: es, hhas, hf =>
      have hjoined := normalize_joined hacc hhas (.written ⟨st.validator.numbering (.label l), []⟩)
        st.limits.expansion (st.validator.numbering (.label l)).next
      change TripleExpr.normalize _ _ _ _ = _ at hf
      rwa [hf] at hjoined

end

/-- Right forms and plans are right for settings that take other identities. -/
theorem KnowsUpToIds.renumbered (hm : st.KnowsUpToIds m) (ν : Numbering) :
    (st.renumbered ν).KnowsUpToIds m :=
  ⟨hm.forms, hm.plans⟩

section
variable (hacc : st.validator.IsAccepted) (hm : st.KnowsUpToIds m) (ν : Numbering)
include hacc hm

/-- The form of a shape that is computed or recalled is alike to the one that is computed, if that
does not take too many nodes. -/
theorem formForFrom_outcomes {mk : Mark} {h : ShapeHeader} {t : Option TripleExpr}
    (ht : st.validator.schema.Has (.shape mk h t)) :
    Outcomes ValidationFault.IsExpansion (fun f g => ∃ I, f.Alike I st.validator.schema.Has g)
      (st.formForFrom .empty t) ((st.renumbered ν).formForFrom m t) := by
  cases hf : st.formForFrom .empty t with
  | error x => exact .inl (formForFrom_expansion hacc ht hf)
  | ok f =>
    obtain ⟨g, hg⟩ : ∃ g, (st.renumbered ν).formForFrom m t = .ok g := by
      cases t with
      | none => exact ⟨_, rfl⟩
      | some e => exact exists_formFrom hf m ν
    obtain ⟨I, hI, -⟩ := forms_alike hacc ht (knowsUpToIds_empty.isForm ht hf)
      ((hm.renumbered ν).isForm ht hg)
    exact ⟨g, hg, I, hI⟩

/-- The plan of a label that is computed or recalled is alike to the one that is computed, up to
what a constraint without owner is called and if that does not take too many nodes. -/
theorem planFrom_outcomes (hhier : st.validator.hierarchy = .ofSchema st.validator.schema)
    {F : ValidationFault → Prop} (hexp : ∀ x, x.IsExpansion → F x) {l : Label}
    (hunowned : ∀ id, F (.internal (.unowned id l))) :
    Outcomes F (fun p q => ∃ I, p.Alike F l I st.validator.schema.Has q)
      (st.planFrom .empty l) ((st.renumbered ν).planFrom m l) := by
  cases hp : st.planFrom .empty l with
  | ok p =>
    obtain ⟨q, hq⟩ := exists_planFrom hp m ν
    exact ⟨q, hq, plans_alike hacc hhier hunowned (knowsUpToIds_empty.isPlan hhier hp)
      ((hm.renumbered ν).isPlan hhier hq)⟩
  | error x =>
    cases hparts : Plan.partsOf st.validator.schema st.validator.hierarchy l with
    | ok parts => exact .inl (hexp x (planFrom_expansion hacc hhier hparts hp))
    | error y =>
      refine .inr ?_
      rw [planFrom] at hp ⊢
      cases hq : m.plans.get? l with
      | some q =>
        -- A plan that is remembered has parts.
        obtain ⟨i, hq⟩ := hm.plans l q hq
        cases hparts.symm.trans hq.parts
      | none =>
        change (Plan.partsOf st.validator.schema st.validator.hierarchy l).bind _ = _ at hp ⊢
        rw [hparts] at hp ⊢
        exact hp

/-- A run that recalls forms and plans gives what a run gives that computes them all, unless that
one would copy too many nodes or names a constraint that belongs to no part. -/
theorem run_renumbered (hhier : st.validator.hierarchy = .ofSchema st.validator.schema)
    (hco : st.validator.schema.IsCoherent) (hpure : st.handlers.IsPure)
    (pairs : List (Term × Selector)) (world world' : σ)
    (hexp : ∀ n, ((st.run pairs).run.run ⟨.empty, 0, world⟩).1 ≠ .error (.limit (.expansion n)))
    (howned : ∀ id l, ((st.run pairs).run.run ⟨.empty, 0, world⟩).1 ≠
      .error (.internal (.unowned id l))) :
    (((st.renumbered ν).run pairs).run.run ⟨m, 0, world'⟩).1 =
      ((st.run pairs).run.run ⟨.empty, 0, world⟩).1 := by
  let F : ValidationFault → Prop := fun x =>
    x.IsExpansion ∨ ∃ id l, x = .internal (.unowned id l)
  have hmirrors : Mirrors (st.InStep (st.renumbered ν) .empty m) F st.validator.schema.Has st
      (st.renumbered ν) :=
    mirrors_of_offers hhier hco rfl rfl rfl rfl hpure
      (fun _ _ _ ht => (formForFrom_outcomes hacc hm ν ht).mono fun _ => .inl)
      fun l _ => planFrom_outcomes hacc hm ν hhier (fun _ => .inl) fun id => .inr ⟨id, l, rfl⟩
  have hfault : ∀ x, F x → ((st.run pairs).run.run ⟨.empty, 0, world⟩).1 ≠ .error x := by
    rintro _ (⟨n, rfl⟩ | ⟨id, l, rfl⟩)
    · exact hexp n
    · exact howned id l
  obtain ⟨r, _, _, hr, hr', -⟩ := (hmirrors.run pairs).ends_alike (s := ⟨.empty, 0, world⟩)
    (t := ⟨m, 0, world'⟩) ⟨.refl _, .refl _, fun _ => rfl⟩ hfault
  rw [hr, hr']

end
end

end Setting

/-! ### Validators -/

/-- What a validator remembers does not show in what it answers, but for the name of a constraint
that belongs to no part. Let handlers answer by the code and the triples alone, and let a validator
that remembers nothing not need copies of too many nodes. Then a validator of the same schema that
remembers what earlier runs left, under whatever limits and also if they ended in faults, gives the
same report or the same fault, wherever the counter of identities stood in all these runs:

- if the one that remembers nothing does not end with such a constraint;
- and it never does if the sources of all constraints are claimed, as they are in a schema that was
  written without copies. -/
theorem Validator.validate_renumbered {σ : Type} {v : Validator} (hv : v.IsBuilt)
    (hco : v.schema.IsCoherent) {handlers : Handlers σ} (hpure : handlers.IsPure) (limits : Limits)
    (graph : GraphView) (pairs : List (Term × Selector)) {memo : Memo} (hmemo : v.MayRemember memo)
    (ν ν' : Numbering) (world world' : σ) :
    let anew := ((v.renumber ν).validate limits handlers graph pairs .empty world).1
    let recalling := ((v.renumber ν').validate limits handlers graph pairs memo world').1
    (∀ n, anew ≠ .error (.limit (.expansion n))) →
      ((∀ id l, anew ≠ .error (.internal (.unowned id l))) → recalling = anew) ∧
      (v.schema.ClaimsAllSources → recalling = anew) ∧
      (v.schema.isWritten = true → recalling = anew) := by
  intro anew recalling hexp
  let st : Setting σ := ⟨v.renumber ν, limits, handlers, graph⟩
  have hv' : st.validator.IsBuilt := ⟨hv.accepted, hv.hierarchy⟩
  have hbase : (⟨v, limits, handlers, graph⟩ : Setting σ).KnowsUpToIds memo :=
    Setting.knowsUpToIds_of_mayRemember hv.accepted hv.hierarchy hco hmemo
  have hsame : (∀ id l, anew ≠ .error (.internal (.unowned id l))) → recalling = anew :=
    Setting.run_renumbered hv'.accepted (hbase.renumbered ν) ν' hv'.hierarchy hco hpure pairs world
      world' hexp
  have hclaimed : v.schema.ClaimsAllSources → recalling = anew := by
    refine fun hclaims => hsame fun id l hfault => ?_
    have hmeets := Setting.run_meets_of_admits hv' hco (Setting.admits_owned hv' hclaims)
      (fun _ _ _ => nofun) pairs
    exact Setting.fault_of_validate hv' hco .nothing hmeets hfault id l rfl
  exact ⟨hsame, hclaimed, fun hwritten => hclaimed (Schema.claimsAllSources_of_isWritten hwritten)⟩

/-! ### Example -/

/-- `<Base> { p . }` and `<Child> EXTENDS @<Base> { ( q . %act{ %} ; r . ){2} }` -/
def pairedSchema : Schema :=
  (Schema.empty.addShape (.iri ⟨"Base"⟩) ⟨false, .shape ⟨⟨0⟩, []⟩ .plain
    (some (.constraint (.written ⟨⟨1⟩, []⟩) ⟨⟨"p"⟩, false⟩ none))⟩).addShape (.iri ⟨"Child"⟩)
    ⟨false, .shape ⟨⟨2⟩, []⟩ ⟨false, [], [.iri ⟨"Base"⟩]⟩ (some
      (.repeated (.written ⟨⟨3⟩, []⟩)
        (.eachOf (.written ⟨⟨4⟩, []⟩)
          [.constraint (.written ⟨⟨5⟩, [⟨⟨"act"⟩, none⟩]⟩) ⟨⟨"q"⟩, false⟩ none,
            .constraint (.written ⟨⟨6⟩, []⟩) ⟨⟨"r"⟩, false⟩ none]) (.exactly 2)))⟩

/-- Two pairs of triples around `n` and one around `m`, beside those for `<Base>`. -/
def pairedGraph : GraphView :=
  (Graph.ofList [link "n" "p" "n", link "n" "q" "n", link "n" "q" "m", link "n" "r" "n",
    link "n" "r" "m", link "m" "p" "n", link "m" "q" "n", link "m" "r" "n"]).view

/-- The check of `n` and `m` against `<Child>`. -/
def checkPaired {σ : Type} (fresh : ExprId) (limits : Limits) (handlers : Handlers σ) (memo : Memo)
    (world : σ) : Except ValidationFault Report × Memo × σ :=
  ((settingOf pairedSchema []).validator.renumber fun _ => fresh).validate limits handlers
    pairedGraph [(.resource (.iri ⟨"n"⟩), .label (.iri ⟨"Child"⟩)),
      (.resource (.iri ⟨"m"⟩), .label (.iri ⟨"Child"⟩))] memo world

/-- What is left by a run under other limits that ends because a handler fails. -/
def leftByFailure : Memo := (checkPaired ⟨50⟩ .strict onlyOnce .empty true).2.1

/-- A run with the plan that a failed run has left, whose copies have other identities, gives the
report of a run that makes a plan of its own. -/
theorem recalled_plan_same_report :
    (checkPaired ⟨50⟩ .strict onlyOnce .empty true).1 = .error (.actionFailed ⟨"act"⟩ "again") ∧
    leftByFailure.plans.size = 1 ∧
    ∃ report, report.entries.map Entry.status = [.conformant, .nonconformant] ∧
      (checkPaired ⟨60⟩ .standard (.empty : Handlers Unit) .empty ()).1 = .ok report ∧
      (checkPaired ⟨70⟩ .standard (.empty : Handlers Unit) leftByFailure ()).1 = .ok report := by
  have hstatuses : (checkPaired ⟨60⟩ .standard (.empty : Handlers Unit) .empty ()).1.toOption.map
      (·.entries.map Entry.status) = some [.conformant, .nonconformant] := by decide +kernel
  have hmemo : (settingOf pairedSchema []).validator.MayRemember leftByFailure := by
    rw [leftByFailure, checkPaired]
    exact .run .nothing (fun _ => ⟨50⟩) .strict onlyOnce pairedGraph _ true
  refine ⟨by decide +kernel, by decide +kernel, ?_⟩
  cases hreport : (checkPaired ⟨60⟩ .standard (.empty : Handlers Unit) .empty ()).1 with
  | error fault =>
    rw [hreport] at hstatuses
    cases hstatuses
  | ok report =>
    rw [hreport] at hstatuses
    refine ⟨report, Option.some.inj hstatuses, rfl, Eq.trans ?_ hreport⟩
    have hsame := Validator.validate_renumbered (v := (settingOf pairedSchema []).validator)
      ⟨rfl, rfl⟩ (Schema.isCoherent_of_nodup (by decide) (by decide)) Handlers.isPure_empty
      .standard pairedGraph _ hmemo (fun _ => ⟨60⟩) (fun _ => ⟨70⟩) () () fun n hn => by
        cases hreport.symm.trans hn
    exact hsame.2.2 (by decide)

/-- `<Base> {}` with `<Child> EXTENDS @<Base> { c ; c }`, where `c` is the copy of `p .` in the form
of `&<T>` that was made for another schema. -/
def copiedTwiceSchema : Schema :=
  let form := (commonReference 1).normalize
    (Schema.empty.addTripleExpr (.iri ⟨"T"⟩) commonConstraint) 7 ⟨2⟩
  let copies := form.toOption.toList.flatMap fun f => [f.expr, f.expr]
  baseAndChild none (.eachOf (.written ⟨⟨5⟩, []⟩) copies)

/-- The check of a node with two edges against `<Child>`. -/
def checkCopiedTwice (fresh : ExprId) (memo : Memo) : Except ValidationFault Report × Memo × Unit :=
  ((settingOf copiedTwiceSchema []).validator.renumber fun _ => fresh).validate .standard .empty
    (Graph.ofList [link "n" "p" "m", link "n" "p" "k"]).view
    [(.resource (.iri ⟨"n"⟩), .label (.iri ⟨"Child"⟩))] memo ()

/-- A constraint without owner is called by its number, and the constraints of this plan have none:
what is claimed are the copies, and what is looked up is the source of the copies. A validator that
has made its plan in an earlier run names another number than one that makes it now. -/
theorem recalled_plan_names_other_constraint :
    copiedTwiceSchema.analyze = .ok () ∧
      (checkCopiedTwice ⟨40⟩ .empty).1 = .error (.internal (.unowned ⟨40⟩ (.iri ⟨"Child"⟩))) ∧
      (checkCopiedTwice ⟨40⟩ (checkCopiedTwice ⟨20⟩ .empty).2.1).1 =
        .error (.internal (.unowned ⟨20⟩ (.iri ⟨"Child"⟩))) ∧
      (InternalFault.unowned ⟨40⟩ (.iri ⟨"Child"⟩)).message ≠
        (InternalFault.unowned ⟨20⟩ (.iri ⟨"Child"⟩)).message :=
  ⟨by decide, by decide +kernel, by decide +kernel, by decide +kernel⟩

end Shex
