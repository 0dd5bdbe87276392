import Shex.Proofs.Hiding

/-!
# What a run computes or recalls

A form or a plan is looked up in what is remembered and computed if it is not there. As a function
of what is remembered this is `Setting.formFrom` and `Setting.planFrom`. What a run adds to its memo
never changes these functions for the schema (`Setting.OffersSame`), and a memo stays right, up to
the identities that copies were given (`Setting.KnowsUpToIds`).
-/

namespace Shex

open Run

namespace Setting

variable {σ : Type} (st : Setting σ)

/-- The form of an expression, looked up or computed. -/
def formFrom (m : Memo) (e : TripleExpr) : Except ValidationFault Form :=
  match m.forms.get? e.id with
  | some f => .ok f
  | none => e.normalize st.validator.schema st.limits.expansion
      (st.validator.numbering (.expr e.id))

/-- The form of a shape, looked up or computed. -/
def formForFrom (m : Memo) : Option TripleExpr → Except ValidationFault Form
  | none => .ok (.empty (st.validator.numbering .bare))
  | some e => st.formFrom m e

/-- The form of the joined expressions of a label, looked up or computed. -/
def joinedFrom (m : Memo) (l : Label) : List TripleExpr → Except ValidationFault Form
  | [] => .ok (.empty (st.validator.numbering (.label l)))
  | [e] => st.formFrom m e
  | es => (TripleExpr.eachOf (.written ⟨st.validator.numbering (.label l), []⟩) es).normalize
      st.validator.schema st.limits.expansion (st.validator.numbering (.label l)).next

/-- The plan of a label, looked up or computed. -/
def planFrom (m : Memo) (l : Label) : Except ValidationFault Plan :=
  match m.plans.get? l with
  | some p => .ok p
  | none =>
    (Plan.partsOf st.validator.schema st.validator.hierarchy l).bind fun parts =>
      (st.joinedFrom m l (Plan.expressions parts)).map (⟨parts, ·⟩)

/-- Two memos give the same forms and plans of the schema. -/
structure OffersSame (m m' : Memo) : Prop where
  forms : ∀ mk h e, st.validator.schema.Has (.shape mk h (some e)) →
    st.formFrom m' e = st.formFrom m e
  plans : ∀ l, st.planFrom m' l = st.planFrom m l

variable {st} {m m' : Memo}

/-- The form that is offered for a shape stays the same. -/
theorem OffersSame.formForFrom (h : st.OffersSame m m') {mk : Mark} {hd : ShapeHeader} :
    ∀ {t : Option TripleExpr}, st.validator.schema.Has (.shape mk hd t) →
      st.formForFrom m' t = st.formForFrom m t
  | none, _ => rfl
  | some e, ht => h.forms mk hd e ht

/-- A memo offers what it offers. -/
theorem OffersSame.refl (m : Memo) : st.OffersSame m m := ⟨fun _ _ _ _ => rfl, fun _ => rfl⟩

/-- What lasts from run to run lasts over all of them. -/
theorem OffersSame.trans {m'' : Memo} (h : st.OffersSame m m') (h' : st.OffersSame m' m'') :
    st.OffersSame m m'' :=
  ⟨fun mk hd e he => (h'.forms mk hd e he).trans (h.forms mk hd e he),
    fun l => (h'.plans l).trans (h.plans l)⟩

/-- Joined forms depend on the forms of the expressions only. -/
theorem joinedFrom_congr {l : Label} {es : List TripleExpr}
    (h : ∀ e ∈ es, st.formFrom m' e = st.formFrom m e) :
    st.joinedFrom m' l es = st.joinedFrom m l es := by
  match es with
  | [] => rfl
  | [e] => exact h e (by simp)
  | _ :: _ :: _ => rfl

section
variable (hhier : st.validator.hierarchy = .ofSchema st.validator.schema)
include hhier

/-- The expressions of the parts of a label are in the schema. -/
theorem has_of_partsOf {l : Label} {parts : List Part}
    (h : Plan.partsOf st.validator.schema st.validator.hierarchy l = .ok parts) {e : TripleExpr}
    (he : e ∈ Plan.expressions parts) : ∃ mk hd, st.validator.schema.Has (.shape mk hd (some e)) :=
  has_of_mem_expressions (Plan.partsOf_eq_ok (hhier ▸ h)).2 he

/-- A plan that is not remembered depends on the forms only. It is made of the parts, which come
from the schema, and of the joined form. -/
theorem planFrom_congr {l : Label}
    (hforms : ∀ mk h e, st.validator.schema.Has (.shape mk h (some e)) →
      st.formFrom m' e = st.formFrom m e)
    (hplans : m'.plans.get? l = m.plans.get? l) : st.planFrom m' l = st.planFrom m l := by
  unfold planFrom
  rw [hplans]
  cases m.plans.get? l with
  | some p => rfl
  | none =>
    cases hparts : Plan.partsOf st.validator.schema st.validator.hierarchy l with
    | error fault => rfl
    | ok parts =>
      simp only [Except.bind]
      rw [joinedFrom_congr fun e he => ?_]
      obtain ⟨mk, hd, hhas⟩ := has_of_partsOf hhier hparts he
      exact hforms mk hd e hhas

/-- Remembering the form of an expression changes nothing, if no other one of the schema has its
identity. -/
theorem offersSame_insertForm {e : TripleExpr}
    (he : ∀ mk hd e', st.validator.schema.Has (.shape mk hd (some e')) → e.id = e'.id → e = e')
    {f : Form} (hf : st.formFrom m e = .ok f) :
    st.OffersSame m { m with forms := m.forms.insert e.id f } := by
  have hforms : ∀ mk' hd' e', st.validator.schema.Has (.shape mk' hd' (some e')) →
      st.formFrom { m with forms := m.forms.insert e.id f } e' = st.formFrom m e' := by
    intro mk' hd' e' he'
    by_cases hid : e.id = e'.id
    · obtain rfl := he mk' hd' e' he' hid
      rw [hf, formFrom, Table.get?_insert_self]
    · rw [formFrom, Table.get?_insert_of_ne _ hid, formFrom]
  exact ⟨hforms, fun l => planFrom_congr hhier hforms rfl⟩

/-- Remembering the plan of a label changes nothing. -/
theorem offersSame_insertPlan {l : Label} {p : Plan} (hp : st.planFrom m l = .ok p) :
    st.OffersSame m { m with plans := m.plans.insert l p } := by
  refine ⟨fun _ _ _ _ => rfl, fun l' => ?_⟩
  by_cases hl : l = l'
  · subst hl
    rw [hp, planFrom, Table.get?_insert_self]
  · exact planFrom_congr hhier (fun _ _ _ _ => rfl) (Table.get?_insert_of_ne _ hl _)

/-! ### Computations -/

/-- How the form of an expression is found, if no other one of the schema has its identity: what is
remembered afterwards offers the same, since the form that is added is the one that was going to be
computed. -/
theorem formOf_run_of {e : TripleExpr}
    (he : ∀ mk hd e', st.validator.schema.Has (.shape mk hd (some e')) → e.id = e'.id → e = e')
    (s : RunState σ) :
    ∃ m, (st.formOf e).run.run s = (st.formFrom s.memo e, { s with memo := m }) ∧
      st.OffersSame s.memo m ∧ m.plans = s.memo.plans := by
  unfold formOf
  rw [run_get_bind]
  cases hget : s.memo.forms.get? e.id with
  | some f =>
    refine ⟨s.memo, ?_, .refl _, rfl⟩
    rw [formFrom, hget]
    rfl
  | none =>
    cases hf : e.normalize st.validator.schema st.limits.expansion
        (st.validator.numbering (.expr e.id)) with
    | error fault =>
      refine ⟨s.memo, ?_, .refl _, rfl⟩
      rw [formFrom, hget, hf]
      rfl
    | ok f =>
      have hform : st.formFrom s.memo e = .ok f := by rw [formFrom, hget, hf]
      refine ⟨_, ?_, offersSame_insertForm hhier he hform, rfl⟩
      rw [hform]
      rfl

variable (hco : st.validator.schema.IsCoherent)
include hco

/-- How the form of an expression of the schema is found. -/
theorem formOf_run {mk : Mark} {hd : ShapeHeader} {e : TripleExpr}
    (he : st.validator.schema.Has (.shape mk hd (some e))) (s : RunState σ) :
    ∃ m, (st.formOf e).run.run s = (st.formFrom s.memo e, { s with memo := m }) ∧
      st.OffersSame s.memo m ∧ m.plans = s.memo.plans :=
  formOf_run_of hhier (fun _ _ _ he' => hco.triples _ _ _ _ _ _ he he') s

/-- How the form of a shape is found. -/
theorem formFor_run {mk : Mark} {hd : ShapeHeader} {t : Option TripleExpr}
    (ht : st.validator.schema.Has (.shape mk hd t)) (s : RunState σ) :
    ∃ m, (st.formFor t).run.run s = (st.formForFrom s.memo t, { s with memo := m }) ∧
      st.OffersSame s.memo m := by
  cases t with
  | none => exact ⟨s.memo, rfl, .refl _⟩
  | some e =>
    obtain ⟨m, hrun, hsame, -⟩ := formOf_run hhier hco ht s
    exact ⟨m, hrun, hsame⟩

/-- How the form of joined expressions is found. The form of a group is not remembered by itself: it
is kept in the plan. -/
theorem joinedForm_run (l : Label) {es : List TripleExpr}
    (hes : ∀ e ∈ es, ∃ mk hd, st.validator.schema.Has (.shape mk hd (some e))) (s : RunState σ) :
    ∃ m, (st.joinedForm l es).run.run s = (st.joinedFrom s.memo l es, { s with memo := m }) ∧
      st.OffersSame s.memo m ∧ m.plans = s.memo.plans := by
  match es, hes with
  | [], _ => exact ⟨s.memo, rfl, .refl _, rfl⟩
  | [e], hes =>
    obtain ⟨mk, hd, he⟩ := hes e (by simp)
    exact formOf_run hhier hco he s
  | e :: e' :: es, _ =>
    refine ⟨s.memo, ?_, .refl _, rfl⟩
    unfold joinedForm joinedFrom
    dsimp only
    cases (TripleExpr.eachOf (.written ⟨st.validator.numbering (.label l), []⟩)
      (e :: e' :: es)).normalize st.validator.schema st.limits.expansion
      (st.validator.numbering (.label l)).next <;> rfl

/-- How the plan of a label is found. A plan that is computed is remembered with its form, and then
looked up. -/
theorem planOf_run (l : Label) (s : RunState σ) :
    ∃ m, (st.planOf l).run.run s = (st.planFrom s.memo l, { s with memo := m }) ∧
      st.OffersSame s.memo m := by
  unfold planOf
  rw [run_get_bind]
  cases hget : s.memo.plans.get? l with
  | some p =>
    refine ⟨s.memo, ?_, .refl _⟩
    rw [planFrom, hget]
    rfl
  | none =>
    cases hparts : Plan.partsOf st.validator.schema st.validator.hierarchy l with
    | error fault =>
      refine ⟨s.memo, ?_, .refl _⟩
      rw [planFrom, hget, hparts]
      rfl
    | ok parts =>
      obtain ⟨m, hrun, hsame, hplans⟩ :=
        joinedForm_run hhier hco l (fun e he => has_of_partsOf hhier hparts he) s
      dsimp only
      rw [run_bind, hrun]
      cases hjoined : st.joinedFrom s.memo l (Plan.expressions parts) with
      | error fault =>
        refine ⟨m, ?_, hsame⟩
        rw [planFrom, hget, hparts]
        simp only [Except.bind, hjoined]
        rfl
      | ok f =>
        have hplan : st.planFrom s.memo l = .ok ⟨parts, f⟩ := by
          rw [planFrom, hget, hparts]
          simp only [Except.bind, hjoined]
          rfl
        refine ⟨_, ?_, hsame.trans (offersSame_insertPlan hhier ((hsame.plans l).trans hplan))⟩
        rw [hplan]
        rfl

end

/-! ### Memos that are right -/

/-- The setting where the counter stands elsewhere when forms are made. -/
def renumbered (st : Setting σ) (ν : Numbering) : Setting σ :=
  { st with validator := st.validator.renumber ν }

variable (st) in
/-- A form is the form of a triple expression under some limit, with some identities. -/
def IsFormUpToIds (t : Option TripleExpr) (f : Form) : Prop := ∃ ν, (st.renumbered ν).IsForm t f

variable (st) in
/-- A plan is the plan of a label, with some identities. -/
def IsPlanUpToIds (l : Label) (p : Plan) : Prop := ∃ ν, (st.renumbered ν).IsPlan l p

variable (st) in
/-- The remembered forms and plans are right, whatever identities they have. -/
structure KnowsUpToIds (m : Memo) : Prop where
  forms : ∀ mk h e f, st.validator.schema.Has (.shape mk h (some e)) →
    m.forms.get? e.id = some f → st.IsFormUpToIds (some e) f
  plans : ∀ l p, m.plans.get? l = some p → st.IsPlanUpToIds l p

/-- Nothing is remembered, so nothing wrong is. -/
theorem knowsUpToIds_empty : st.KnowsUpToIds .empty :=
  ⟨fun _ _ _ _ _ h => (by cases h), fun _ _ h => (by cases h)⟩

namespace KnowsUpToIds

variable {m m' : Memo}

/-- What is looked up or computed for a shape is a form of it, up to the identities of copies if it
is looked up. -/
theorem isForm (hm : st.KnowsUpToIds m) {mk : Mark} {h : ShapeHeader} {t : Option TripleExpr}
    (ht : st.validator.schema.Has (.shape mk h t)) {f : Form} (hf : st.formForFrom m t = .ok f) :
    st.IsFormUpToIds t f := by
  cases t with
  | none =>
    cases hf
    exact ⟨st.validator.numbering, rfl⟩
  | some e =>
    rw [formForFrom, formFrom] at hf
    split at hf
    · rename_i g hg
      cases hf
      exact hm.forms mk h e f ht hg
    · exact ⟨st.validator.numbering, st.limits.expansion, hf⟩

/-- What is looked up or computed for a label is a plan of it, up to the identities of copies if it
is looked up. -/
theorem isPlan (hm : st.KnowsUpToIds m)
    (hhier : st.validator.hierarchy = .ofSchema st.validator.schema) {l : Label} {p : Plan}
    (hp : st.planFrom m l = .ok p) : st.IsPlanUpToIds l p := by
  rw [planFrom] at hp
  split at hp
  · rename_i q hq
    cases hp
    exact hm.plans l p hq
  cases hparts : Plan.partsOf st.validator.schema st.validator.hierarchy l with
  | error fault =>
    rw [hparts] at hp
    cases hp
  | ok parts =>
    have hhas := fun e he => @has_of_partsOf _ st hhier l parts hparts e he
    rw [hparts] at hp
    simp only [Except.bind] at hp
    cases hjoined : st.joinedFrom m l (Plan.expressions parts) with
    | error fault =>
      rw [hjoined] at hp
      cases hp
    | ok f =>
      rw [hjoined] at hp
      cases hp
      have hform : ∃ ν, (st.renumbered ν).IsJoined l (Plan.expressions parts) f := by
        generalize Plan.expressions parts = es at hjoined hhas
        match es, hjoined, hhas with
        | [], hjoined, _ =>
          cases hjoined
          exact ⟨st.validator.numbering, rfl⟩
        | [e], hjoined, hhas =>
          obtain ⟨mk, h, he⟩ := hhas e (by simp)
          exact hm.isForm he hjoined
        | e :: e' :: es, hjoined, _ => exact ⟨st.validator.numbering, st.limits.expansion, hjoined⟩
      obtain ⟨ν, hf⟩ := hform
      exact ⟨ν, hparts, hf⟩

/-- A memo that offers the same is right too. -/
theorem of_offersSame (hm : st.KnowsUpToIds m)
    (hhier : st.validator.hierarchy = .ofSchema st.validator.schema) (h : st.OffersSame m m') :
    st.KnowsUpToIds m' := by
  constructor
  · intro mk hd e f he hf
    refine hm.isForm he ?_
    rw [formForFrom, ← h.forms mk hd e he, formFrom, hf]
  · intro l p hp
    refine hm.isPlan hhier ?_
    rw [← h.plans l, planFrom, hp]

end KnowsUpToIds

/-- A form of a shape has value expressions of the schema. -/
theorem IsFormUpToIds.has (hacc : st.validator.IsAccepted) {mk : Mark}
    {h : ShapeHeader} {t : Option TripleExpr} (ht : st.validator.schema.Has (.shape mk h t))
    {f : Form} (hf : st.IsFormUpToIds t f) :
    ∀ c ∈ f.constraints, ∀ v, c.value = some v → st.validator.schema.Has v := by
  obtain ⟨ν, hf⟩ := hf
  have hacc' : (st.renumbered ν).validator.IsAccepted := hacc
  exact fun c hc v hv => hf.has hacc' ht (Form.mem_values hc hv)

/-- The form of a plan has value expressions of the schema. They are met in the main shapes of
ancestors. -/
theorem IsPlanUpToIds.has (hacc : st.validator.IsAccepted)
    (hhier : st.validator.hierarchy = .ofSchema st.validator.schema) {l : Label} {p : Plan}
    (hp : st.IsPlanUpToIds l p) :
    ∀ c ∈ p.form.constraints, ∀ v, c.value = some v → st.validator.schema.Has v := by
  obtain ⟨ν, hp⟩ := hp
  have hacc' : (st.renumbered ν).validator.IsAccepted := hacc
  have hhier' : (st.renumbered ν).validator.hierarchy = .ofSchema st.validator.schema := hhier
  intro c hc v hv
  obtain ⟨e, he, via, m, hin, -⟩ :=
    hp.form.inside hacc' (fun e he => hp.has_expression hhier' he) hc
  obtain ⟨mk, hd, hhas⟩ := hp.has_expression hhier' he
  rw [hv] at hin
  exact hhas.of_hasPart (.value hin)

/-- The parts of a plan have conjuncts of the schema. -/
theorem IsPlanUpToIds.has_conjunct (hhier : st.validator.hierarchy = .ofSchema st.validator.schema)
    {l : Label} {p : Plan} (hp : st.IsPlanUpToIds l p) :
    ∀ part ∈ p.parts, ∀ c ∈ part.constraints, st.validator.schema.Has c := by
  obtain ⟨ν, hp⟩ := hp
  have hhier' : (st.renumbered ν).validator.hierarchy = .ofSchema st.validator.schema := hhier
  exact fun part hpart c hc => hp.has_conjunct hhier' hpart hc

end Setting

end Shex
