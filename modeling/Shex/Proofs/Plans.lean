import Shex.Proofs.Extension
import Shex.Proofs.Shapes

/-!
# Plans of extending shapes

The plan of a label has one part for each of its ancestors (`Schema.IsPart`), and its form stands
for the joined triple expressions of their main shapes (`Setting.IsPlan`). Plans that a run
remembers are plans of the labels they are kept for.
-/

namespace Shex

open Run

/-- A list is mapped element by element, and no element fails. With it a loop that collects parts is
read as a list of facts about them. -/
theorem mapM_eq_ok_iff {α β ε : Type} {f : α → Except ε β} :
    ∀ {as : List α} {bs : List β}, as.mapM f = .ok bs ↔ List.Forall₂ (fun a b => f a = .ok b) as bs
  | [], bs => by
    rw [List.mapM_nil]
    constructor
    · rintro ⟨⟩
      exact .nil
    · rintro ⟨⟩
      rfl
  | a :: as, bs => by
    rw [List.mapM_cons]
    cases ha : f a with
    | error e =>
      refine iff_of_false (by simp [bind, Except.bind]) fun h => ?_
      cases h with
      | cons h _ => rw [ha] at h; cases h
    | ok b =>
      cases has : as.mapM f with
      | error e =>
        refine iff_of_false (by simp [bind, Except.bind]) fun h => ?_
        cases h with
        | cons _ h => rw [mapM_eq_ok_iff.2 h] at has; cases has
      | ok bs' =>
        simp only [bind, Except.bind, pure, Except.pure, Except.ok.injEq]
        constructor
        · rintro rfl
          exact .cons ha (mapM_eq_ok_iff.1 has)
        · intro h
          cases h with
          | cons h hs =>
            rw [ha] at h
            rw [mapM_eq_ok_iff.2 hs] at has
            cases h
            cases has
            rfl

/-- A part is read off the declaration of its label. -/
structure Schema.IsPart (s : Schema) (p : Part) : Prop where
  exists_form : ∃ d form, s.shape? p.label = some d ∧ d.expr.extendable? = some form ∧
    form.main = p.main ∧ form.shape = p.shape ∧ form.constraints = p.constraints
  owned : p.owned = p.shape.expression.elim [] fun e =>
    (s.reachableConstraints e).map TripleConstraint.id

/-- The part that is made of a label is one of the schema: its shape and the conjuncts beside it are
those of the declaration. -/
theorem Schema.isPart_of_ofLabel {s : Schema} {l : Label} {p : Part}
    (h : Part.ofLabel s l = .ok p) : p.label = l ∧ s.IsPart p := by
  unfold Part.ofLabel at h
  split at h
  · cases h
  rename_i d hd
  split at h
  · cases h
  rename_i form hform
  cases h
  exact ⟨rfl, ⟨d, form, hd, hform, rfl, rfl, rfl⟩, rfl⟩

/-- The main shape of a part is an expression of the schema. -/
theorem Schema.IsPart.has_main {s : Schema} {p : Part} (h : s.IsPart p) :
    ∃ m, s.Has (.shape m p.shape.header p.shape.expression) := by
  obtain ⟨d, form, hd, hform, -, hshape, -⟩ := h.exists_form
  obtain ⟨⟨m, hmain⟩, -⟩ := ShapeExpr.extendable?_eq_some hform
  exact ⟨m, hshape ▸ hmain ▸ (Schema.has_of_shape? hd).main hform⟩

namespace Plan

variable {s : Schema} {R : Readers} {l : Label} {parts : List Part}

/-- The parts are those of the ancestors, in their order. -/
theorem partsOf_eq_ok (h : partsOf s (.ofSchema s) l = .ok parts) :
    parts.map Part.label = (Hierarchy.ofSchema s).ancestors l ∧ ∀ p ∈ parts, s.IsPart p := by
  have hall := mapM_eq_ok_iff.1 h
  clear h
  generalize (Hierarchy.ofSchema s).ancestors l = as at hall
  induction hall with
  | nil => simp
  | cons hp _ ih =>
    obtain ⟨hlabel, hpart⟩ := Schema.isPart_of_ofLabel hp
    exact ⟨by rw [List.map_cons, hlabel, ih.1], List.forall_mem_cons.2 ⟨hpart, ih.2⟩⟩

/-- In an accepted schema the parts of a label that extends something can be read off: every
ancestor is declared, and has a main shape. -/
theorem exists_partsOf (hacc : s.analyze R = .ok ())
    (hparents : (Hierarchy.ofSchema s).hasParents l = true) :
    ∃ parts, partsOf s (.ofSchema s) l = .ok parts := by
  have hall : ∀ a ∈ (Hierarchy.ofSchema s).ancestors l, ∃ d form,
      s.shape? a = some d ∧ d.expr.extendable? = some form := fun _ =>
    Schema.exists_extendable_of_mem_ancestors hacc hparents
  unfold partsOf
  generalize (Hierarchy.ofSchema s).ancestors l = as at hall
  induction as with
  | nil => exact ⟨[], rfl⟩
  | cons a as ih =>
    rw [List.forall_mem_cons] at hall
    obtain ⟨⟨d, form, hd, hform⟩, hrest⟩ := hall
    obtain ⟨parts, hparts⟩ := ih hrest
    have hpart : ∃ p, Part.ofLabel s a = .ok p := by
      simp [Part.ofLabel, hd, hform]
    obtain ⟨p, hp⟩ := hpart
    exact ⟨p :: parts, mapM_eq_ok_iff.2 (.cons hp (mapM_eq_ok_iff.1 hparts))⟩

end Plan

namespace Setting

variable {σ : Type} (st : Setting σ)

/-- A form of joined triple expressions, under some limit. -/
def IsJoined (l : Label) (es : List TripleExpr) (f : Form) : Prop :=
  match es with
  | [] => f = .empty (st.validator.numbering (.label l))
  | [e] => st.IsForm (some e) f
  | es => ∃ limit,
    (TripleExpr.eachOf (.written ⟨st.validator.numbering (.label l), []⟩) es).normalize
      st.validator.schema limit (st.validator.numbering (.label l)).next = .ok f

/-- A plan of a label. -/
structure IsPlan (l : Label) (p : Plan) : Prop where
  parts : Plan.partsOf st.validator.schema st.validator.hierarchy l = .ok p.parts
  form : st.IsJoined l (Plan.expressions p.parts) p.form

/-- The remembered forms and plans are right. -/
structure KnowsMemo (m : Memo) : Prop where
  forms : st.KnowsForms m
  plans : ∀ l p, m.plans.get? l = some p → st.IsPlan l p

variable {st}

/-- Nothing is remembered, so nothing wrong is. -/
theorem knowsMemo_empty : st.KnowsMemo .empty :=
  ⟨knowsForms_empty, fun _ _ h => by cases h⟩

/-- The labels that an abstract label is resolved to are declared and not abstract. They are the
descendants that pass both tests. -/
theorem of_mem_concreteSubtypes {v : Validator} {l child : Label} {d : ShapeDecl}
    (h : (child, d) ∈ concreteSubtypes v l) :
    v.schema.shape? child = some d ∧ d.isAbstract = false := by
  obtain ⟨x, -, hx⟩ := List.mem_filterMap.1 h
  split at hx
  · rename_i d' hd'
    split at hx
    · cases hx
    · rename_i hconcrete
      cases hx
      exact ⟨hd', by simpa using hconcrete⟩
  · cases hx

/-- The triple expressions of a plan are in the schema. -/
theorem has_of_mem_expressions {parts : List Part}
    (hparts : ∀ p ∈ parts, st.validator.schema.IsPart p) {e : TripleExpr}
    (he : e ∈ Plan.expressions parts) :
    ∃ m h, st.validator.schema.Has (.shape m h (some e)) := by
  obtain ⟨p, hp, hpe⟩ := List.mem_filterMap.1 he
  obtain ⟨m, hm⟩ := (hparts p hp).has_main
  exact ⟨m, _, hpe ▸ hm⟩

/-- A form keeps being computed or looked up when plans are remembered too: the two tables are told
apart. -/
theorem formOf_meets_memo (hacc : st.validator.IsAccepted)
    (hco : st.validator.schema.IsCoherent) {mk : Mark} {h : ShapeHeader} {e : TripleExpr}
    (he : st.validator.schema.Has (.shape mk h (some e))) :
    Meets (fun s => st.KnowsMemo s.memo) (st.formOf e) (st.IsForm (some e))
      ValidationFault.IsExpansion := by
  intro s hs
  have hforms := formOf_meets hacc hco he s hs.forms
  refine ⟨⟨hforms.1, fun l p hp => hs.plans l p ?_⟩, hforms.2⟩
  have hsame : ((st.formOf e).run.run s).2.memo.plans = s.memo.plans := by
    have hmeets : Meets (fun r => r.memo.plans = s.memo.plans) (st.formOf e) (fun _ => True)
        fun _ => True := by
      unfold formOf
      refine Meets.get.bind fun r hr => ?_
      split
      · exact Meets.pure trivial
      · split
        · exact Meets.throw trivial
        · exact (Meets.set hr).bind fun _ _ => Meets.pure trivial
    exact (hmeets s rfl).1
  rwa [hsame] at hp

/-- The forms of shapes keep being computed or looked up when plans are remembered too. -/
theorem formFor_meets_memo (hacc : st.validator.IsAccepted)
    (hco : st.validator.schema.IsCoherent) {mk : Mark} {h : ShapeHeader} {t : Option TripleExpr}
    (hx : st.validator.schema.Has (.shape mk h t)) :
    Meets (fun s => st.KnowsMemo s.memo) (st.formFor t) (st.IsForm t)
      ValidationFault.IsExpansion := by
  cases t with
  | none => exact Meets.pure rfl
  | some e => exact formOf_meets_memo hacc hco hx

/-- Of the group of expressions of the schema a form is made, or it takes too many nodes. No
reference in the group is undeclared or leads back to itself, since none in the schema is. -/
theorem normalize_joined (hacc : st.validator.IsAccepted) {es : List TripleExpr}
    (hes : ∀ x ∈ es, ∃ m h, st.validator.schema.Has (.shape m h (some x))) (mark : TripleMark)
    (limit : Nat) (fresh : ExprId) :
    match (TripleExpr.eachOf mark es).normalize st.validator.schema limit fresh with
    | .ok f => f.Represents st.validator.schema (.eachOf mark es)
    | .error fault => fault.IsExpansion := by
  refine TripleExpr.normalize_represents (Schema.isResolved_of_analyze hacc)
    (Schema.isAcyclic_of_analyze hacc) (fun l hl => ?_) limit fresh
  rw [TripleExpr.refs, @Schema.mem_refsIn_iff st.validator.schema] at hl
  obtain ⟨x, hx, hl⟩ := hl
  obtain ⟨mk, h, hhas⟩ := hes x hx
  exact Schema.refsDeclared_of_has hacc hhas l (Schema.mem_refs_iff.2 hl)

/-- The joined form is made from the parts, or there is no room for it. It is normalized as the form
of a group, or of the only expression if there is one. -/
theorem joinedForm_meets (hacc : st.validator.IsAccepted)
    (hco : st.validator.schema.IsCoherent) (l : Label) {parts : List Part}
    (hparts : ∀ p ∈ parts, st.validator.schema.IsPart p) :
    Meets (fun s => st.KnowsMemo s.memo) (st.joinedForm l (Plan.expressions parts))
      (st.IsJoined l (Plan.expressions parts)) ValidationFault.IsExpansion := by
  have hhas := fun e => @has_of_mem_expressions _ st parts hparts e
  generalize Plan.expressions parts = es at hhas
  match es, hhas with
  | [], _ => exact Meets.pure rfl
  | [e], hhas =>
    obtain ⟨m, h, he⟩ := hhas e (List.mem_singleton_self e)
    exact formOf_meets_memo hacc hco he
  | e :: e' :: es, hhas =>
    have hnormal := normalize_joined hacc hhas (.written ⟨st.validator.numbering (.label l), []⟩)
      st.limits.expansion (st.validator.numbering (.label l)).next
    unfold joinedForm
    dsimp only
    split
    · rename_i fault hfault
      rw [hfault] at hnormal
      exact Meets.throw hnormal
    · rename_i hf
      exact Meets.pure ⟨_, hf⟩

/-- The plan of a label is computed or looked up, if its parts can be read off the schema. Faults
other than that of the parts are those of the joined form. -/
theorem planOf_meets_of {F : ValidationFault → Prop}
    (hv : st.validator.IsBuilt)
    (hco : st.validator.schema.IsCoherent) {l : Label} (hF : ∀ n, F (.limit (.expansion n)))
    (hparts : ∀ fault, Plan.partsOf st.validator.schema st.validator.hierarchy l = .error fault →
      F fault) :
    Meets (fun s => st.KnowsMemo s.memo) (st.planOf l) (st.IsPlan l) F := by
  have hacc := hv.accepted
  have hhier := hv.hierarchy
  unfold planOf
  refine Meets.get.bind fun s hs => ?_
  split
  · rename_i p hp
    exact Meets.pure (hs.plans l p hp)
  · split
    · rename_i fault hfault
      exact Meets.throw (hparts fault hfault)
    · rename_i parts hparts
      have hall := (Plan.partsOf_eq_ok (hhier ▸ hparts)).2
      have hjoined := (joinedForm_meets hacc hco l hall).mono (G := F) (fun _ => id)
        fun fault h => by
        obtain ⟨n, rfl⟩ := h
        exact hF n
      refine hjoined.bind fun f hf => ?_
      have hplan : st.IsPlan l ⟨parts, f⟩ := ⟨hparts, hf⟩
      refine (Meets.modify fun r hr => ⟨hr.forms, fun l' p hp => ?_⟩).bind fun _ _ =>
        Meets.pure hplan
      by_cases hl : l = l'
      · subst hl
        rw [Table.get?_insert_self] at hp
        cases hp
        exact hplan
      · rw [Table.get?_insert_of_ne _ hl] at hp
        exact hr.plans l' p hp

/-- The plan of a label is computed or looked up. -/
theorem planOf_meets (hv : st.validator.IsBuilt)
    (hco : st.validator.schema.IsCoherent) {l : Label} :
    Meets (fun s => st.KnowsMemo s.memo) (st.planOf l) (st.IsPlan l) fun _ => True :=
  planOf_meets_of hv hco (fun _ => trivial) fun _ _ => trivial

/-- A form of several joined expressions stands for the group of them. -/
theorem IsJoined.represents (hacc : st.validator.IsAccepted) {l : Label}
    {e e' : TripleExpr} {es : List TripleExpr}
    (hes : ∀ x ∈ e :: e' :: es, ∃ m h, st.validator.schema.Has (.shape m h (some x))) {f : Form}
    (hf : st.IsJoined l (e :: e' :: es) f) :
    f.Represents st.validator.schema
      (.eachOf (.written ⟨st.validator.numbering (.label l), []⟩) (e :: e' :: es)) := by
  obtain ⟨limit, hf⟩ := hf
  have := normalize_joined hacc hes (.written ⟨st.validator.numbering (.label l), []⟩) limit
    (st.validator.numbering (.label l)).next
  rwa [hf] at this

/-- The constraints of a form of joined expressions are met in one of them. The group that joins
them is not in the schema, so this is shown for the group first. -/
theorem IsJoined.inside (hacc : st.validator.IsAccepted) {l : Label}
    {es : List TripleExpr}
    (hes : ∀ e ∈ es, ∃ m h, st.validator.schema.Has (.shape m h (some e))) {f : Form}
    (hf : st.IsJoined l es f) {c : TripleConstraint} (hc : c ∈ f.constraints) :
    ∃ e ∈ es, ∃ via m, st.validator.schema.Inside via e (.constraint m c.arc c.value) ∧
      m.source = c.mark.source := by
  match es, hes, hf with
  | [], _, hf =>
    obtain rfl : f = .empty _ := hf
    simp [Form.constraints, Form.empty, TripleExpr.constraints] at hc
  | [e], hes, hf =>
    obtain ⟨mk, h, he⟩ := hes e (List.mem_singleton_self e)
    obtain ⟨e', via, m, hee', hin, hm⟩ := IsForm.inside hacc he hf hc
    cases hee'
    exact ⟨e, List.mem_singleton_self e, via, m, hin, hm⟩
  | e :: e' :: es, hes, hf =>
    obtain ⟨via, m, hin, hm⟩ := ((IsJoined.represents hacc hes hf).sources _ _ _).1
      ⟨c, hc, rfl, rfl, rfl⟩
    obtain ⟨x, hx, hin⟩ := Schema.inside_eachOf_constraint.1 hin
    exact ⟨x, hx, via, m, hin, hm⟩

end Setting

end Shex
