import Shex.Proofs.Structural

/-!
# Owners of constraints

A constraint in the form of an extending shape belongs to the first part that claims its source: the
part whose main shape comes to the source, behind references too. So every constraint belongs to a
part exactly if all sources are claimed (`Setting.owners_exact`). In a schema that is written they
are, since its constraints are sources themselves. A constraint that was taken from a form is a
copy, and it is its own identity that is claimed, not that of its source
(`copied_constraint_unowned`).
-/

namespace Shex

open Run

namespace Schema

variable {s : Schema} {p : Part} {id : ExprId}

/-- The main shape of a part comes to the constraint with an identity. -/
def Claims (s : Schema) (p : Part) (id : ExprId) : Prop :=
  ∃ e via m a v, p.shape.expression = some e ∧ s.Inside via e (.constraint m a v) ∧ m.id = id

/-- The first part that claims a constraint is at a position. -/
def IsFirstClaim (s : Schema) (parts : List Part) (id : ExprId) (i : Nat) : Prop :=
  (∃ p, parts[i]? = some p ∧ s.Claims p id) ∧
    ∀ j p, j < i → parts[j]? = some p → ¬ s.Claims p id

/-- The sources of all constraints that the main shapes come to are claimed. -/
def ClaimsSources (s : Schema) (parts : List Part) : Prop :=
  ∀ p ∈ parts, ∀ e via m a v, p.shape.expression = some e →
    s.Inside via e (.constraint m a v) → ∃ p' ∈ parts, s.Claims p' m.source.id

/-- The same for the parts of every label. -/
def ClaimsAllSources (s : Schema) : Prop :=
  ∀ l parts, Plan.partsOf s (.ofSchema s) l = .ok parts → s.ClaimsSources parts

/-- The constraints that a part owns are those it claims: the ones written in its triple expression,
and in what that refers to. -/
theorem IsPart.mem_owned_iff (h : s.IsPart p) : id ∈ p.owned ↔ s.Claims p id := by
  rw [h.owned]
  constructor
  · intro hid
    cases he : p.shape.expression with
    | none =>
      rw [he] at hid
      cases hid
    | some e =>
      rw [he, Option.elim_some] at hid
      obtain ⟨c, hc, rfl⟩ := List.mem_map.1 hid
      obtain ⟨via, hin⟩ := mem_reachableConstraints_iff.1 hc
      exact ⟨e, via, c.mark, c.arc, c.value, he, hin, rfl⟩
  · rintro ⟨e, via, m, a, v, he, hin, rfl⟩
    rw [he, Option.elim_some]
    exact List.mem_map.2 ⟨⟨m, a, v⟩, mem_reachableConstraints_iff.2 ⟨via, hin⟩, rfl⟩

/-- The owner of a constraint is the first part that claims its source. Parts claim constraints by
their own identities, so if the expression of a part has copies, their sources are what is looked
up, and those are not claimed. -/
theorem ownerOf_eq_some_iff {plan : Plan} (hparts : ∀ p ∈ plan.parts, s.IsPart p)
    {c : TripleConstraint} {i : Nat} :
    plan.ownerOf c = some i ↔ s.IsFirstClaim plan.parts c.mark.source.id i := by
  have howned : ∀ p ∈ plan.parts,
      (p.owned.contains c.mark.source.id = true ↔ s.Claims p c.mark.source.id) := fun p hp =>
    List.contains_iff_mem.trans (hparts p hp).mem_owned_iff
  rw [Plan.ownerOf, List.findIdx?_eq_some_iff_getElem, IsFirstClaim]
  constructor
  · rintro ⟨hi, hclaims, hfirst⟩
    refine ⟨⟨_, List.getElem?_eq_getElem hi, (howned _ (List.getElem_mem hi)).1 hclaims⟩, ?_⟩
    intro j p hj hp hclaim
    obtain ⟨hlt, rfl⟩ := List.getElem?_eq_some_iff.1 hp
    exact hfirst j hj ((howned _ (List.getElem_mem hlt)).2 hclaim)
  · rintro ⟨⟨p, hp, hclaim⟩, hfirst⟩
    obtain ⟨hi, rfl⟩ := List.getElem?_eq_some_iff.1 hp
    refine ⟨hi, (howned _ (List.getElem_mem hi)).2 hclaim, fun j hj hclaims => ?_⟩
    have hlt : j < plan.parts.length := Nat.lt_trans hj hi
    exact hfirst j _ hj (List.getElem?_eq_getElem hlt) ((howned _ (List.getElem_mem hlt)).1 hclaims)

/-- A constraint has an owner if its source is claimed. -/
theorem exists_owner_iff {plan : Plan} (hparts : ∀ p ∈ plan.parts, s.IsPart p)
    {c : TripleConstraint} :
    (∃ i, plan.ownerOf c = some i) ↔ ∃ p ∈ plan.parts, s.Claims p c.mark.source.id := by
  rw [← Option.isSome_iff_exists, Plan.ownerOf, List.findIdx?_isSome, List.any_eq_true]
  refine exists_congr fun p => and_congr_right fun hp => ?_
  exact List.contains_iff_mem.trans (hparts p hp).mem_owned_iff

/-- Constraints that are written are their own sources. -/
theorem claimsAllSources_of_isWritten (hs : s.isWritten = true) : s.ClaimsAllSources := by
  intro l parts hparts p hp e via m a v he hin
  obtain ⟨mk, hmain⟩ := ((Plan.partsOf_eq_ok hparts).2 p hp).has_main
  rw [he] at hmain
  have horigin : m.origin = none := origin_eq_none hs hmain hin
  refine ⟨p, hp, e, via, m, a, v, he, hin, ?_⟩
  rw [TripleMark.source, horigin, Option.getD_none]

end Schema

namespace Setting

variable {σ : Type} {st : Setting σ} {l : Label} {plan : Plan}

/-- What is met in the joined expressions has a constraint in the form that stands for it. So an
unclaimed source does come up as a constraint without owner. -/
theorem IsJoined.exists_constraint (hacc : st.validator.IsAccepted)
    {es : List TripleExpr} (hes : ∀ e ∈ es, ∃ m h, st.validator.schema.Has (.shape m h (some e)))
    {f : Form} {l : Label} (hf : st.IsJoined l es f) {e : TripleExpr} (he : e ∈ es)
    {via : List Label} {m : TripleMark} {a : Arc} {v : Option ShapeExpr}
    (hin : st.validator.schema.Inside via e (.constraint m a v)) :
    ∃ c ∈ f.constraints, c.mark.source = m.source ∧ c.arc = a ∧ c.value = v := by
  match es, hes, hf, he with
  | [e], hes, hf, he =>
    obtain rfl := List.mem_singleton.1 he
    obtain ⟨mk, h, hhas⟩ := hes _ he
    exact (IsForm.represents hacc hhas hf).sources _ _ _ |>.2 ⟨via, m, hin, rfl⟩
  | e :: e' :: es, hes, hf, he =>
    exact (IsJoined.represents hacc hes hf).sources _ _ _ |>.2
      ⟨via, m, Schema.inside_eachOf_constraint.2 ⟨_, he, hin⟩, rfl⟩

/-- The constraints of a plan have owners exactly if the sources are claimed. One direction reads
the sources of the constraints, the other finds a constraint for each source. -/
theorem IsPlan.owned_iff (hacc : st.validator.IsAccepted)
    (hhier : st.validator.hierarchy = .ofSchema st.validator.schema) (hplan : st.IsPlan l plan) :
    (∀ c ∈ plan.form.constraints, ∃ i, plan.ownerOf c = some i) ↔
      st.validator.schema.ClaimsSources plan.parts := by
  have hparts := (Plan.partsOf_eq_ok (hhier ▸ hplan.parts)).2
  have hhas := fun e => @has_of_mem_expressions _ st _ hparts e
  constructor
  · intro howned p hp e via m a v he hin
    have hmem : e ∈ Plan.expressions plan.parts := List.mem_filterMap.2 ⟨p, hp, he⟩
    obtain ⟨c, hc, hsource, -⟩ := hplan.form.exists_constraint hacc hhas hmem hin
    rw [← hsource]
    exact (Schema.exists_owner_iff hparts).1 (howned c hc)
  · intro hclaims c hc
    obtain ⟨e, he, via, m, hin, hsource⟩ := hplan.form.inside hacc hhas hc
    obtain ⟨p, hp, hpe⟩ := List.mem_filterMap.1 he
    rw [Schema.exists_owner_iff hparts, ← hsource]
    exact hclaims p hp e via m _ _ hpe hin

/-- A run does not end because a matched constraint has no owner, if sources are claimed. All other
faults are admitted here. -/
theorem admits_owned (hv : st.validator.IsBuilt)
    (hclaims : st.validator.schema.ClaimsAllSources) :
    st.Admits fun f => ∀ id l, f ≠ .internal (.unowned id l) := by
  have hacc := hv.accepted
  have hhier := hv.hierarchy
  refine ⟨fun f hf id l h => ?_, fun l plan id _ hplan hid hnone => ?_⟩
  · subst h
    exact hf.1 trivial
  · obtain ⟨c, hc, rfl⟩ := List.mem_map.1 hid
    obtain ⟨i, hi⟩ := (hplan.owned_iff hacc hhier).2 (hclaims l _ (hhier ▸ hplan.parts)) c hc
    rw [Plan.ownerOfId, hplan.constraint?_eq_some hhier hacc hc, Option.bind_some, hi] at hnone
    cases hnone

/-- The plan of a label has a part for each of its ancestors, beginning with the label itself. Each
constraint of its form belongs to the first part that claims the constraint's source, and all of
them belong to some part exactly if all sources are claimed. In a schema that is written they are.
If they are for all labels, then no run ends because a matched constraint belongs to no part. -/
theorem owners_exact (hv : st.validator.IsBuilt)
    (hco : st.validator.schema.IsCoherent) {memo : Memo} (hmemo : st.validator.Remembers memo) :
    (∀ l n world plan, ((st.planOf l).run.run ⟨memo, n, world⟩).1 = .ok plan →
      plan.parts.map Part.label = st.validator.hierarchy.ancestors l ∧
      (∀ c ∈ plan.form.constraints, ∀ i, plan.ownerOf c = some i ↔
        st.validator.schema.IsFirstClaim plan.parts c.mark.source.id i) ∧
      ((∀ c ∈ plan.form.constraints, ∃ i, plan.ownerOf c = some i) ↔
        st.validator.schema.ClaimsSources plan.parts) ∧
      (st.validator.schema.isWritten = true → st.validator.schema.ClaimsSources plan.parts)) ∧
    (st.validator.schema.isWritten = true → st.validator.schema.ClaimsAllSources) ∧
    (st.validator.schema.ClaimsAllSources → ∀ pairs world id l,
      (st.validator.validate st.limits st.handlers st.graph pairs memo world).1 ≠
        .error (.internal (.unowned id l))) := by
  have hacc := hv.accepted
  have hhier := hv.hierarchy
  refine ⟨fun l n world plan hok => ?_, Schema.claimsAllSources_of_isWritten, ?_⟩
  · have hmeets := planOf_meets hv hco (l := l) ⟨memo, n, world⟩
      (knowsMemo_of_remembers hv hco hmemo)
    rw [hok] at hmeets
    have hplan : st.IsPlan l plan := hmeets.2
    obtain ⟨hlabels, hparts⟩ := Plan.partsOf_eq_ok (hhier ▸ hplan.parts)
    exact ⟨hhier ▸ hlabels, fun c _ i => Schema.ownerOf_eq_some_iff hparts,
      hplan.owned_iff hacc hhier,
      fun hs => Schema.claimsAllSources_of_isWritten hs l _ (hhier ▸ hplan.parts)⟩
  · intro hclaims pairs world id l hfault
    have hmeets := run_meets_of_admits hv hco (admits_owned hv hclaims) (fun _ _ _ => nofun) pairs
    exact fault_of_validate hv hco hmemo hmeets hfault id l rfl

end Setting

/-! ### Examples -/

/-- `p .` -/
def commonConstraint : TripleExpr := .constraint (.written ⟨⟨0⟩, []⟩) ⟨⟨"p"⟩, false⟩ none

/-- `&<T>` -/
def commonReference (i : Nat) : TripleExpr := .ref (.written ⟨⟨i⟩, []⟩) (.iri ⟨"T"⟩)

/-- `<Base> base` with `<Child> EXTENDS @<Base> own` -/
def baseAndChild (base : Option TripleExpr) (own : TripleExpr) : Schema :=
  (Schema.empty.addShape (.iri ⟨"Base"⟩) ⟨false, .shape ⟨⟨10⟩, []⟩ .plain base⟩).addShape
    (.iri ⟨"Child"⟩) ⟨false, .shape ⟨⟨11⟩, []⟩ ⟨false, [], [.iri ⟨"Base"⟩]⟩ (some own)⟩

/-- `<Base> { &<T> }` with `<Child> EXTENDS @<Base> { &<T> }` and `$<T> p .` -/
def sharedSchema : Schema :=
  (baseAndChild (some (commonReference 1)) (commonReference 2)).addTripleExpr (.iri ⟨"T"⟩)
    commonConstraint

/-- The form of the joined shapes has two copies of the constraint, and both belong to the child. -/
theorem sharedSchema_owners :
    ∃ plan, (((settingOf sharedSchema []).planOf (.iri ⟨"Child"⟩)).run.run ⟨.empty, 0, ()⟩).1 =
      .ok plan ∧ plan.form.constraints.map plan.ownerOf = [some 0, some 0] ∧
        ∀ c ∈ plan.form.constraints, ∃ i, plan.ownerOf c = some i := by
  refine ⟨_, rfl, by decide, ?_⟩
  have h := @Setting.owners_exact Unit (settingOf sharedSchema []) ⟨rfl, rfl⟩
    (Schema.isCoherent_of_nodup (by decide) (by decide)) _ .nothing
  obtain ⟨-, -, howned, hclaims⟩ := h.1 (.iri ⟨"Child"⟩) 0 () _ rfl
  exact howned.2 (hclaims (by decide))

/-- The form of `&<T>` is a copy of the constraint. If the child is declared with it in a schema of
its own, the constraint belongs to no part, and the run that matches it ends with a fault. -/
theorem copied_constraint_unowned :
    ∃ f, (commonReference 1).normalize (Schema.empty.addTripleExpr (.iri ⟨"T"⟩) commonConstraint) 7
        ⟨2⟩ = .ok f ∧
      (baseAndChild none f.expr).analyze = .ok () ∧
      (∃ plan, (((settingOf (baseAndChild none f.expr) []).planOf (.iri ⟨"Child"⟩)).run.run
        ⟨.empty, 0, ()⟩).1 = .ok plan ∧ plan.form.constraints.map plan.ownerOf = [none]) ∧
      ∃ id, ((settingOf (baseAndChild none f.expr) []).validator.validate .standard .empty
        (Graph.ofList [link "n" "p" "m"]).view [(.resource (.iri ⟨"n"⟩), .label (.iri ⟨"Child"⟩))]
        .empty ()).1 = .error (.internal (.unowned id (.iri ⟨"Child"⟩))) := by
  refine ⟨_, rfl, rfl, ⟨_, rfl, by decide⟩, _, rfl⟩

end Shex
