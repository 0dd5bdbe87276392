import Shex.Proofs.Expansion

/-!
# Normalization keeps the meaning

The form of a triple expression is a single-occurrence expression that denotes the same bags as the
expression, and its constraints are copies of the constraints that the expression has behind
references (`Form.Represents`). For an expression of a schema whose labelled triple expressions do
not contain themselves, normalization gives such a form or ends in a limit fault
(`TripleExpr.normalize_represents`).
-/

open scoped Pointwise

namespace Shex

namespace Form

variable {f : Form} {c : TripleConstraint} {id : ExprId}

/-- Constraints with identities of their own are found by them. Without these a search would only
tell the first one. -/
theorem constraint?_eq_some_iff (hnodup : f.expr.constraintIds.Nodup) :
    f.constraint? id = some c ↔ c ∈ f.constraints ∧ c.id = id := by
  constructor
  · intro h
    exact ⟨List.mem_of_find?_eq_some h, by simpa using List.find?_some h⟩
  · rintro ⟨hc, rfl⟩
    have hsome : (f.constraint? c.id).isSome := by
      rw [constraint?, List.find?_isSome]
      exact ⟨c, hc, by simp⟩
    obtain ⟨c', hc'⟩ := Option.isSome_iff_exists.1 hsome
    have hid : c'.id = c.id := by simpa using List.find?_some hc'
    rw [hc', List.inj_on_of_nodup_map hnodup (List.mem_of_find?_eq_some hc') hc hid]

/-- The predicates of a form are those of its constraints. -/
theorem mem_predicates {inverse : Bool} {p : Iri} :
    p ∈ f.predicates inverse ↔ ∃ c ∈ f.constraints, c.arc = ⟨p, inverse⟩ := by
  rw [predicates]
  constructor
  · intro hp
    obtain ⟨c, hc, rfl⟩ := List.mem_map.1 hp
    obtain ⟨hmem, hinv⟩ := List.mem_filter.1 hc
    obtain rfl : c.arc.inverse = inverse := by simpa using hinv
    exact ⟨c, hmem, rfl⟩
  · rintro ⟨c, hc, harc⟩
    exact List.mem_map.2 ⟨c, List.mem_filter.2 ⟨hc, by simp [harc]⟩, by rw [harc]⟩

end Form

/-- A form stands for an expression: it is a single-occurrence expression, its constraints are
those of the expression up to their marks, and it denotes what the expression denotes. -/
structure Form.Represents (S : Schema) (e : TripleExpr) (f : Form) : Prop where
  countable : f.expr.isCountable = true
  nodup : f.expr.constraintIds.Nodup
  sources : ∀ m a v, (∃ c ∈ f.constraints, c.mark.source = m ∧ c.arc = a ∧ c.value = v) ↔
    S.HasSource e m a v
  avoids : S.AvoidsEmpty e → f.expr.avoidsEmpty = true
  annotated : S.IsActionFree e → f.annotated = []
  language : ∀ {α : Type} {atom : AtomLanguage α},
    (∀ m id a v, atom (m.copy id) a v = atom m a v) → (∀ m a v, 0 ∉ atom m a v) →
    ∀ target, f.expr.language atom target = e.language atom (S.labelLanguage atom)

namespace TripleExpr

variable {S : Schema}

/-- A copy of a schema that is well-formed is made, or a bound is not kept. -/
theorem normalize_copy {α : Type} {atom : AtomLanguage α}
    (hcopy : ∀ m id a v, atom (m.copy id) a v = atom m a v) (hatom : ∀ m a v, 0 ∉ atom m a v)
    (hres : S.IsResolved) (hacyc : S.IsAcyclic) {e : TripleExpr} (he : S.RefsDeclared e)
    (limit : Nat) (s : Normalizing) :
    Normalize.Meets s
      (Normalize.expr limit (Normalize.resolve S limit S.tripleExprs.size []) e)
      (Normalize.CopyOf atom S e s) ValidationFault.IsExpansion := by
  refine Normalize.expr_meets hcopy hatom (fun l => ⟨l, rfl⟩) (fun l hl s' => ?_) s
  obtain ⟨e', he'⟩ := he l hl
  exact (Normalize.resolve_meets hcopy hatom (fun l => ⟨l, rfl⟩) hres hacyc limit he'
    List.nodup_nil (by simp) (by simp) s').imp fun f t hf => ⟨e', he', hf⟩

mutual

/-- If no repetition that is met has the empty cardinality, none that is written has. For an
expression that is its own form this is all there is to keep. -/
theorem avoidsEmpty_of_schema :
    ∀ {e : TripleExpr}, S.AvoidsEmpty e → e.avoidsEmpty = true
  | .eachOf m es, h => by
    rw [avoidsEmpty]
    exact allAvoidEmpty_of_schema fun e he via m x c hx => h via m x c (.eachOf he hx)
  | .oneOf m es, h => by
    rw [avoidsEmpty]
    exact allAvoidEmpty_of_schema fun e he via m x c hx => h via m x c (.oneOf he hx)
  | .repeated m e c, h => by
    rw [avoidsEmpty, avoidsEmpty_of_schema fun via m x c hx => h via m x c (.repeated hx)]
    simpa [Cardinality.isEmpty] using h [] m e c (.self _)
  | .constraint _ _ _, _ => by rw [avoidsEmpty]
  | .ref _ _, _ => by rw [avoidsEmpty]
  | .empty _, _ => by rw [avoidsEmpty]

/-- The same for the parts of a group or a choice. -/
theorem allAvoidEmpty_of_schema :
    ∀ {es : List TripleExpr}, (∀ e ∈ es, S.AvoidsEmpty e) → allAvoidEmpty es = true
  | [], _ => rfl
  | e :: es, h => by
    rw [allAvoidEmpty, avoidsEmpty_of_schema (h e (by simp)),
      allAvoidEmpty_of_schema fun e he => h e (by simp [he])]
    rfl

end

mutual

/-- Without semantic actions nothing is recorded. The copies need this as well, and there it is what
`Advances` tells about the list of annotated nodes. -/
theorem annotate_of_isActionFree :
    ∀ {e : TripleExpr}, S.IsActionFree e → e.annotate [] = []
  | .eachOf m es, h => by
    have hm : m.source.actions = [] := h [] _ (.self _)
    rw [annotate, annotateIn_of_isActionFree fun e he via x hx => h via x (.eachOf he hx)]
    simp [Annotated.record, hm]
  | .oneOf m es, h => by
    have hm : m.source.actions = [] := h [] _ (.self _)
    rw [annotate, annotateIn_of_isActionFree fun e he via x hx => h via x (.oneOf he hx)]
    simp [Annotated.record, hm]
  | .repeated m e c, h => by
    have hm : m.source.actions = [] := h [] _ (.self _)
    rw [annotate, annotate_of_isActionFree fun via x hx => h via x (.repeated hx)]
    simp [Annotated.record, hm]
  | .constraint m a v, h => by
    have hm : m.source.actions = [] := h [] _ (.self _)
    simp [annotate, Annotated.record, hm]
  | .ref m l, h => by
    have hm : m.source.actions = [] := h [] _ (.self _)
    simp [annotate, Annotated.record, hm]
  | .empty m, h => by
    have hm : m.source.actions = [] := h [] _ (.self _)
    simp [annotate, Annotated.record, hm]

/-- The same for the parts of a group or a choice. -/
theorem annotateIn_of_isActionFree :
    ∀ {es : List TripleExpr}, (∀ e ∈ es, S.IsActionFree e) → annotateIn es [] = []
  | [], _ => rfl
  | e :: es, h => by
    rw [annotateIn, annotate_of_isActionFree (h e (by simp)),
      annotateIn_of_isActionFree fun e he => h e (by simp [he])]

end

/-- After something was recorded the record is not empty. -/
theorem extend_ne_nil {source : Mark} {ids : List ExprId} :
    ∀ {as : List Annotated}, Annotated.extend source ids as ≠ []
  | [] => by simp [Annotated.extend]
  | a :: as => by
    rw [Annotated.extend]
    split <;> simp

/-- If nothing is recorded, nothing was before, and the node has no actions. -/
theorem record_eq_nil {source : Mark} {e : TripleExpr} {as : List Annotated}
    (h : Annotated.record source e as = []) : as = [] ∧ source.actions = [] := by
  rw [Annotated.record] at h
  split at h
  · rename_i hact
    exact ⟨h, List.isEmpty_iff.1 hact⟩
  · exact absurd h extend_ne_nil

mutual

/-- If nothing is recorded, then nothing was recorded before, and the node has no semantic
actions. -/
theorem annotate_eq_nil :
    ∀ {e : TripleExpr} {as : List Annotated}, e.annotate as = [] → as = [] ∧ e.source.actions = []
  | .eachOf m es, as, h => by
    rw [annotate] at h
    obtain ⟨has, hm⟩ := record_eq_nil h
    exact ⟨(annotateIn_eq_nil has).1, hm⟩
  | .oneOf m es, as, h => by
    rw [annotate] at h
    obtain ⟨has, hm⟩ := record_eq_nil h
    exact ⟨(annotateIn_eq_nil has).1, hm⟩
  | .repeated m e c, as, h => by
    rw [annotate] at h
    obtain ⟨has, hm⟩ := record_eq_nil h
    exact ⟨(annotate_eq_nil has).1, hm⟩
  | .constraint m a v, as, h => record_eq_nil (by rwa [annotate] at h)
  | .ref m l, as, h => record_eq_nil (by rwa [annotate] at h)
  | .empty m, as, h => record_eq_nil (by rwa [annotate] at h)

/-- The same for the parts of a group or a choice. -/
theorem annotateIn_eq_nil :
    ∀ {es : List TripleExpr} {as : List Annotated},
      annotateIn es as = [] → as = [] ∧ ∀ e ∈ es, e.annotate [] = []
  | [], as, h => by
    rw [annotateIn] at h
    exact ⟨h, by simp⟩
  | e :: es, as, h => by
    rw [annotateIn] at h
    obtain ⟨he, hes⟩ := annotateIn_eq_nil h
    obtain rfl := (annotate_eq_nil he).1
    exact ⟨rfl, List.forall_mem_cons.2 ⟨he, hes⟩⟩

end

/-- If nothing is recorded for an expression and for those that are declared, there are no semantic
actions. -/
theorem isActionFree_of_annotate (hS : ∀ l e, S.tripleExpr? l = some e → e.annotate [] = [])
    {e : TripleExpr} (h : e.annotate [] = []) : S.IsActionFree e := by
  intro via x hin
  induction hin with
  | self => exact (annotate_eq_nil h).2
  | eachOf he _ ih =>
    rw [annotate] at h
    exact ih ((annotateIn_eq_nil (record_eq_nil h).1).2 _ he)
  | oneOf he _ ih =>
    rw [annotate] at h
    exact ih ((annotateIn_eq_nil (record_eq_nil h).1).2 _ he)
  | repeated _ ih =>
    rw [annotate] at h
    exact ih (record_eq_nil h).1
  | ref hl _ ih => exact ih (hS _ _ hl)

/-- The references in several expressions, one expression after the other. -/
theorem refsIn_eq_flatMap (es : List TripleExpr) : refsIn es = es.flatMap refs := by
  induction es with
  | nil => rfl
  | cons e es ih => rw [refsIn, ih, List.flatMap_cons]

/-- Without references nothing is met behind references, so that what is met in the expression is
written in it. -/
theorem via_eq_nil_of_refs {e x : TripleExpr} {via : List Label} (hr : e.refs = [])
    (h : S.Inside via e x) : via = [] := by
  induction h with
  | self => rfl
  | eachOf he _ ih =>
    rw [refs, refsIn_eq_flatMap] at hr
    exact ih (List.flatMap_eq_nil_iff.1 hr _ he)
  | oneOf he _ ih =>
    rw [refs, refsIn_eq_flatMap] at hr
    exact ih (List.flatMap_eq_nil_iff.1 hr _ he)
  | repeated _ ih =>
    rw [refs] at hr
    exact ih hr
  | ref => simp [refs] at hr

/-- An expression that can be matched as it stands is its own form. It has no references, so nothing
that is met in it is out of sight. -/
theorem ofSorbe_represents {e : TripleExpr} (h : e.isSorbe = true) :
    (Form.ofSorbe e).Represents S e := by
  rw [isSorbe, Bool.and_eq_true, decide_eq_true_iff] at h
  have hr := refs_of_isCountable h.1
  refine ⟨h.1, h.2, fun m a v => ?_, avoidsEmpty_of_schema, annotate_of_isActionFree, ?_⟩
  · constructor
    · rintro ⟨c, hc, rfl, rfl, rfl⟩
      exact ⟨[], c.mark, Schema.mem_constraints_iff.1 hc, rfl⟩
    · rintro ⟨via, m', hx, hm⟩
      obtain rfl := via_eq_nil_of_refs hr hx
      exact ⟨⟨m', a, v⟩, Schema.mem_constraints_iff.2 hx, hm, rfl, rfl⟩
  · exact fun _ _ target => language_target hr target _

/-- There is a form if something can be read off it. -/
theorem exists_form {β : Type} {e : TripleExpr} {limit : Nat} {fresh : ExprId} {read : Form → β}
    {b : β} (h : (e.normalize S limit fresh).toOption.map read = some b) :
    ∃ f, e.normalize S limit fresh = .ok f ∧ read f = b := by
  cases hf : e.normalize S limit fresh with
  | error fault =>
    rw [hf] at h
    cases h
  | ok f =>
    rw [hf] at h
    exact ⟨f, rfl, Option.some.inj h⟩

/-- What holds of the results of all runs on an expression holds of a form that is not the
expression itself. -/
theorem exists_of_normalize {e : TripleExpr} {f : Form} {limit : Nat} {fresh : ExprId}
    {Q : TripleExpr → Normalizing → Prop} {F : ValidationFault → Prop} (hs : e.isSorbe = false)
    (hruns : Normalize.Meets ⟨fresh, limit, []⟩
      (Normalize.expr limit (Normalize.resolve S limit S.tripleExprs.size []) e) Q F)
    (h : e.normalize S limit fresh = .ok f) : ∃ t, Q f.expr t ∧ f.annotated = t.annotated := by
  rw [normalize, if_neg (by simp [hs])] at h
  unfold Normalize.Meets at hruns
  rcases hr : StateT.run (Normalize.expr limit (Normalize.resolve S limit S.tripleExprs.size []) e)
    ⟨fresh, limit, []⟩ with fault | ⟨g, t⟩
  · rw [hr] at h
    cases h
  · rw [hr] at h hruns
    cases h
    exact ⟨t, hruns, rfl⟩

/-- Normalization gives a form that stands for the expression, unless a bound is not kept. What the
form denotes is known for every reading of its constraints, and the other parts do not depend on the
reading. -/
theorem normalize_represents (hres : S.IsResolved) (hacyc : S.IsAcyclic) {e : TripleExpr}
    (he : S.RefsDeclared e) (limit : Nat) (fresh : ExprId) :
    match e.normalize S limit fresh with
    | .ok f => f.Represents S e
    | .error fault => fault.IsExpansion := by
  unfold normalize
  by_cases hs : e.isSorbe
  · rw [if_pos hs]
    exact ofSorbe_represents hs
  rw [if_neg hs]
  have hcopy {α : Type} {atom : AtomLanguage α}
      (hcopy : ∀ m id a v, atom (m.copy id) a v = atom m a v) (hatom : ∀ m a v, 0 ∉ atom m a v) :=
    normalize_copy hcopy hatom hres hacyc he limit ⟨fresh, limit, []⟩
  unfold Normalize.Meets at hcopy
  rcases hr : StateT.run (Normalize.expr limit (Normalize.resolve S limit S.tripleExprs.size []) e)
    ⟨fresh, limit, []⟩ with fault | ⟨f, t⟩
  · -- Any reading of the constraints will do here.
    have := @hcopy Unit (fun _ _ _ => ∅) (by simp) (by simp)
    rw [hr] at this
    exact this
  · have hany := @hcopy Unit (fun _ _ _ => ∅) (by simp) (by simp)
    simp only [hr] at hany hcopy
    have hcs : constraintsIn [f] = f.constraints := by simp [constraintsIn]
    constructor
    · simpa [allCountable] using hany.copies.countable
    · have := hany.copies.nodup
      rwa [hcs] at this
    · intro m a v
      constructor
      · rintro ⟨c, hc, rfl, rfl, rfl⟩
        exact hany.copies.sources c (by rwa [hcs])
      · intro h
        have := hany.copies.complete m a v h
        rwa [hcs] at this
    · intro h
      simpa [allAvoidEmpty] using hany.copies.avoids h
    · exact fun h => hany.advances.annotated h rfl
    · exact fun h h' target => (hcopy h h').language target

end TripleExpr

end Shex
