import Shex.Proofs.Adequacy
import Shex.Proofs.Erasure
import Shex.Proofs.Limits
import Shex.Proofs.OrderIndependence
import Shex.Proofs.Structure

/-!
# Shared nodes do not show

In a schema without extension and semantic actions it makes no difference whether a node is used in
several places or written several times. A shape that is matched by a form that was kept in one of
two such schemas may be matched by a copy in the other, and holds at the same nodes
(`Setting.fulfils_erase_iff`). What evaluation finds out is said of the tree of the schema
(`Setting.verdicts_erase_iff`), and so two schemas with the same tree are both accepted or both
refused, and give entries with the same statuses (`Validator.sharing_transparent`).
-/

namespace Shex

open TripleConstraint (Like)

namespace Schema

/-- Nothing is extended in the schema, and there are no semantic actions, not even in labelled
triple expressions that nothing refers to. -/
structure IsPlain (s : Schema) : Prop where
  extendsNothing : s.ExtendsNothing
  actionless : s.IsActionless
  labelled : ∀ l e, s.tripleExpr? l = some e → s.IsActionFree e

variable {s : Schema}

/-- A schema is plain if none of its shapes extends others, its shape expressions have no semantic
actions and none are recorded for its triple expressions. -/
theorem isPlain_of_annotate
    (hparents : ∀ x ∈ s.expressions, ∀ shape ∈ x.shape?.toList, shape.header.parents = [])
    (hexprs : ∀ x ∈ s.expressions, x.actions = [] ∧
      ∀ t ∈ (x.shape?.bind Shape.expression).toList, t.annotate [] = [])
    (htriples : ∀ t ∈ s.tripleExprs.values, t.annotate [] = []) (hstart : s.startActions = []) :
    s.IsPlain := by
  have hlabelled : ∀ l t, s.tripleExpr? l = some t → t.annotate [] = [] := fun l t ht =>
    htriples t (List.mem_map.2 ⟨(l, t), (Table.get?_eq_some_iff _).1 ht, rfl⟩)
  refine ⟨fun m h t hx => ?_, isActionless_of_annotate hexprs htriples hstart, fun l t ht =>
    TripleExpr.isActionFree_of_annotate hlabelled (hlabelled l t ht)⟩
  exact hparents _ (has_iff_mem_expressions.1 hx) ⟨h, t⟩ (by simp [ShapeExpr.shape?])

/-- Without actions in an expression there are none in what is met in it. -/
theorem IsActionFree.operand {e x : TripleExpr} (h : s.IsActionFree e)
    (hin : ∀ via y, s.Inside via x y → s.Inside via e y) : s.IsActionFree x :=
  fun via y hy => h via y (hin via y hy)

end Schema

/-! ### Forms -/

/-- A value expression and what is left of it without identities. -/
def ErasesTo (v v' : Option ShapeExpr) : Prop := v' = v.map ShapeExpr.erase

namespace TripleExpr

variable {s : Schema}

/-- A node without actions acts as its erasure does: by doing nothing. -/
theorem actsAs_erase {m : TripleMark} (h : m.source.actions = []) :
    m.source.ActsAs m.erase.source := by
  rw [m.source_erase]
  exact .inr ⟨h, h⟩

mutual

/-- Without identities an expression has the structure that it has. Semantic actions are excluded
since they are looked up by the identity of their node. -/
theorem corresponds_erase : ∀ {e : TripleExpr}, s.IsActionFree e →
    Corresponds (Like ErasesTo) e e.erase
  | .eachOf m es, h => by
    rw [erase]
    exact .eachOf (actsAs_erase (h [] _ (.self _))) (allCorrespond_erase fun e he =>
      h.operand fun _ _ => .eachOf he)
  | .oneOf m es, h => by
    rw [erase]
    exact .oneOf (actsAs_erase (h [] _ (.self _))) (allCorrespond_erase fun e he =>
      h.operand fun _ _ => .oneOf he)
  | .repeated m e c, h => by
    rw [erase]
    exact .repeated (actsAs_erase (h [] _ (.self _))) (corresponds_erase (h.operand fun _ _ =>
      .repeated))
  | .constraint m a v, h => by
    rw [erase_constraint]
    exact .constraint (actsAs_erase (h [] _ (.self _))) ⟨rfl, rfl⟩
  | .ref m l, h => by
    rw [erase]
    exact .ref (actsAs_erase (h [] _ (.self _)))
  | .empty m, h => by
    rw [erase]
    exact .empty (actsAs_erase (h [] _ (.self _)))

/-- The same for the parts of a group or a choice. -/
theorem allCorrespond_erase : ∀ {es : List TripleExpr}, (∀ e ∈ es, s.IsActionFree e) →
    AllCorrespond (Like ErasesTo) es (eraseIn es)
  | [], _ => .nil
  | e :: es, h => by
    rw [eraseIn]
    rw [List.forall_mem_cons] at h
    exact .cons (corresponds_erase h.1) (allCorrespond_erase h.2)

end

end TripleExpr

namespace Setting

variable {σ : Type} {st : Setting σ} {V V' : Term → ShapeExpr → Prop} {scope : Scope} {node : Term}

/-- The setting with the tree of the schema, and without handlers. -/
def erased (st : Setting σ) : Setting Unit where
  validator := ⟨st.validator.schema.erase, .ofSchema st.validator.schema.erase, fun _ => ⟨0⟩,
    st.validator.readers⟩
  limits := st.limits
  handlers := .empty
  graph := st.graph

section
variable (hs : st.validator.schema.IsPlain) {m : Mark} {h : ShapeHeader} {t : Option TripleExpr}
  (hx : st.validator.schema.Has (.shape m h t))
include hs

/-- Labelled expressions have the structure that they have without identities. -/
theorem tripleExpr?_corresponds (l : Label) :
    Option.Rel (TripleExpr.Corresponds (Like ErasesTo)) (st.validator.schema.tripleExpr? l)
      (st.erased.validator.schema.tripleExpr? l) := by
  change Option.Rel _ _ (st.validator.schema.erase.tripleExpr? l)
  rw [Schema.tripleExpr?_erase]
  cases hl : st.validator.schema.tripleExpr? l with
  | none => exact .none
  | some e => exact .some (TripleExpr.corresponds_erase (hs.labelled l e hl))

include hx

/-- Without identities a shape has a form of the same structure, and none if it has none. The number
of nodes that normalization needs may differ, so a limit is found for either side. -/
theorem isForm_erase :
    (∀ f, st.IsForm t f → ∃ g, st.erased.IsForm (t.map TripleExpr.erase) g ∧
      f.expr.Corresponds (Like ErasesTo) g.expr) ∧
    ∀ g, st.erased.IsForm (t.map TripleExpr.erase) g → ∃ f, st.IsForm t f ∧
      f.expr.Corresponds (Like ErasesTo) g.expr := by
  cases t with
  | none =>
    have hempty : (Form.empty (st.validator.numbering .bare)).expr.Corresponds (Like ErasesTo)
        (Form.empty ⟨0⟩).expr := .empty (.inr ⟨rfl, rfl⟩)
    constructor
    · rintro _ rfl
      exact ⟨_, rfl, hempty⟩
    · rintro _ rfl
      exact ⟨_, rfl, hempty⟩
  | some e =>
    have he : e.Corresponds (Like ErasesTo) e.erase :=
      TripleExpr.corresponds_erase (hs.actionless.tripleActions m h _ hx e rfl)
    have hsize := st.validator.schema.size_erase
    constructor
    · rintro f ⟨limit, hf⟩
      obtain ⟨limit', g, hg, hfg⟩ := TripleExpr.exists_normalize_like (tripleExpr?_corresponds hs)
        hsize.symm he hf ⟨0⟩
      exact ⟨g, ⟨limit', hg⟩, hfg⟩
    · rintro g ⟨limit, hg⟩
      have hback : ∀ l, Option.Rel (TripleExpr.Corresponds (Like fun v' v => ErasesTo v v'))
          (st.erased.validator.schema.tripleExpr? l) (st.validator.schema.tripleExpr? l) := by
        intro l
        have hl := tripleExpr?_corresponds hs l
        revert hl
        generalize st.validator.schema.tripleExpr? l = o
        generalize st.erased.validator.schema.tripleExpr? l = o'
        rintro (he | _)
        · exact .some he.swap
        · exact .none
      obtain ⟨limit', f, hf, hgf⟩ :=
        TripleExpr.exists_normalize_like hback hsize he.swap hg
          (st.validator.numbering (.expr e.id))
      exact ⟨f, ⟨limit', hf⟩, hgf.swap⟩

variable (hacc : st.validator.IsAccepted)
include hacc

/-- Forms of the same structure hold at the same nodes, if value expressions do. Both directions are
one lemma on corresponding forms, read from either side. -/
theorem formHolds_erase_iff (hV : ∀ v, st.validator.schema.Has v → ∀ n, V n v ↔ V' n v.erase)
    {f g : Form} (hf : st.IsForm t f) (hg : st.erased.IsForm (t.map TripleExpr.erase) g)
    (hfg : f.expr.Corresponds (Like ErasesTo) g.expr) {closed : Bool} {extra : List Iri} :
    st.FormHolds V scope node f closed extra ↔
      st.erased.FormHolds V' scope node g closed extra := by
  have hrep := IsForm.represents_triples (s := ⟨h, t⟩) hacc hx hf
  have hx' : st.erased.validator.schema.Has (.shape m.erase h (t.map TripleExpr.erase)) :=
    (Schema.has_erase_iff _).2 ⟨_, hx, ShapeExpr.erase_shape m h t⟩
  have hrep' := IsForm.represents_triples (s := ⟨h, t.map TripleExpr.erase⟩)
    ((Schema.analyze_erase hs.extendsNothing _).trans hacc) hx' hg
  -- The value expressions are in the schema, where the hypothesis speaks of them.
  have hhas : f.expr.Corresponds
      (Like fun v v' => ErasesTo v v' ∧ ∀ x, v = some x → st.validator.schema.Has x) g.expr :=
    hfg.imp fun x hmem hlike => ⟨hlike.1, hlike.2, fun v hv =>
      hf.has hacc hx (Form.mem_values (List.of_mem_zip hmem).1 hv)⟩
  constructor
  · refine FormHolds.of_corresponds (fun v v' hvv' n hn x hxv => ?_) rfl hhas hrep.countable
      hrep.nodup hrep'.nodup
    obtain ⟨rfl, hmem⟩ := hvv'
    obtain ⟨y, rfl, rfl⟩ := Option.map_eq_some_iff.1 hxv
    exact (hV y (hmem y rfl) n).1 (hn y rfl)
  · have hback : g.expr.Corresponds (Like fun v' v =>
        ErasesTo v v' ∧ ∀ x, v = some x → st.validator.schema.Has x) f.expr := hhas.swap
    refine FormHolds.of_corresponds (fun v' v hvv' n hn x hxv => ?_) rfl hback hrep'.countable
      hrep'.nodup hrep.nodup
    obtain ⟨rfl, hmem⟩ := hvv'
    subst hxv
    exact (hV x (hmem x rfl) n).2 (hn _ rfl)

/-- A shape holds at the nodes at which it holds without identities. -/
theorem fulfils_erase_iff (hV : ∀ v, st.validator.schema.Has v → ∀ n, V n v ↔ V' n v.erase) :
    st.Fulfils V scope node ⟨h, t⟩ ↔
      st.erased.Fulfils V' scope node ⟨h, t.map TripleExpr.erase⟩ := by
  obtain ⟨hleft, hright⟩ := isForm_erase hs hx
  constructor
  · rintro ⟨f, hf, hholds⟩
    obtain ⟨g, hg, hfg⟩ := hleft f hf
    exact ⟨g, hg, (formHolds_erase_iff hs hx hacc hV hf hg hfg).1 hholds⟩
  · rintro ⟨g, hg, hholds⟩
    obtain ⟨f, hf, hfg⟩ := hright g hg
    exact ⟨f, hf, (formHolds_erase_iff hs hx hacc hV hf hg hfg).2 hholds⟩

end

/-! ### Verdicts -/

section
variable (hs : st.validator.schema.IsPlain)
  (hhier : st.validator.hierarchy = .ofSchema st.validator.schema)
include hs hhier

/-- What is declared under a label holds at the nodes at which it holds without identities. Nothing
extends anything here, so neither subtypes nor plans come in. -/
theorem declarationHolds_erase_iff {J J' : Scope → Term → ShapeExpr → Prop}
    (hJ : ∀ k n e, st.validator.schema.Has e → (J k n e ↔ J' k n e.erase)) (l : Label) :
    st.DeclarationHolds J scope node l ↔ st.erased.DeclarationHolds J' scope node l := by
  have hempty : st.validator.hierarchy = ⟨[]⟩ := hhier.trans hs.extendsNothing.hierarchy_eq
  have hempty' : st.erased.validator.hierarchy = ⟨[]⟩ := hs.extendsNothing.erase.hierarchy_eq
  -- Without extension no label has others that stand for it.
  have hsubtypes : concreteSubtypes st.validator l = [] := by
    rw [concreteSubtypes, hempty]
    rfl
  have hsubtypes' : concreteSubtypes st.erased.validator l = [] := by
    rw [concreteSubtypes, hempty']
    rfl
  have hdecl : st.erased.validator.schema.shape? l =
      (st.validator.schema.shape? l).map ShapeDecl.erase := st.validator.schema.shape?_erase l
  rw [DeclarationHolds, DeclarationHolds, hsubtypes, hsubtypes', hdecl]
  cases hl : st.validator.schema.shape? l with
  | none => simp
  | some d =>
    have hbody : ∀ k n, J k n d.expr ↔ J' k n d.erase.expr := fun k n =>
      hJ k n d.expr (Schema.has_of_shape? hl)
    simp [ConcreteHolds, hempty, hempty', Hierarchy.hasParents, hbody, ShapeDecl.erase]

variable (hacc : st.validator.IsAccepted)
include hacc

/-- A node satisfies an expression if it satisfies it without identities. By induction on the depth
that is left, one case for each kind of expression. -/
theorem verdicts_erase_iff (depth : Nat) : ∀ (k : Scope) (n : Term) (e : ShapeExpr),
    st.validator.schema.Has e →
      (st.verdicts depth k n e ↔ st.erased.verdicts depth k n e.erase) := by
  induction depth with
  | zero => exact fun _ _ _ _ => Iff.rfl
  | succ depth ih =>
    intro k n e he
    rw [verdicts, verdicts]
    cases e with
    | and m es =>
      simp only [ShapeExpr.erase, HoldsBy, ShapeExpr.eraseIn_eq_map, List.forall_mem_map]
      exact forall₂_congr fun x hx => ih k n x (he.of_and hx)
    | or m es =>
      simp only [ShapeExpr.erase, HoldsBy, ShapeExpr.eraseIn_eq_map, List.mem_map,
        exists_exists_and_eq_and]
      exact exists_congr fun x => and_congr_right fun hx => ih k n x (he.of_or hx)
    | not m e =>
      simp only [ShapeExpr.erase, HoldsBy]
      exact not_congr (ih k n e he.of_not)
    | ref m l =>
      simp only [ShapeExpr.erase, HoldsBy]
      exact declarationHolds_erase_iff hs hhier ih l
    | shape m h t =>
      simp only [ShapeExpr.erase_shape, HoldsBy]
      exact fulfils_erase_iff hs he hacc fun v hv n' => ih k.showAll n' v hv
    | nodeConstraint m c =>
      simp only [ShapeExpr.erase, HoldsBy]
      exact Iff.rfl
    | external m => simp only [ShapeExpr.erase, HoldsBy]

/-- What a selector names holds at the nodes at which it holds without identities, be it a label or
the start expression. -/
theorem pairHolds_erase_iff (pair : Term × Selector) :
    st.PairHolds pair ↔ st.erased.PairHolds pair := by
  obtain ⟨n, l | _⟩ := pair
  · exact declarationHolds_erase_iff hs hhier (verdicts_erase_iff hs hhier hacc _) l
  · have hstart : st.erased.validator.schema.start =
        st.validator.schema.start.map ShapeExpr.erase := rfl
    have hlimits : st.erased.limits = st.limits := rfl
    rw [PairHolds, PairHolds, hstart, hlimits]
    cases he : st.validator.schema.start with
    | none => simp
    | some e =>
      simpa using verdicts_erase_iff hs hhier hacc st.limits.depth .outermost n e
        (Schema.has_of_start he)

end

/-- A report about a schema without extension and semantic actions records, under wider limits too,
what holds without identities. -/
theorem records_erased {memo : Memo} {world : σ} {pairs : List (Term × Selector)} {report : Report}
    (hv : st.validator.IsBuilt) (hco : st.validator.schema.IsCoherent)
    (hs : st.validator.schema.IsPlain)
    (hmemo : st.validator.Remembers memo) {L : Limits} (hL : st.limits.Within L)
    (h : (st.validator.validate st.limits st.handlers st.graph pairs memo world).1 = .ok report) :
    List.Forall₂ (st.under L).erased.Records pairs report.entries := by
  have hv' : (st.under L).validator.IsBuilt := hv
  have hacc := hv'.accepted
  have hhier := hv'.hierarchy
  have hsettled : (st.under L).IsSettled := by
    intro l plan hparents
    have hempty : (st.under L).validator.hierarchy = ⟨[]⟩ :=
      hhier.trans hs.extendsNothing.hierarchy_eq
    rw [hempty] at hparents
    cases hparents
  have hwider : ((st.under L).run pairs).run.run ⟨memo, 0, world⟩ =
      (.ok report, ((st.run pairs).run.run ⟨memo, 0, world⟩).2) := by
    refine run_under hL pairs ⟨memo, 0, world⟩ report _ ?_
    exact Prod.ext h rfl
  have hyields := (run_yields hv' hco hs.actionless hsettled (.refl _) pairs
    ⟨memo, 0, world⟩ (knowsMemo_of_remembers hv' hco hmemo)).2
  have habout : (st.under L).about (st.under L).graph = st.under L := rfl
  rw [habout, hwider] at hyields
  have hpair : ∀ pair, (st.under L).PairHolds pair ↔ (st.under L).erased.PairHolds pair :=
    pairHolds_erase_iff hs hhier hacc
  exact hyields.imp fun pair e he => ⟨he.1, he.2.1, he.2.2.trans (hpair pair)⟩

end Setting

/-! ### Validators -/

/-- Sharing does not show. Let two schemas without extension and semantic actions have the same
tree, so that they differ only in which nodes are used in several places. Then their checks have the
same outcome, and if both are accepted and runs about the same pairs and graph give two reports,
under whatever limits and whatever is remembered, then the entries have the same statuses. -/
theorem Validator.sharing_transparent {s s' : Schema} (htree : s.erase = s'.erase)
    (hs : s.IsPlain) (hs' : s'.IsPlain) (hco : s.IsCoherent) (hco' : s'.IsCoherent) :
    (∀ R : Readers, s.analyze R = s'.analyze R) ∧
    ∀ v v' : Validator, v.IsBuilt → v.schema = s → v'.IsBuilt → v'.schema = s' →
      v.readers = v'.readers →
      ∀ {σ τ : Type} (limits limits' : Limits) (handlers : Handlers σ) (handlers' : Handlers τ)
        (graph : GraphView) (pairs : List (Term × Selector)) (memo memo' : Memo) (world : σ)
        (world' : τ) (report report' : Report), v.Remembers memo → v'.Remembers memo' →
        (v.validate limits handlers graph pairs memo world).1 = .ok report →
        (v'.validate limits' handlers' graph pairs memo' world').1 = .ok report' →
        List.Forall₂ (fun e e' => e.node = e'.node ∧ e.shape = e'.shape ∧ e.status = e'.status)
          report.entries report'.entries := by
  refine ⟨fun R => ?_, fun v v' hv hschema hv' hschema' hreaders σ τ limits limits' handlers
    handlers' graph pairs memo memo' world world' report report' hmemo hmemo' h h' => ?_⟩
  · rw [← Schema.analyze_erase hs.extendsNothing, htree, Schema.analyze_erase hs'.extendsNothing]
  · subst hschema hschema'
    let st : Setting σ := ⟨v, limits, handlers, graph⟩
    let st' : Setting τ := ⟨v', limits', handlers', graph⟩
    have hleft : List.Forall₂ (st.under (limits.join limits')).erased.Records pairs
        report.entries :=
      Setting.records_erased hv hco hs hmemo (limits.within_join_left limits') h
    have hright : List.Forall₂ (st'.under (limits.join limits')).erased.Records pairs
        report'.entries :=
      Setting.records_erased hv' hco' hs' hmemo' (limits.within_join_right limits') h'
    have hsame : (st'.under (limits.join limits')).erased =
        (st.under (limits.join limits')).erased := by
      simp [Setting.erased, Setting.under, st, st', htree, hreaders]
    rw [hsame] at hright
    exact Setting.forall₂_same_of_records hleft hright

/-! ### Example -/

/-- `<S> { q . ; q . }`, where the second constraint is the first one or another one. -/
def twoAlongQ (second : Nat) : Schema :=
  Schema.empty.addShape (.iri ⟨"S"⟩) ⟨false, .shape ⟨⟨0⟩, []⟩ .plain
    (some (.eachOf (.written ⟨⟨1⟩, []⟩) [alongQ 2 none, alongQ second none]))⟩

/-- The check of `n` and `m` against `<S>` about `n q a`, `n q b` and `m q a`. -/
def checkTwoAlongQ (second : Nat) : Except ValidationFault Report × Memo × Unit :=
  (settingOf (twoAlongQ second) []).validator.validate .standard .empty
    (Graph.ofList [link "n" "q" "a", link "n" "q" "b", link "m" "q" "a"]).view
    [(.resource (.iri ⟨"n"⟩), .label (.iri ⟨"S"⟩)), (.resource (.iri ⟨"m"⟩), .label (.iri ⟨"S"⟩))]
    .empty ()

/-- Whether the second constraint is the first one or another one, `n` conforms and `m` does not,
and that is what has to be. -/
theorem shared_or_not_same_statuses :
    (twoAlongQ 2).erase = (twoAlongQ 3).erase ∧ (twoAlongQ 2).analyze = (twoAlongQ 3).analyze ∧
    ∃ report report', (checkTwoAlongQ 2).1 = .ok report ∧ (checkTwoAlongQ 3).1 = .ok report' ∧
      report.entries.map Entry.status = [.conformant, .nonconformant] ∧
      List.Forall₂ (fun e e' => e.node = e'.node ∧ e.shape = e'.shape ∧ e.status = e'.status)
        report.entries report'.entries := by
  have hreport : ∀ second, (checkTwoAlongQ second).1.toOption.map (·.entries.map Entry.status) =
      some [.conformant, .nonconformant] → ∃ report, (checkTwoAlongQ second).1 = .ok report ∧
        report.entries.map Entry.status = [.conformant, .nonconformant] := by
    intro second h
    cases hr : (checkTwoAlongQ second).1 with
    | error fault =>
      rw [hr] at h
      cases h
    | ok report =>
      rw [hr] at h
      exact ⟨report, rfl, Option.some.inj h⟩
  have htree : (twoAlongQ 2).erase = (twoAlongQ 3).erase := rfl
  have hsharing := Validator.sharing_transparent htree
    (Schema.isPlain_of_annotate (by decide) (by decide) (by decide) rfl)
    (Schema.isPlain_of_annotate (by decide) (by decide) (by decide) rfl)
    (Schema.isCoherent_of_nodup (by decide) (by decide))
    (Schema.isCoherent_of_nodup (by decide) (by decide))
  obtain ⟨report, h, hstatuses⟩ := hreport 2 (by decide +kernel)
  obtain ⟨report', h', -⟩ := hreport 3 (by decide +kernel)
  exact ⟨htree, hsharing.1 .standard, report, report', h, h', hstatuses,
    hsharing.2 (settingOf (twoAlongQ 2) []).validator (settingOf (twoAlongQ 3) []).validator
      ⟨rfl, rfl⟩ rfl ⟨rfl, rfl⟩ rfl rfl _ _ _ _ _ _ _ _ _ _ _ _ .nothing .nothing h h'⟩

end Shex
