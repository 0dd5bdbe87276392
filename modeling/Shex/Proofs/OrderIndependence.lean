import Shex.Proofs.Settled

/-!
# The order of triples and evaluation

In a settled schema evaluation decides something that is said without an order of the triples
(`Setting.verdicts`), one step of it if the evaluator for value expressions does
(`Setting.satisfiesLabel_yields`), and so all of it. Two runs about graphs that show the same
triples in different orders therefore give the same statuses (`Setting.validate_reordered`). In
other schemas they may not (`order_matters`).
-/

namespace Shex

open Run

namespace Setting

variable {σ : Type} {st : Setting σ} {g : GraphView} {a k : Scope} {node : Term}

section
variable {J : Scope → Term → ShapeExpr → Prop} {E : Evaluator σ} {l : Label}
  (hv : st.validator.IsBuilt)
  (hco : st.validator.schema.IsCoherent) (hs : st.validator.schema.IsActionless)
  (hg : g.IsReordering st.graph) (hE : st.Yields g J E)
include hv hco hs hg hE

/-- What evaluation of a shape finds out in one graph is whether the form holds in the other: of the
edges that the form concerns, both scopes see the same. -/
theorem satisfiesShape_yields {mk : Mark} {h : ShapeHeader} {t : Option TripleExpr}
    (hx : st.validator.schema.Has (.shape mk h t))
    (hlike : st.Alike g a k node (.expr (.shape mk h t))) :
    Meets (fun r => (st.about g).KnowsMemo r.memo) ((st.about g).satisfiesShape E a node ⟨h, t⟩)
      (fun j => (∃ ts, j = .ok ts) ↔ st.Fulfils (J k.showAll) k node ⟨h, t⟩) fun _ => True := by
  have hacc := hv.accepted
  have hsame : (st.about g).Fulfils (J k.showAll) a node ⟨h, t⟩ ↔
      st.Fulfils (J k.showAll) k node ⟨h, t⟩ := by
    refine exists_congr fun f => and_congr_right fun hf => ?_
    refine formHolds_about_iff hg fun e he => hlike.sees e ⟨⟨h, t⟩, .shape, ?_⟩
    rcases he with hc | hclosed
    · obtain ⟨c, hc, harc⟩ := Form.concerns_iff.1 hc
      obtain ⟨e', via, m, ht, hin, -⟩ := IsForm.inside hacc hx hf hc
      exact .inr ⟨e', via, m, c.value, ht, harc ▸ hin⟩
    · exact .inl hclosed
  have hform : Meets (fun r => (st.about g).KnowsMemo r.memo) ((st.about g).formFor t)
      ((st.about g).IsForm t) fun _ => True :=
    (@formFor_meets_memo σ (st.about g) hacc hco _ _ _ hx).mono (fun _ => id) fun _ _ => trivial
  have htick : Meets (fun r => (st.about g).KnowsMemo r.memo) (st.about g).tick (fun _ => True)
      fun _ => True :=
    (tick_meets fun _ _ h => h).mono (fun _ => id) fun _ _ => trivial
  rw [← hsame]
  exact satisfiesShape_meets_of_form (s := ⟨h, t⟩) hacc hco hx (hs.tripleActions mk h t hx) hform
    htick fun n v hv => hE a.showAll k.showAll n v (hx.of_hasPart hv) (hlike.showAll hg n (.expr v))

/-- What matching a plan finds out, and that the owners of matched edges are settled: whichever
assignment is found, an edge belongs to the same part. -/
theorem matchAround_plan_yields {plan : Plan} (hplan : st.IsPlan l plan)
    (hlike : st.Alike g a k node (.label l)) :
    Meets (fun r => (st.about g).KnowsMemo r.memo)
      ((st.about g).matchAround E a node plan.form plan.isClosed plan.extra)
      (fun
        | .ok m => st.FormHolds (J k.showAll) k node plan.form plan.isClosed plan.extra ∧
            m.IsLawful (J k.showAll) plan.extra plan.form
              (a.neighbourhood g node (plan.form.predicates true)).edges ∧
            m.IsRegular plan.extra plan.form
              (a.neighbourhood g node (plan.form.predicates true)).edges
        | .error _ => ¬ st.FormHolds (J k.showAll) k node plan.form plan.isClosed plan.extra)
      fun _ => True := by
  have hacc := hv.accepted
  have hhier := hv.hierarchy
  have hinside := fun c => @IsJoined.inside σ st hacc _ _
    (fun t ht => hplan.has_expression hhier ht) _ hplan.form c
  have hsame : (st.about g).FormHolds (J k.showAll) a node plan.form plan.isClosed plan.extra ↔
      st.FormHolds (J k.showAll) k node plan.form plan.isClosed plan.extra := by
    refine formHolds_about_iff hg fun e he => hlike.sees e ?_
    rcases he with hc | ⟨hclosed, houtgoing⟩
    · obtain ⟨c, hc, harc⟩ := Form.concerns_iff.1 hc
      obtain ⟨t, ht, via, m, hin, -⟩ := hinside c hc
      obtain ⟨p, hp, hpt⟩ := List.mem_filterMap.1 ht
      exact ⟨p.shape, hplan.comesTo_main hhier hp, .inr ⟨t, via, m, c.value, hpt, harc ▸ hin⟩⟩
    · obtain ⟨p, hp, hpclosed⟩ := (Option.any_eq_true _ _).1 hclosed
      exact ⟨p.shape, hplan.comesTo_main hhier (List.mem_of_mem_head? hp),
        .inl ⟨hpclosed, houtgoing⟩⟩
  have htick : Meets (fun r => (st.about g).KnowsMemo r.memo) (st.about g).tick (fun _ => True)
      fun _ => True :=
    (tick_meets fun _ _ h => h).mono (fun _ => id) fun _ _ => trivial
  have hvalues : ∀ c ∈ plan.form.constraints, ∀ n v, c.value = some v →
      Meets (fun r => (st.about g).KnowsMemo r.memo) (E a.showAll n v)
        (fun d => d = .conforms ↔ J k.showAll n v) fun _ => True := by
    intro c hc n v hcv
    obtain ⟨t, ht, via, m, hin, -⟩ := hinside c hc
    obtain ⟨mk, h, hx⟩ := hplan.has_expression hhier ht
    rw [hcv] at hin
    exact hE a.showAll k.showAll n v (hx.of_shape hin) (hlike.showAll hg n (.expr v))
  have hmatchable := hplan.isMatchable hhier hacc hco hs.tripleActions
  refine (Meets.and (matchAround_meets (V := J k.showAll) hmatchable htick
    fun e _ c hc _ v hcv => hvalues c hc e.opposite v hcv)
    (matchAround_faults (F := fun _ => True) (fun _ _ => trivial) hmatchable.total
      fun c hc e _ _ v hcv => (hvalues c hc e.opposite v hcv).imp fun _ _ => trivial)).imp
    fun j hj => ?_
  cases j with
  | error reasons => exact mt hsame.2 hj.1
  | ok m => exact ⟨hsame.1 hj.1.1, hj.1.2, hj.2 m rfl⟩

variable (hsettled : st.IsSettled)
include hsettled

/-- What evaluation of an extending shape finds out. Since owners are settled, what is hidden from
the conjuncts of a part does not depend on the order of triples. -/
theorem satisfiesExtending_yields (hparents : st.validator.hierarchy.hasParents l = true)
    (hlike : st.Alike g a k node (.label l)) {declared : ShapeExpr}
    (hdeclared : st.validator.schema.Has declared) :
    Meets (fun r => (st.about g).KnowsMemo r.memo)
      ((st.about g).satisfiesExtending E E a node l declared)
      (fun v => v = .conforms ↔ st.PartsHold J k node l) fun _ => True := by
  have hacc := hv.accepted
  have hhier := hv.hierarchy
  have hholds : st.PartsHold J k node l ↔ ∃ plan, (st.about g).IsPlan l plan ∧
      st.FormHolds (J k.showAll) k node plan.form plan.isClosed plan.extra ∧
      ∀ x ∈ plan.parts.zipIdx, ∀ c ∈ x.1.constraints,
        J (k.hide node (st.edgesOfOthers node plan x.2)) node c :=
    exists_congr fun plan => and_congr_left' isPlan_about.symm
  rw [hholds]
  exact satisfiesExtending_meets
    (P := fun plan i c => J (k.hide node (st.edgesOfOthers node plan i)) node c)
    (@planOf_meets σ (st.about g) hv hco l)
    (fun plan hplan => matchAround_plan_yields hv hco hs hg hE (isPlan_about.1 hplan) hlike)
    (fun plan hplan p hp => hs.actions _ ((isPlan_about.1 hplan).has_main hhier hp))
    (fun plan m owners hplan hm howners x hx c hc =>
      hE _ _ node c
        ((isPlan_about.1 hplan).has_conjunct hhier (List.fst_mem_of_mem_zipIdx hx) hc)
        (hlike.hide hsettled hacc hhier hparents (isPlan_about.1 hplan) hx hc hm.1 hm.2 howners))
    (hs.actions _ hdeclared)

/-- What evaluation of a label that is not abstract finds out. -/
theorem satisfiesConcrete_yields (hlike : st.Alike g a k node (.label l)) {d : ShapeDecl}
    (hl : st.validator.schema.shape? l = some d) :
    Meets (fun r => (st.about g).KnowsMemo r.memo) ((st.about g).satisfiesConcrete E E a node l d)
      (fun v => v = .conforms ↔ st.ConcreteHolds J k node l d) fun _ => True := by
  have hentered := hlike.enter l
  rw [ConcreteHolds, ← hlike.isActive]
  exact satisfiesConcrete_meets
    (fun hparents => satisfiesExtending_yields hv hco hs hg hE hsettled hparents hentered
      (Schema.has_of_shape? hl))
    (hE _ _ node d.expr (Schema.has_of_shape? hl)
      (hentered.of_comesTo fun s hs => .declared hl hs))

/-- What evaluation of a label finds out: the declaration holds, or a subtype in place of an
abstract one, or the pair is active in both scopes. -/
theorem satisfiesLabel_yields (hlike : st.Alike g a k node (.label l)) :
    Meets (fun r => (st.about g).KnowsMemo r.memo) ((st.about g).satisfiesLabel E E a node l)
      (fun v => v = .conforms ↔ st.DeclarationHolds J k node l) fun _ => True := by
  have hsame : (st.about g).validator = st.validator := rfl
  cases hl : st.validator.schema.shape? l with
  | none =>
    rw [satisfiesLabel, hsame, hl]
    exact Meets.throw trivial
  | some d =>
    have hholds : st.DeclarationHolds J k node l ↔ if d.isAbstract then
        a.isActive node l = true ∨ ∃ x ∈ concreteSubtypes st.validator l,
          st.ConcreteHolds J (k.enter node l) node x.1 x.2
        else st.ConcreteHolds J k node l d := by
      simp [DeclarationHolds, hl, hlike.isActive]
    rw [hholds]
    refine @satisfiesLabel_meets_of σ (st.about g) _ _ _ _ _ _ l d hl _ _ (fun _ => ?_)
      fun habstract x hx => ?_
    · exact satisfiesConcrete_yields hv hco hs hg hE hsettled hlike hl
    · exact satisfiesConcrete_yields hv hco hs hg hE hsettled
        ((hlike.enter l).of_comesTo fun s hs => .subtype hl habstract hx hs)
        (of_mem_concreteSubtypes hx).1

end

section
variable (hv : st.validator.IsBuilt)
  (hco : st.validator.schema.IsCoherent) (hs : st.validator.schema.IsActionless)
  (hsettled : st.IsSettled) (hg : g.IsReordering st.graph)
include hv hco hs hsettled hg

/-- Evaluation finds out the verdicts that are said without an order, by induction on the depth,
over all pairs of scopes that are alike for what is evaluated. -/
theorem satisfies_yields (depth : Nat) :
    st.Yields g (st.verdicts depth) ((st.about g).satisfies depth) := by
  induction depth with
  | zero =>
    intro a k node e _ _
    rw [satisfies]
    exact Meets.throw trivial
  | succ depth ih =>
    intro a k node e he hlike
    rw [satisfies, verdicts]
    refine judgeActions_meets (evaluate_meets_holdsBy ?_ ?_ ?_ ?_) (hs.actions e he)
    · rintro m es (rfl | rfl) x hx
      · exact ih a k node x (he.of_and hx) (hlike.of_comesTo fun s hs => .and hx hs)
      · exact ih a k node x (he.of_or hx) (hlike.of_comesTo fun s hs => .or hx hs)
    · rintro m x rfl
      exact ih a k node x he.of_not (hlike.of_comesTo fun s hs => .not hs)
    · rintro m l rfl
      exact satisfiesLabel_yields hv hco hs hg ih hsettled (hlike.of_comesTo fun s hs => .ref hs)
    · rintro m h t rfl
      exact satisfiesShape_yields hv hco hs hg ih he hlike

/-- The check of a pair finds out what is said of the pair without an order. It begins with the
outermost scope on both sides. -/
theorem checkSelected_yields (node : Term) (selector : Selector) :
    Meets (fun r => (st.about g).KnowsMemo r.memo) ((st.about g).checkSelected node selector)
      (fun v => v = .conforms ↔ st.PairHolds (node, selector)) fun _ => True := by
  have hE := satisfies_yields hv hco hs hsettled hg st.limits.depth
  cases selector with
  | label l =>
    exact satisfiesLabel_yields hv hco hs hg hE hsettled
      (alike_of_hidden_eq_nil hg rfl rfl rfl node (.label l))
  | start =>
    have hsame : (st.about g).validator = st.validator := rfl
    rw [checkSelected, PairHolds, hsame]
    cases hstart : st.validator.schema.start with
    | none => exact Meets.throw trivial
    | some e =>
      simp only [Option.some.injEq, exists_eq_left']
      exact hE _ _ node e (Schema.has_of_start hstart)
        (alike_of_hidden_eq_nil hg rfl rfl rfl node (.expr e))

/-- Every pair gets the record of its single check, by induction on the pairs: what is remembered
stays right, and nothing else is handed on from pair to pair. -/
theorem checkAll_yields (pairs : List (Term × Selector)) :
    Meets (fun r => (st.about g).KnowsMemo r.memo) ((st.about g).checkAll true pairs)
      (List.Forall₂ st.Records pairs) fun _ => True := by
  induction pairs with
  | nil => exact Meets.pure .nil
  | cons pair rest ih =>
    rw [checkAll, check, if_pos rfl]
    refine (checkSelected_yields hv hco hs hsettled hg pair.1 pair.2).bind fun v hv' => ?_
    refine ih.bind fun es hes => Meets.pure (.cons ?_ hes)
    cases v with
    | conforms => exact ⟨rfl, rfl, iff_of_true rfl (hv'.1 rfl)⟩
    | fails reasons =>
      exact ⟨rfl, rfl, iff_of_false (fun h => by cases h) fun h => by cases hv'.2 h⟩

/-- A run finds out what is said of the pairs without an order. -/
theorem run_yields (pairs : List (Term × Selector)) :
    Meets (fun r => (st.about g).KnowsMemo r.memo) ((st.about g).run pairs)
      (fun report => List.Forall₂ st.Records pairs report.entries) fun _ => True := by
  unfold run
  split
  · exact Meets.throw trivial
  · have hstart : (st.about g).validator.schema.startActions = [] := hs.startActions
    rw [hstart]
    refine runActions_nil_meets.bind fun started hstarted => ?_
    subst hstarted
    exact (checkAll_yields hv hco hs hsettled hg pairs).bind fun es hes => Meets.pure hes

end

/-- In a settled schema without semantic actions, two runs about graphs that show the same triples
in different orders give entries with the same statuses, if they give reports. -/
theorem validate_reordered (hv : st.validator.IsBuilt)
    (hco : st.validator.schema.IsCoherent) (hs : st.validator.schema.IsActionless)
    (hsettled : st.IsSettled) (hg : g.IsReordering st.graph) {pairs : List (Term × Selector)}
    {memo memo' : Memo} (hmemo : st.validator.Remembers memo)
    (hmemo' : st.validator.Remembers memo') {world world' : σ} {report report' : Report}
    (h : (st.validator.validate st.limits st.handlers st.graph pairs memo world).1 = .ok report)
    (h' : (st.validator.validate st.limits st.handlers g pairs memo' world').1 = .ok report') :
    List.Forall₂ (fun e e' => e.node = e'.node ∧ e.shape = e'.shape ∧ e.status = e'.status)
      report.entries report'.entries := by
  have hyields : ∀ {graph : GraphView}, graph.IsReordering st.graph → ∀ {m : Memo},
      st.validator.Remembers m → ∀ {w : σ} {r : Report},
      (st.validator.validate st.limits st.handlers graph pairs m w).1 = .ok r →
        List.Forall₂ st.Records pairs r.entries := by
    intro graph hgraph m hm w r hr
    have hrun := (run_yields hv hco hs hsettled hgraph pairs ⟨m, 0, w⟩
      (@knowsMemo_of_remembers σ (st.about graph) hv hco m hm)).2
    change (((st.about graph).run pairs).run.run ⟨m, 0, w⟩).1 = .ok r at hr
    rwa [hr] at hrun
  exact forall₂_same_of_records (hyields (.refl _) hmemo h) (hyields hg hmemo' h')

end Setting

/-! ### Examples -/

/-- `q V` for a value expression `V`, or `q .` -/
def alongQ (id : Nat) (value : Option ShapeExpr) : TripleExpr :=
  .constraint (.written ⟨⟨id⟩, []⟩) ⟨⟨"q"⟩, false⟩ value

/-- `<Base> { p . } AND { B }` with `<Child> EXTENDS @<Base> EXTRA extra { T }` -/
def besideSchema (beside : TripleExpr) (extra : List Iri) (own : TripleExpr) : Schema :=
  (Schema.empty.addShape (.iri ⟨"Base"⟩) ⟨false, .and ⟨⟨0⟩, []⟩
    [single 1 "p" none, .shape ⟨⟨3⟩, []⟩ .plain (some beside)]⟩).addShape
    (.iri ⟨"Child"⟩) ⟨false, .shape ⟨⟨4⟩, []⟩ ⟨false, extra, [.iri ⟨"Base"⟩]⟩ (some own)⟩

/-- The check of `n` against `<Child>` and `<Base>`. -/
def checkBeside (s : Schema) (ts : List Triple) : Except ValidationFault Report × Memo × Unit :=
  (settingOf s []).validator.validate .standard .empty (Graph.ofList ts).view
    [(.resource (.iri ⟨"n"⟩), .label (.iri ⟨"Child"⟩)),
      (.resource (.iri ⟨"n"⟩), .label (.iri ⟨"Base"⟩))] .empty ()

/-- The statuses in the report, if there is one. -/
def statusesBeside (s : Schema) (ts : List Triple) : Option (List Status) :=
  (checkBeside s ts).1.toOption.map fun report => report.entries.map Entry.status

/-- The statuses of an example are those of a report. -/
theorem exists_report_of_statusesBeside {s : Schema} {ts : List Triple} {statuses : List Status}
    (h : statusesBeside s ts = some statuses) :
    ∃ report, (checkBeside s ts).1 = .ok report ∧ report.entries.map Entry.status = statuses := by
  unfold statusesBeside at h
  cases hreport : (checkBeside s ts).1 with
  | error fault =>
    rw [hreport] at h
    cases h
  | ok report =>
    rw [hreport] at h
    exact ⟨report, rfl, Option.some.inj h⟩

/-- `q . +` -/
def someAlongQ : TripleExpr := .repeated (.written ⟨⟨7⟩, []⟩) (alongQ 8 none) .plus

/-- `q . {0}` -/
def noneAlongQ : TripleExpr := .repeated (.written ⟨⟨5⟩, []⟩) (alongQ 6 none) .zero

/-- `<Base> { p . } AND { q . {0} }` with `<Child> EXTENDS @<Base> { q . + }` -/
def settledSchema : Schema := besideSchema noneAlongQ [] someAlongQ

/-- The parts of `<Child>`. -/
def settledParts : List Part :=
  [⟨.iri ⟨"Child"⟩, .shape ⟨⟨4⟩, []⟩ ⟨false, [], [.iri ⟨"Base"⟩]⟩ (some someAlongQ),
      ⟨⟨false, [], [.iri ⟨"Base"⟩]⟩, some someAlongQ⟩, [], [⟨8⟩]⟩,
    ⟨.iri ⟨"Base"⟩, single 1 "p" none, ⟨.plain,
      some (.constraint (.written ⟨⟨2⟩, []⟩) ⟨⟨"p"⟩, false⟩ none)⟩,
      [.shape ⟨⟨3⟩, []⟩ .plain (some noneAlongQ)], [⟨2⟩]⟩]

/-- All triples along `q` belong to `<Child>`. No other part has a constraint with that arc, so no
assignment can give them away. -/
theorem settledSchema_isSettled (ts : List Triple) : (settingOf settledSchema ts).IsSettled := by
  intro l plan hparents hplan x hx c hc a hlook
  obtain rfl : l = .iri ⟨"Child"⟩ := eq_of_isSome_lookup (β := List Label) hparents
  obtain ⟨parts, form⟩ := plan
  have hparts : Except.ok settledParts = (Except.ok parts : Except ValidationFault (List Part)) :=
    hplan.parts
  cases hparts
  obtain ⟨hacc, hhier⟩ := (⟨rfl, rfl⟩ : (settingOf settledSchema ts).validator.IsBuilt)
  have hx : x.2 = 1 ∧ c = .shape ⟨⟨3⟩, []⟩ .plain (some noneAlongQ) := by
    simp only [settledParts, List.zipIdx_cons, List.zipIdx_nil, List.mem_cons, List.not_mem_nil,
      or_false] at hx
    rcases hx with rfl | rfl
    · cases hc
    · exact ⟨rfl, List.mem_singleton.1 hc⟩
  obtain ⟨hx, rfl⟩ := hx
  obtain rfl : a = ⟨⟨"q"⟩, false⟩ := by
    obtain ⟨s, ⟨⟩, hclosed | ⟨t, via, m, v, ht, hin⟩⟩ := hlook
    · exact absurd hclosed.1 (by decide)
    · cases ht
      exact (Schema.inside_constraint_constraint.1 (Schema.inside_repeated_constraint.1 hin)).2.2.1
  refine .inr ⟨List.not_mem_nil, fun tc htc harc => ?_⟩
  obtain ⟨e, he, via, m, hin, hm⟩ :=
    hplan.form.inside hacc (fun e he => hplan.has_expression hhier he) htc
  have he : e = someAlongQ ∨ e = .constraint (.written ⟨⟨2⟩, []⟩) ⟨⟨"p"⟩, false⟩ none := by
    simpa [settledParts, Plan.expressions] using he
  rcases he with rfl | rfl
  · obtain ⟨-, rfl, -, -⟩ :=
      Schema.inside_constraint_constraint.1 (Schema.inside_repeated_constraint.1 hin)
    rw [Plan.ownerOf, ← hm, hx]
    change settledParts.findIdx? (fun part => part.owned.contains ⟨8⟩) ≠ some 1
    decide
  · obtain ⟨-, -, hp, -⟩ := Schema.inside_constraint_constraint.1 hin
    exact absurd (harc.symm.trans hp) (by decide)

/-- The node conforms to `<Child>` and not to `<Base>`, whichever of its triples comes first. Two of
them go along `q`, so the assignments that are found differ. -/
theorem settled_reordered :
    ∃ report report',
      (checkBeside settledSchema [link "n" "p" "n", link "n" "q" "a", link "n" "q" "b"]).1 =
        .ok report ∧
      (checkBeside settledSchema [link "n" "q" "b", link "n" "q" "a", link "n" "p" "n"]).1 =
        .ok report' ∧
      report.entries.map Entry.status = [.conformant, .nonconformant] ∧
      List.Forall₂ (fun e e' => e.node = e'.node ∧ e.shape = e'.shape ∧ e.status = e'.status)
        report.entries report'.entries := by
  let ts := [link "n" "p" "n", link "n" "q" "a", link "n" "q" "b"]
  let ts' := [link "n" "q" "b", link "n" "q" "a", link "n" "p" "n"]
  have hgraph : (Graph.ofList ts').view.IsReordering (Graph.ofList ts).view :=
    Graph.isReordering_view (by decide)
  obtain ⟨report, h, hstatus⟩ := @exists_report_of_statusesBeside settledSchema ts
    [.conformant, .nonconformant] (by decide +kernel)
  obtain ⟨report', h', -⟩ := @exists_report_of_statusesBeside settledSchema ts'
    [.conformant, .nonconformant] (by decide +kernel)
  refine ⟨report, report', h, h', hstatus, ?_⟩
  exact @Setting.validate_reordered Unit (settingOf settledSchema ts) _ ⟨rfl, rfl⟩
    (Schema.isCoherent_of_nodup (by decide) (by decide))
    (Schema.isActionless_of_annotate (by decide) (by decide) rfl) (settledSchema_isSettled ts)
    hgraph _ _ _ .nothing .nothing _ _ _ _ h h'

/-- `<Base> { p . } AND { q [a] }` with `<Child> EXTENDS @<Base> EXTRA q { q . }` -/
def unsettledSchema : Schema :=
  besideSchema (alongQ 5 (some (.nodeConstraint ⟨⟨6⟩, []⟩
    ⟨none, none, [], [], [.term (.resource (.iri ⟨"a"⟩))]⟩))) [⟨"q"⟩] (alongQ 7 none)

/-- Of the triples `n q a` and `n q b` the first is matched with `<Child>`, and the other is left
out and seen by what `<Base>` says beside its main shape. So the order of the two decides whether
the node conforms to `<Child>`. -/
theorem order_matters :
    (Validator.ofSchema unsettledSchema = .ok (settingOf unsettledSchema []).validator ∧
      unsettledSchema.IsCoherent ∧ unsettledSchema.IsActionless) ∧
    (Graph.ofList [link "n" "p" "n", link "n" "q" "b", link "n" "q" "a"]).view.IsReordering
      (Graph.ofList [link "n" "p" "n", link "n" "q" "a", link "n" "q" "b"]).view ∧
    statusesBeside unsettledSchema [link "n" "p" "n", link "n" "q" "a", link "n" "q" "b"] =
      some [.nonconformant, .nonconformant] ∧
    statusesBeside unsettledSchema [link "n" "p" "n", link "n" "q" "b", link "n" "q" "a"] =
      some [.conformant, .nonconformant] :=
  ⟨⟨rfl, Schema.isCoherent_of_nodup (by decide) (by decide),
    Schema.isActionless_of_annotate (by decide) (by decide) rfl⟩,
    Graph.isReordering_view (by decide), by decide +kernel, by decide +kernel⟩

end Shex
