import Shex.Proofs.Extending
import Shex.Proofs.Isolation

/-!
# Single checks are consistent with each other

A check assumes the pairs that are active, so a pair may have been found to conform with the help of
an assumption about another one. `Setting.recheck` is the check of a pair in which references in
value expressions are not followed, but answered by what single checks found. In a discreet schema
without negations and semantic actions, a pair that conforms is not rejected when it is checked
again in this way (`Setting.conforms_consistent`). Without discretion it may be: a pair that is met
with edges hidden is then assumed where they are not.
-/

namespace Shex

open Run

namespace Setting

variable {σ : Type} (st : Setting σ)

/-- Whether the single check of a pair finds that the node conforms. -/
def accepts (world : σ) (n : Term) (l : Label) : Bool :=
  match (st.validator.validate st.limits st.handlers st.graph [(n, .label l)] .empty world).1 with
  | .ok report => report.conforms
  | .error _ => false

/-- Evaluation of value expressions where references are answered, and not followed. -/
def answering (answers : Term → Label → Bool) : Nat → Evaluator σ
  | 0, _, _, _ => throw (.limit (.depth st.limits.depth))
  | depth + 1, scope, node, e =>
    match e with
    | .ref _ l => return if answers node l then .conforms else .fails []
    | _ => do
      match ← st.evaluate (answering answers depth) (answering answers depth) scope node e with
      | .error reasons => return .fails reasons
      | .ok triples => st.judgeActions scope node e.actions triples

/-- Evaluation where only the references in value expressions are answered. -/
def relying (answers : Term → Label → Bool) : Nat → Evaluator σ
  | 0, _, _, _ => throw (.limit (.depth st.limits.depth))
  | depth + 1, scope, node, e => do
    match ← st.evaluate (st.answering answers depth) (relying answers depth) scope node e with
    | .error reasons => return .fails reasons
    | .ok triples => st.judgeActions scope node e.actions triples

/-- The check of a pair where the references in value expressions are answered. -/
def recheck (answers : Term → Label → Bool) (n : Term) (l : Label) : Run σ Verdict :=
  st.satisfiesLabel (st.answering answers st.limits.depth) (st.relying answers st.limits.depth)
    .outermost n l

variable {st} {world : σ} {n : Term} {l : Label}

/-- The verdict of a single check, as a Boolean and as a proposition. -/
theorem accepts_iff : st.accepts world n l = true ↔ st.Conforms world n l := by
  rw [accepts, Conforms]
  split
  · rename_i report hreport
    simp [hreport]
  · rename_i fault hfault
    simp [hfault]

section
variable (hv : st.validator.IsBuilt)
  (hco : st.validator.schema.IsCoherent) (hs : st.validator.schema.IsPositive)
  {answers : Term → Label → Bool} {G : Set (Term × Subject)} (hG : st.rules G = G)
  (hanswers : ∀ n l, answers n l = true ↔ (n, .label l) ∈ G)
include hv hco hs hG hanswers

/-- Where references are answered by a fixpoint of the rules, evaluation decides what is in it. No
reference is followed, so the induction on the depth meets no active pair. -/
theorem answering_decides (depth : Nat) :
    st.Decides (fun _ => exprsOf G) (st.answering answers depth) := by
  induction depth with
  | zero =>
    intro scope node e _ _
    rw [answering]
    exact Meets.throw trivial
  | succ depth ih =>
    intro scope node e he hspares
    have hrule : exprsOf G node e ↔ st.Holds (exprsOf G) (exprsOf G) (labelsOf G) node e := by
      conv_lhs => rw [exprsOf, ← hG]
      exact follows_expr
    simp only [hrule]
    unfold answering
    split
    · rename_i m l
      refine Meets.pure ?_
      rw [Holds, labelsOf, ← hanswers]
      cases answers node l <;> simp
    · rename_i hno
      exact judgeActions_meets (evaluate_decides hv hco hs ih ih he hspares
        fun m l href => absurd href (hno m l)) (hs.actions e he)

/-- Where references in value expressions are answered by a fixpoint of the rules, evaluation
decides what is in the greatest fixpoint for these answers. -/
theorem relying_decides (hd : st.IsDiscreet) (depth : Nat) :
    st.Decides (fun active => exprsOf (assuming (st.rulesWith (exprsOf G)) (pairs active)))
      (st.relying answers depth) := by
  induction depth with
  | zero =>
    intro scope node e _ _
    rw [relying]
    exact Meets.throw trivial
  | succ depth ih =>
    intro scope node e he hspares
    have hvalues := answering_decides hv hco hs hG hanswers depth
    simp only [exprsOf, expr_mem_assuming_iff]
    rw [relying]
    refine judgeActions_meets (evaluate_decides hv hco hs hvalues ih he hspares fun m l href => ?_)
      (hs.actions e he)
    subst href
    exact satisfiesLabel_decides
      (L := fun active => labelsOf (assuming (st.rulesWith (exprsOf G)) (pairs active)))
      hv hco hs hvalues hd ih (fun _ _ _ => label_mem_assuming_iff)
      (hspares.of_comesTo fun s hs => .ref hs)

/-- A pair of a fixpoint of the rules is not rejected when references in value expressions are
answered by the fixpoint. -/
theorem recheck_meets (hd : st.IsDiscreet) (h : (n, .label l) ∈ G) :
    Meets (fun r => st.KnowsMemo r.memo) (st.recheck answers n l) (fun v => v = .conforms)
      fun _ => True := by
  refine (satisfiesLabel_decides
    (L := fun active => labelsOf (assuming (st.rulesWith (exprsOf G)) (pairs active)))
    hv hco hs (answering_decides hv hco hs hG hanswers _) hd
    (relying_decides hv hco hs hG hanswers hd _) (fun _ _ _ => label_mem_assuming_iff)
    (spares_of_hidden_eq_nil rfl _)).imp fun v hv' => hv'.2 ?_
  refine subset_assuming _ ?_ h
  exact fun p hp => .inr (hG.ge hp)

end

/-- In a discreet schema without negations and semantic actions, the pairs whose single check
conforms are the greatest fixpoint of the rules, and none of them is rejected when references in
value expressions are answered by the verdicts of the single checks. -/
theorem conforms_consistent (hv : st.validator.IsBuilt)
    (hco : st.validator.schema.IsCoherent) (hs : st.validator.schema.IsPositive)
    (hd : st.IsDiscreet) (world : σ) (hrun : st.Completes world) :
    (∀ n l, st.Conforms world n l ↔ (n, .label l) ∈ st.rules.gfp) ∧
    ∀ n l, st.Conforms world n l → ∀ verdict s,
      (st.recheck (st.accepts world) n l).run.run ⟨.empty, 0, world⟩ = (.ok verdict, s) →
      verdict = .conforms := by
  have hrules := fun n l => @conforms_iff_mem_rules _ st hv hco hs hd world hrun n l
  refine ⟨hrules, fun n l h verdict s hrecheck => ?_⟩
  have hmeets := recheck_meets hv hco hs st.rules.map_gfp
    (fun n l => accepts_iff.trans (hrules n l)) hd ((hrules n l).1 h)
  exact (hmeets.ok knowsMemo_empty hrecheck).2

end Setting

/-! ### Examples -/

/-- `{ p V }` for a value expression `V`, or `{ p . }` -/
def single (id : Nat) (p : String) (value : Option ShapeExpr) : ShapeExpr :=
  .shape ⟨⟨id⟩, []⟩ .plain (some (.constraint (.written ⟨⟨id + 1⟩, []⟩) ⟨⟨p⟩, false⟩ value))

/-- `EXTENDS @<Base> { q . }` -/
def extendingBase (id : Nat) : ShapeExpr :=
  .shape ⟨⟨id⟩, []⟩ ⟨false, [], [.iri ⟨"Base"⟩]⟩
    (some (.constraint (.written ⟨⟨id + 1⟩, []⟩) ⟨⟨"q"⟩, false⟩ none))

/-- `<Base> { p . } AND { r @<Child> }` with `<Child> EXTENDS @<Base> { q . }` -/
def childSchema : Schema :=
  (Schema.empty.addShape (.iri ⟨"Base"⟩) ⟨false, .and ⟨⟨0⟩, []⟩
    [single 1 "p" none, single 3 "r" (some (.ref ⟨⟨5⟩, []⟩ (.iri ⟨"Child"⟩)))]⟩).addShape
    (.iri ⟨"Child"⟩) ⟨false, extendingBase 6⟩

/-- A run about `n p n`, `n q n` and `n r n`. -/
def childSetting : Setting Unit :=
  settingOf childSchema [link "n" "p" "n", link "n" "q" "n", link "n" "r" "n"]

/-- The parts of `<Child>`. -/
def childParts : List Part :=
  [⟨.iri ⟨"Child"⟩, extendingBase 6, ⟨⟨false, [], [.iri ⟨"Base"⟩]⟩,
      some (.constraint (.written ⟨⟨7⟩, []⟩) ⟨⟨"q"⟩, false⟩ none)⟩, [], [⟨7⟩]⟩,
    ⟨.iri ⟨"Base"⟩, single 1 "p" none, ⟨.plain,
      some (.constraint (.written ⟨⟨2⟩, []⟩) ⟨⟨"p"⟩, false⟩ none)⟩,
      [single 3 "r" (some (.ref ⟨⟨5⟩, []⟩ (.iri ⟨"Child"⟩)))], [⟨2⟩]⟩]

/-- In the example every identity is used once. -/
theorem childSchema_isCoherent : childSchema.IsCoherent :=
  Schema.isCoherent_of_nodup (by decide) (by decide)

/-- The example has no negation, no extra predicates and no actions. -/
theorem childSchema_isPositive : childSchema.IsPositive := by
  refine ⟨Schema.isActionless_of_annotate (by decide) (by decide) rfl, fun m x hx => ?_⟩
  have hall : childSchema.expressions.all (fun | .not _ _ => false | _ => true) = true := rfl
  exact absurd (List.all_eq_true.1 hall _ (Schema.has_iff_mem_expressions.1 hx)) nofun

/-- In a table with one key nothing else is found. -/
theorem eq_of_isSome_lookup {β : Type} {l l' : Label} {b : β}
    (h : (List.lookup l [(l', b)]).isSome = true) : l = l' := by
  by_contra hne
  rw [List.lookup_cons, beq_false_of_ne hne] at h
  cases h

/-- What `<Base>` says beside its main shape is not about `q`. The plan of `<Child>` has two parts,
and of the edges only that of `p` belongs to `<Base>`, so what is hidden from its conjunct does not
concern it. -/
theorem childSetting_isDiscreet : childSetting.IsDiscreet := by
  intro l plan hparents hplan x hx c hc tc htc i howner hi
  obtain rfl : l = .iri ⟨"Child"⟩ := eq_of_isSome_lookup (β := List Label) hparents
  obtain ⟨parts, form⟩ := plan
  have hparts : Except.ok childParts = (Except.ok parts : Except ValidationFault (List Part)) :=
    hplan.parts
  cases hparts
  obtain ⟨hacc, hhier⟩ := (⟨rfl, rfl⟩ : childSetting.validator.IsBuilt)
  obtain ⟨e, he, via, m, hin, hm⟩ :=
    hplan.form.inside hacc (fun e he => hplan.has_expression hhier he) htc
  -- Only `<Base>` says more than its main shape, so the constraint is that on `q`.
  have hx : x.2 = 1 ∧ c = single 3 "r" (some (.ref ⟨⟨5⟩, []⟩ (.iri ⟨"Child"⟩))) := by
    simp only [childParts, List.zipIdx_cons, List.zipIdx_nil, List.mem_cons, List.not_mem_nil,
      or_false] at hx
    rcases hx with rfl | rfl
    · cases hc
    · exact ⟨rfl, List.mem_singleton.1 hc⟩
  have he : e = .constraint (.written ⟨⟨7⟩, []⟩) ⟨⟨"q"⟩, false⟩ none ∨
      e = .constraint (.written ⟨⟨2⟩, []⟩) ⟨⟨"p"⟩, false⟩ none := by
    simpa [childParts, Plan.expressions] using he
  rcases he with rfl | rfl
  · obtain ⟨-, -, harc, -⟩ := Schema.inside_constraint_constraint.1 hin
    rw [harc, hx.2]
    rintro s ⟨⟩
    refine ⟨rfl, fun t via m c ht hin => ?_⟩
    cases ht
    obtain ⟨-, -, harc, -⟩ := Schema.inside_constraint_constraint.1 hin
    exact absurd harc (by decide)
  · obtain ⟨-, rfl, -, -⟩ := Schema.inside_constraint_constraint.1 hin
    rw [Plan.ownerOf, ← hm] at howner
    cases howner
    exact absurd hx.1.symm hi

/-- Every single check of the example comes to its end within the limits. -/
theorem childSetting_completes : childSetting.Completes () := by
  refine Setting.completes_of_nodes [.resource (.iri ⟨"n"⟩)] rfl (by decide) fun l hl => ?_
  change l ∈ [.iri ⟨"Base"⟩, .iri ⟨"Child"⟩] at hl
  simp only [List.mem_cons, List.not_mem_nil, or_false] at hl ⊢
  rcases hl with rfl | rfl <;> exact ⟨by rintro n rfl; exact ⟨_, rfl⟩, fun n => ⟨_, rfl⟩⟩

/-- The node conforms to `<Child>` by assuming so where `<Base>` refers to it, and is not rejected
when this reference is answered. -/
theorem child_consistent :
    (.resource (.iri ⟨"n"⟩), .label (.iri ⟨"Child"⟩)) ∈ childSetting.rules.gfp ∧
    ∀ verdict s, (childSetting.recheck (childSetting.accepts ()) (.resource (.iri ⟨"n"⟩))
      (.iri ⟨"Child"⟩)).run.run ⟨.empty, 0, ()⟩ = (.ok verdict, s) → verdict = .conforms := by
  obtain ⟨hrules, hrecheck⟩ := Setting.conforms_consistent ⟨rfl, rfl⟩ childSchema_isCoherent
    childSchema_isPositive childSetting_isDiscreet () childSetting_completes
  have hconforms : childSetting.Conforms () (.resource (.iri ⟨"n"⟩)) (.iri ⟨"Child"⟩) :=
    ⟨_, rfl, rfl⟩
  exact ⟨(hrules _ _).1 hconforms, hrecheck _ _ hconforms⟩

/-- `<Base> { p . } AND @<L>` with `<Child> EXTENDS @<Base> { q . }`, `<L> { q . {0,0} ; r @<M> }`
and `<M> { s @<L> }` -/
def hiddenSchema : Schema :=
  (((Schema.empty.addShape (.iri ⟨"Base"⟩) ⟨false, .and ⟨⟨0⟩, []⟩
    [single 1 "p" none, .ref ⟨⟨3⟩, []⟩ (.iri ⟨"L"⟩)]⟩).addShape
    (.iri ⟨"Child"⟩) ⟨false, extendingBase 4⟩).addShape
    (.iri ⟨"L"⟩) ⟨false, .shape ⟨⟨6⟩, []⟩ .plain (some (.eachOf (.written ⟨⟨7⟩, []⟩)
      [.repeated (.written ⟨⟨8⟩, []⟩)
        (.constraint (.written ⟨⟨9⟩, []⟩) ⟨⟨"q"⟩, false⟩ none) .zero,
      .constraint (.written ⟨⟨10⟩, []⟩) ⟨⟨"r"⟩, false⟩
        (some (.ref ⟨⟨11⟩, []⟩ (.iri ⟨"M"⟩)))]))⟩).addShape
    (.iri ⟨"M"⟩) ⟨false, single 12 "s" (some (.ref ⟨⟨14⟩, []⟩ (.iri ⟨"L"⟩)))⟩

/-- A run about `n p n`, `n q n`, `n r m` and `m s n`. -/
def hiddenSetting : Setting Unit :=
  settingOf hiddenSchema
    [link "n" "p" "n", link "n" "q" "n", link "n" "r" "m", link "m" "s" "n"]

/-- So has the other example. -/
theorem hiddenSchema_isPositive : hiddenSchema.IsPositive := by
  refine ⟨Schema.isActionless_of_annotate (by decide) (by decide) rfl, fun m x hx => ?_⟩
  have hall : hiddenSchema.expressions.all (fun | .not _ _ => false | _ => true) = true := rfl
  exact absurd (List.all_eq_true.1 hall _ (Schema.has_iff_mem_expressions.1 hx)) nofun

/-- So do the single checks of the other example. -/
theorem hiddenSetting_completes : hiddenSetting.Completes () := by
  refine Setting.completes_of_nodes [.resource (.iri ⟨"n"⟩), .resource (.iri ⟨"m"⟩)] rfl (by decide)
    fun l hl => ?_
  change l ∈ [.iri ⟨"Base"⟩, .iri ⟨"Child"⟩, .iri ⟨"L"⟩, .iri ⟨"M"⟩] at hl
  simp only [List.mem_cons, List.not_mem_nil, or_false] at hl ⊢
  rcases hl with rfl | rfl | rfl | rfl <;>
    exact ⟨by rintro n (rfl | rfl) <;> exact ⟨_, rfl⟩, fun n => ⟨_, rfl⟩⟩

set_option maxRecDepth 4000 in
/-- The node `n` conforms to `<Child>` because `m` is found to conform to `<M>` while the triple `n
q n` is hidden from `n`. On its own `m` does not conform, and then `n` is rejected. -/
theorem hidden_pair_assumed :
    (Validator.ofSchema hiddenSchema = .ok hiddenSetting.validator ∧ hiddenSchema.IsCoherent ∧
      hiddenSchema.IsPositive ∧ hiddenSetting.Completes ()) ∧
    hiddenSetting.Conforms () (.resource (.iri ⟨"n"⟩)) (.iri ⟨"Child"⟩) ∧
    ¬ hiddenSetting.Conforms () (.resource (.iri ⟨"m"⟩)) (.iri ⟨"M"⟩) ∧
    ∃ reasons s, (hiddenSetting.recheck (hiddenSetting.accepts ()) (.resource (.iri ⟨"n"⟩))
      (.iri ⟨"Child"⟩)).run.run ⟨.empty, 0, ()⟩ = (.ok (.fails reasons), s) := by
  refine ⟨⟨rfl, Schema.isCoherent_of_nodup (by decide) (by decide), hiddenSchema_isPositive,
    hiddenSetting_completes⟩, ⟨_, rfl, rfl⟩, ?_, ⟨_, _, rfl⟩⟩
  rw [← Setting.accepts_iff]
  exact Bool.eq_false_iff.1 rfl

end Shex
