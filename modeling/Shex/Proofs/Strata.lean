import Shex.Proofs.Checks
import Shex.Proofs.Extension
import Shex.Proofs.Isolation
import Shex.Proofs.Reduction
import Shex.Proofs.Rules

/-!
# Recursive shapes get their greatest fixpoint

Labels that depend on each other form a component. In a schema without extension, semantic actions
and mixed signs (`Schema.IsSimple`), the pairs of a node and a label whose single check conforms are
a fixpoint of the rules, and on every component they are the greatest one, where the labels outside
are read from the pairs themselves (`Setting.conforms_stratified`).

A check assumes the pairs that are active. The invariant is that it decides membership in the
greatest fixpoint in which the active pairs of the component are taken for granted
(`Setting.Answers`); the rest of the active pairs do not matter, since no label that is evaluated
leads back to them.
-/

namespace Shex

open Relation Run

namespace Schema

/-- Two labels depend on each other, through others perhaps, or are the same. -/
def Connected (s : Schema) (l l' : Label) : Prop :=
  ReflTransGen s.DependsOn l l' ∧ ReflTransGen s.DependsOn l' l

/-- Neither extension nor semantic actions are used, no labelled triple expression reaches itself,
and no declaration has both negations and extra predicates. -/
structure IsSimple (s : Schema) : Prop extends s.IsActionless where
  concrete : ∀ l d, s.shape? l = some d → d.isAbstract = false
  parents : ∀ m h t, s.Has (.shape m h t) → h.parents = []
  reentry : s.NeverReenters
  signs : ∀ l d, s.shape? l = some d →
    (∀ m x, ¬ s.Within d.expr (.not m x)) ∨ ∀ m h t, s.Within d.expr (.shape m h t) → h.extra = []

variable {s : Schema} {R : Readers} {l l' l'' : Label}

/-- A label is connected to itself. -/
theorem Connected.refl (l : Label) : s.Connected l l := ⟨.refl, .refl⟩

/-- Both directions are asked for. -/
theorem Connected.symm (h : s.Connected l l') : s.Connected l' l := ⟨h.2, h.1⟩

/-- Connected labels form a component. -/
theorem Connected.trans (h : s.Connected l l') (h' : s.Connected l' l'') : s.Connected l l'' :=
  ⟨h.1.trans h'.1, h'.2.trans h.2⟩

/-- Connected labels are connected to the same labels. -/
theorem Connected.iff (h : s.Connected l l') : s.Connected l l'' ↔ s.Connected l' l'' :=
  ⟨h.symm.trans, h.trans⟩

/-- In a declaration, no reference to a connected label is negative. -/
theorem IsSimple.not_uses_negative (hs : s.IsSimple) (hacc : s.analyze R = .ok ()) {d : ShapeDecl}
    (hd : s.shape? l = some d) (hconn : s.Connected l l') : ¬ s.Uses d.expr .negative l' := by
  intro huse
  rcases hs.signs l d hd with hnot | hextra
  · exact absurd (huse.eq_positive hnot) nofun
  · exact (isStratified_of_analyze hacc).not_reflTransGen
      (huse.dependsNegatively hs.reentry hd hextra) hconn.2

/-- A label leads to another one and not back. -/
def Above (s : Schema) (l l' : Label) : Prop :=
  ReflTransGen s.DependsOn l l' ∧ ¬ ReflTransGen s.DependsOn l' l

/-- Going down from component to component comes to an end, since a schema declares finitely many
labels. The induction over components goes along this relation. -/
theorem wellFounded_above (s : Schema) : WellFounded (flip s.Above) := by
  refine wellFounded_of_acyclic (U := s.shapes.keys) (fun l l' h => ?_) fun l hl => ?_
  · rcases ReflTransGen.cases_head h.1 with rfl | ⟨l₁, ⟨d, hd, -⟩, -⟩
    · exact absurd .refl h.2
    · exact List.mem_map.2 ⟨(l, d), (Table.get?_eq_some_iff _).1 hd, rfl⟩
  · have habove : ∀ {a b}, TransGen s.Above a b → s.Above a b := by
      intro a b hab
      induction hab with
      | single h => exact h
      | tail _ hbc ih => exact ⟨ih.1.trans hbc.1, fun hback => ih.2 (hbc.1.trans hback)⟩
    exact (habove hl).2 .refl

end Schema

namespace Setting

variable {σ : Type} (st : Setting σ)

/-- The declaration of a label holds at a node by the rules, where `A` answers references. -/
def Concludes (A : Term → Label → Prop) (n : Term) (l : Label) : Prop :=
  ∃ d W, st.validator.schema.shape? l = some d ∧ st.Obeys A W ∧ W n d.expr

/-- References to labels that are connected to `l` are answered by `X`, and all others by `C`. -/
def mixed (C : Term → Label → Prop) (l : Label) (X : Set (Term × Label)) (n : Term) (l' : Label) :
    Prop :=
  (st.validator.schema.Connected l l' ∧ (n, l') ∈ X) ∨
    (¬ st.validator.schema.Connected l l' ∧ C n l')

variable {st} {C : Term → Label → Prop} {l l' : Label} {X Y : Set (Term × Label)}

/-- Labels of the component are answered by the set of pairs. -/
theorem mixed_of_connected (h : st.validator.schema.Connected l l') {n : Term} :
    st.mixed C l X n l' ↔ (n, l') ∈ X := by
  simp [mixed, h]

/-- Labels outside the component are answered by the pairs that conform. -/
theorem mixed_of_not_connected (h : ¬ st.validator.schema.Connected l l') {n : Term} :
    st.mixed C l X n l' ↔ C n l' := by
  simp [mixed, h]

/-- A set of pairs that agrees with `C` on the component answers like `C`. -/
theorem mixed_eq
    (h : ∀ n l', st.validator.schema.Connected l l' → ((n, l') ∈ X ↔ C n l')) :
    st.mixed C l X = C := by
  funext n l'
  refine propext ?_
  by_cases hconn : st.validator.schema.Connected l l'
  · rw [mixed_of_connected hconn, h n l' hconn]
  · rw [mixed_of_not_connected hconn]

/-- More pairs of a component make more declarations of the component hold. Labels of the component
are used positively only, and the others are read from `C` in any case. -/
theorem Concludes.mono (hacc : st.validator.IsAccepted)
    (hs : st.validator.schema.IsSimple) (hXY : X ⊆ Y) (hl' : st.validator.schema.Connected l l')
    {n : Term} (h : st.Concludes (st.mixed C l X) n l') : st.Concludes (st.mixed C l Y) n l' := by
  obtain ⟨d, W, hd, hW, hWn⟩ := h
  have hparts := Schema.wellFounded_hasPart hs.reentry
  refine ⟨d, _, hd, obeys_valuation hacc hparts, ?_⟩
  refine hW.mono hacc hparts (obeys_valuation hacc hparts) (Schema.has_of_shape? hd) ?_ ?_ hWn
  · intro l'' _ m hm
    by_cases hconn : st.validator.schema.Connected l l''
    · rw [mixed_of_connected hconn] at hm ⊢
      exact hXY hm
    · rwa [mixed_of_not_connected hconn] at hm ⊢
  · intro l'' huse m hm
    by_cases hconn : st.validator.schema.Connected l l''
    · exact absurd huse (hs.not_uses_negative hacc hd (hl'.symm.trans hconn))
    · rwa [mixed_of_not_connected hconn] at hm ⊢

/-- The pairs of the component of `l` that follow from pairs of it. -/
def component (hacc : st.validator.IsAccepted) (hs : st.validator.schema.IsSimple)
    (C : Term → Label → Prop) (l : Label) : Set (Term × Label) →o Set (Term × Label) where
  toFun X := {p | st.validator.schema.Connected l p.2 ∧ st.Concludes (st.mixed C l X) p.1 p.2}
  monotone' _ _ hXY _ hp := ⟨hp.1, hp.2.mono hacc hs hXY hp.1⟩

/-- A pair is in the greatest fixpoint of its component in which the active pairs of the component
are taken for granted. -/
def Answers (hacc : st.validator.IsAccepted) (hs : st.validator.schema.IsSimple)
    (C : Term → Label → Prop) (active : List (Term × Label)) (n : Term) (l : Label) : Prop :=
  (n, l) ∈ assuming (component hacc hs C l) {p | p ∈ active ∧ st.validator.schema.Connected l p.2}

section
variable {hacc : st.validator.IsAccepted} {hs : st.validator.schema.IsSimple}
  {active active' : List (Term × Label)} {n : Term}

/-- Connected labels have the same component. -/
theorem answers_iff_of_connected (h : st.validator.schema.Connected l l') :
    Answers hacc hs C active n l' ↔ (n, l') ∈ assuming (component hacc hs C l)
      {p | p ∈ active ∧ st.validator.schema.Connected l p.2} := by
  have hconn : st.validator.schema.Connected l = st.validator.schema.Connected l' :=
    funext fun l'' => propext h.iff
  rw [Answers]
  unfold component mixed
  simp only [hconn]

/-- An active pair is taken for granted. -/
theorem answers_of_mem (h : (n, l) ∈ active) : Answers hacc hs C active n l := by
  rw [Answers, assuming_eq]
  exact .inl ⟨h, .refl l⟩

/-- Active pairs of other components do not matter. -/
theorem answers_congr
    (h : ∀ p, st.validator.schema.Connected l p.2 → (p ∈ active ↔ p ∈ active')) :
    Answers hacc hs C active n l ↔ Answers hacc hs C active' n l := by
  have : {p | p ∈ active ∧ st.validator.schema.Connected l p.2} =
      {p | p ∈ active' ∧ st.validator.schema.Connected l p.2} :=
    Set.ext fun p => and_congr_left fun hconn => h p hconn
  rw [Answers, Answers, this]

/-- A pair that is not active is answered by its declaration, once it is active. This is the step
from the greatest fixpoint above the active pairs to the one above one more of them. -/
theorem answers_iff (h : (n, l) ∉ active) :
    Answers hacc hs C active n l ↔ st.Concludes
      (st.mixed C l (assuming (component hacc hs C l)
        {p | p ∈ (n, l) :: active ∧ st.validator.schema.Connected l p.2})) n l := by
  have hinsert : insert (n, l) {p | p ∈ active ∧ st.validator.schema.Connected l p.2} =
      {p | p ∈ (n, l) :: active ∧ st.validator.schema.Connected l p.2} := by
    ext p
    simp only [Set.mem_insert_iff, Set.mem_ofPred_eq, List.mem_cons]
    constructor
    · rintro (rfl | ⟨hp, hconn⟩)
      · exact ⟨.inl rfl, .refl l⟩
      · exact ⟨.inr hp, hconn⟩
    · rintro ⟨rfl | hp, hconn⟩
      · exact .inl rfl
      · exact .inr ⟨hp, hconn⟩
  rw [Answers, mem_assuming_iff, hinsert]
  constructor
  · rintro (h' | h')
    · exact absurd h'.1 h
    · exact h'.2
  · exact fun h' => .inr ⟨.refl l, h'⟩

end

/-! ### What a check finds out -/

section
variable (hacc : st.validator.IsAccepted) (hs : st.validator.schema.IsSimple)
  (C : Term → Label → Prop)

/-- The pairs of `C` for labels below `l` are those of the greatest fixpoints. -/
def Settled (l : Label) : Prop :=
  ∀ l', st.validator.schema.Above l l' → ∀ n, C n l' ↔ Answers hacc hs C [] n l'

/-- A label can be evaluated: all active labels lead to it, and what is below is settled. -/
structure IsReady (active : List (Term × Label)) (l : Label) : Prop where
  active : ∀ p ∈ active, ReflTransGen st.validator.schema.DependsOn p.2 l
  below : Settled hacc hs C l

/-- An evaluator finds out what holds by the rules when references are answered in the light of the
active pairs. -/
def IsFaithful (E : Evaluator σ) : Prop :=
  ∀ scope node e W, scope.hidden = [] → st.validator.schema.Has e →
    st.Obeys (Answers hacc hs C scope.active) W →
    (∀ p l, st.validator.schema.Uses e p l → IsReady hacc hs C scope.active l) →
    Meets (fun r => st.KnowsForms r.memo) (E scope node e) (fun v => v = .conforms ↔ W node e)
      fun _ => True

variable {hacc hs C}

/-- What is known of all components below a label is known of those below a label it leads to. -/
theorem Settled.of_dependsOn (h : Settled hacc hs C l)
    (hl : ReflTransGen st.validator.schema.DependsOn l l') : Settled hacc hs C l' :=
  fun l'' habove => h l'' ⟨hl.trans habove.1, fun hback => habove.2 (hback.trans hl)⟩

/-- Once a label is active, what its declaration refers to can be evaluated. -/
theorem IsReady.enter {active : List (Term × Label)} (h : IsReady hacc hs C active l) {n : Term}
    {d : ShapeDecl} (hd : st.validator.schema.shape? l = some d) {p : Polarity}
    (huse : st.validator.schema.Uses d.expr p l') : IsReady hacc hs C ((n, l) :: active) l' := by
  have hdep : st.validator.schema.DependsOn l l' := huse.dependsOn hs.reentry hd
  refine ⟨List.forall_mem_cons.2 ⟨.single hdep, fun q hq => (h.active q hq).tail hdep⟩, ?_⟩
  exact h.below.of_dependsOn (.single hdep)

/-- The answer for a pair that is made active is what its declaration gives when references are
answered with the pair active. -/
theorem answers_iff_holds {active : List (Term × Label)} {n : Term} {d : ShapeDecl}
    (hready : IsReady hacc hs C active l) (hactive : (n, l) ∉ active)
    (hd : st.validator.schema.shape? l = some d) {W : Term → ShapeExpr → Prop}
    (hW : st.Obeys (Answers hacc hs C ((n, l) :: active)) W) :
    Answers hacc hs C active n l ↔ W n d.expr := by
  have hparts := Schema.wellFounded_hasPart hs.reentry
  rw [answers_iff hactive]
  have hcongr : ∀ {W'}, st.Obeys (st.mixed C l (assuming (component hacc hs C l)
      {p | p ∈ (n, l) :: active ∧ st.validator.schema.Connected l p.2})) W' →
      (W' n d.expr ↔ W n d.expr) := by
    intro W' hW'
    refine hW'.congr hacc hparts hW (Schema.has_of_shape? hd) (fun p l' huse m => ?_) n
    by_cases hconn : st.validator.schema.Connected l l'
    · rw [mixed_of_connected hconn, answers_iff_of_connected hconn]
    · -- The label is below, and none of the active labels is connected to it.
      have hdep := huse.dependsOn hs.reentry hd
      have hback : ¬ ReflTransGen st.validator.schema.DependsOn l' l :=
        fun hback => hconn ⟨.single hdep, hback⟩
      rw [mixed_of_not_connected hconn, hready.below l' ⟨.single hdep, hback⟩]
      refine answers_congr fun p hp => iff_of_false List.not_mem_nil fun hmem => ?_
      rcases List.mem_cons.1 hmem with rfl | hmem
      · exact hback hp.1
      · exact hback (hp.1.trans (hready.active p hmem))
  constructor
  · rintro ⟨d', W', hd', hW', h⟩
    obtain rfl := Option.some.inj (hd.symm.trans hd')
    exact (hcongr hW').1 h
  · exact fun h => ⟨d, _, hd, obeys_valuation hacc hparts,
      (hcongr (obeys_valuation hacc hparts)).2 h⟩

/-- Without extension no label has parents, so every declaration is evaluated as it stands. -/
theorem hasParents_eq_false (hhier : st.validator.hierarchy = .ofSchema st.validator.schema)
    (hs : st.validator.schema.IsSimple) (l : Label) :
    st.validator.hierarchy.hasParents l = false := by
  rw [hhier, Hierarchy.hasParents, Option.isSome_eq_false_iff, Option.isNone_iff_eq_none]
  cases hps : (Hierarchy.ofSchema st.validator.schema).parents.lookup l with
  | none => rfl
  | some ps =>
    obtain ⟨d, hd, hform, hne⟩ := Schema.lookup_parents_iff.1 hps
    cases hx : d.expr.extendable? with
    | none =>
      rw [hx] at hform
      exact absurd hform.symm hne
    | some form =>
      obtain ⟨⟨m, hmain⟩, -⟩ := ShapeExpr.extendable?_eq_some hx
      have hhas := (Schema.has_of_shape? hd).main hx
      rw [hmain] at hhas
      rw [hx, Option.elim_some, hs.parents _ _ _ hhas] at hform
      exact absurd hform.symm hne

section
variable {E : Evaluator σ} {scope : Scope} {node : Term}

/-- What a faithful evaluator makes of the check of a node against a label. An active pair is taken
to hold; any other one becomes active, and its declaration is evaluated. -/
theorem satisfiesLabel_meets (hhier : st.validator.hierarchy = .ofSchema st.validator.schema)
    (hE : IsFaithful hacc hs C E) (hhidden : scope.hidden = [])
    (hready : IsReady hacc hs C scope.active l) :
    Meets (fun r => st.KnowsForms r.memo) (st.satisfiesLabel E E scope node l)
      (fun v => v = .conforms ↔ Answers hacc hs C scope.active node l) fun _ => True := by
  unfold satisfiesLabel
  split
  · exact Meets.throw trivial
  rename_i d hd
  rw [if_pos (by simp [hs.concrete l d hd])]
  unfold satisfiesConcrete
  split
  · rename_i hactive
    exact Meets.pure (iff_of_true rfl (answers_of_mem (List.contains_iff_mem.1 hactive)))
  · rename_i hactive
    have hnot : (node, l) ∉ scope.active := fun h => hactive (List.contains_iff_mem.2 h)
    have hobeys : st.Obeys (Answers hacc hs C ((node, l) :: scope.active)) _ :=
      obeys_valuation hacc (Schema.wellFounded_hasPart hs.reentry)
    rw [answers_iff_holds hready hnot hd hobeys]
    simp only [hasParents_eq_false hhier hs l, Bool.false_eq_true, if_false]
    exact hE (scope.enter node l) node d.expr _ hhidden (Schema.has_of_shape? hd) hobeys
      fun p l' huse => hready.enter hd huse

/-- What a faithful evaluator makes of an expression. Operands and values are its own affair; under
a negation the labels are used with the other sign. -/
theorem evaluate_meets (hhier : st.validator.hierarchy = .ofSchema st.validator.schema)
    (hco : st.validator.schema.IsCoherent) (hE : IsFaithful hacc hs C E) {e : ShapeExpr}
    {W : Term → ShapeExpr → Prop} (hhidden : scope.hidden = [])
    (he : st.validator.schema.Has e) (hW : st.Obeys (Answers hacc hs C scope.active) W)
    (hready : ∀ p l, st.validator.schema.Uses e p l → IsReady hacc hs C scope.active l) :
    Meets (fun r => st.KnowsForms r.memo) (st.evaluate E E scope node e)
      (fun j => (∃ ts, j = .ok ts) ↔ W node e) fun _ => True := by
  rw [hW.iff_holdsBy he]
  refine evaluate_meets_holdsBy ?_ ?_ ?_ ?_
  · rintro m es (rfl | rfl) x hx
    · exact hE scope node x W hhidden (he.of_and hx) hW fun p l huse => hready p l (.and hx huse)
    · exact hE scope node x W hhidden (he.of_or hx) hW fun p l huse => hready p l (.or hx huse)
  · rintro m x rfl
    exact hE scope node x W hhidden he.of_not hW fun p l huse => hready p.flip l (.not huse)
  · rintro m l rfl
    exact satisfiesLabel_meets hhier hE hhidden (hready _ l .ref)
  · rintro m h t rfl
    rw [← fulfils_congr_hidden hhidden]
    refine satisfiesShape_meets (s := ⟨h, t⟩) hacc hco he (hs.tripleActions m h t he)
      (fun _ _ => trivial) fun n v hv => ?_
    exact hE scope.showAll n v W rfl (he.of_hasPart hv) hW
      fun p l huse => hready p l (.of_hasPart hv huse)

/-- Evaluation is faithful, however many evaluations may be nested. By induction on the depth; where
it is used up there is no verdict to be right about. -/
theorem isFaithful_satisfies (hhier : st.validator.hierarchy = .ofSchema st.validator.schema)
    (hco : st.validator.schema.IsCoherent) (depth : Nat) :
    IsFaithful hacc hs C (st.satisfies depth) := by
  induction depth with
  | zero =>
    intro scope node e W _ _ _ _
    rw [satisfies]
    exact Meets.throw trivial
  | succ depth ih =>
    intro scope node e W hhidden he hW hready
    rw [satisfies]
    exact judgeActions_meets (evaluate_meets hhier hco ih hhidden he hW hready) (hs.actions e he)

end

end

/-! ### Single checks -/

/-- On the labels with `K`, a set of pairs has just those whose declaration holds by the rules when
references are answered by the set. -/
def IsFixpointOn (st : Setting σ) (K : Label → Prop) (X : Term → Label → Prop) : Prop :=
  ∃ W, st.Obeys X W ∧ ∀ n l, K l →
    (X n l ↔ ∃ d, st.validator.schema.shape? l = some d ∧ W n d.expr)

section
variable {hacc : st.validator.IsAccepted} {hs : st.validator.schema.IsSimple}
  {world : σ}

/-- What follows by the rules is declared. -/
theorem Answers.declared {n : Term} (h : Answers hacc hs C [] n l) :
    ∃ d, st.validator.schema.shape? l = some d := by
  obtain ⟨d, -, hd, -⟩ := (answers_iff List.not_mem_nil).1 h
  exact ⟨d, hd⟩

/-- A single check decides membership in the greatest fixpoint of the component. -/
theorem conforms_iff_answers (hhier : st.validator.hierarchy = .ofSchema st.validator.schema)
    (hco : st.validator.schema.IsCoherent) (hrun : st.Completes world) (l : Label) (n : Term) :
    st.Conforms world n l ↔ Answers hacc hs (st.Conforms world) [] n l := by
  induction l using st.validator.schema.wellFounded_above.induction generalizing n with
  | h l ih =>
    have hready : IsReady hacc hs (st.Conforms world) Scope.outermost.active l :=
      ⟨by simp [Scope.outermost], fun l' habove n' => ih l' habove n'⟩
    exact conforms_iff hs.startActions knowsForms_empty
      (satisfiesLabel_meets hhier (isFaithful_satisfies hhier hco st.limits.depth) rfl hready) hrun
      Answers.declared

end

/-- The pairs whose single check conforms are a fixpoint of the rules. On every component of labels
that depend on each other they are the greatest one, where the labels outside are answered by the
pairs themselves. -/
theorem conforms_stratified (hv : st.validator.IsBuilt)
    (hco : st.validator.schema.IsCoherent) (hs : st.validator.schema.IsSimple) (world : σ)
    (hrun : st.Completes world) :
    st.IsFixpointOn (fun _ => True) (st.Conforms world) ∧
    ∀ l X, (∀ n l', ¬ st.validator.schema.Connected l l' → (X n l' ↔ st.Conforms world n l')) →
      st.IsFixpointOn (st.validator.schema.Connected l) X →
      ∀ n l', st.validator.schema.Connected l l' → X n l' → st.Conforms world n l' := by
  have hacc := hv.accepted
  have hhier := hv.hierarchy
  have hparts := Schema.wellFounded_hasPart hs.reentry
  have hanswers := @conforms_iff_answers _ st hacc hs world hhier hco hrun
  constructor
  · have hW := @obeys_valuation _ st (st.Conforms world) hacc hparts
    refine ⟨_, hW, fun n l _ => ?_⟩
    rw [hanswers, Answers, assuming_eq]
    have hmixed : st.mixed (st.Conforms world) l (assuming (component hacc hs (st.Conforms world) l)
        {p | p ∈ [] ∧ st.validator.schema.Connected l p.2}) = st.Conforms world :=
      mixed_eq fun m l' hconn => by rw [← answers_iff_of_connected hconn, hanswers]
    constructor
    · rintro (hnone | ⟨-, d, W, hd, hW', h⟩)
      · exact absurd hnone.1 List.not_mem_nil
      · rw [hmixed] at hW'
        exact ⟨d, hd, (hW'.congr hacc hparts hW (Schema.has_of_shape? hd)
          (fun _ _ _ _ => Iff.rfl) n).1 h⟩
    · rintro ⟨d, hd, h⟩
      refine .inr ⟨.refl l, d, fun n e => st.valuation hparts (st.Conforms world) e n, hd, ?_, h⟩
      rwa [hmixed]
  · rintro l X hout ⟨W, hW, hX⟩ n l' hl' hXn
    rw [hanswers, answers_iff_of_connected hl']
    refine subset_assuming (X := {p | st.validator.schema.Connected l p.2 ∧ X p.1 p.2}) _ ?_
      ⟨hl', hXn⟩
    rintro ⟨m, l''⟩ ⟨hconn, hXm⟩
    obtain ⟨d, hd, hWm⟩ := (hX m l'' hconn).1 hXm
    have hmixed : st.mixed (st.Conforms world) l
        {p | st.validator.schema.Connected l p.2 ∧ X p.1 p.2} = X := by
      funext n' l'
      refine propext ?_
      by_cases hc : st.validator.schema.Connected l l'
      · rw [mixed_of_connected hc]
        exact and_iff_right hc
      · rw [mixed_of_not_connected hc, hout n' l' hc]
    refine .inr ⟨hconn, d, W, hd, ?_, hWm⟩
    rwa [hmixed]

end Setting

/-! ### Example -/

/-- `{ p @<S> ; q NOT @<T> * }` -/
def circleShape : Shape :=
  ⟨.plain, some (.eachOf (.written ⟨⟨1⟩, []⟩)
    [.constraint (.written ⟨⟨2⟩, []⟩) ⟨⟨"p"⟩, false⟩ (some (.ref ⟨⟨3⟩, []⟩ (.iri ⟨"S"⟩))),
    .repeated (.written ⟨⟨4⟩, []⟩) (.constraint (.written ⟨⟨5⟩, []⟩) ⟨⟨"q"⟩, false⟩
      (some (.not ⟨⟨6⟩, []⟩ (.ref ⟨⟨7⟩, []⟩ (.iri ⟨"T"⟩))))) .star])⟩

/-- `{ r . }` -/
def otherShape : Shape :=
  ⟨.plain, some (.constraint (.written ⟨⟨9⟩, []⟩) ⟨⟨"r"⟩, false⟩ none)⟩

/-- `<S> { p @<S> ; q NOT @<T> * }` with `<T> { r . }` -/
def circleSchema : Schema :=
  (Schema.empty.addShape (.iri ⟨"S"⟩)
    ⟨false, .shape ⟨⟨0⟩, []⟩ circleShape.header circleShape.expression⟩).addShape (.iri ⟨"T"⟩)
    ⟨false, .shape ⟨⟨8⟩, []⟩ otherShape.header otherShape.expression⟩

/-- A run about `n p n` and `n q n`. -/
def circleSetting : Setting Unit := settingOf circleSchema [link "n" "p" "n", link "n" "q" "n"]

/-- Every check of the example comes to its end within the limits. -/
theorem circle_completes : circleSetting.Completes () := by
  refine Setting.completes_of_nodes [.resource (.iri ⟨"n"⟩)] rfl (by decide) fun l hl => ?_
  change l ∈ [.iri ⟨"S"⟩, .iri ⟨"T"⟩] at hl
  simp only [List.mem_cons, List.not_mem_nil, or_false] at hl ⊢
  rcases hl with rfl | rfl <;> exact ⟨by rintro n rfl; exact ⟨_, rfl⟩, fun n => ⟨_, rfl⟩⟩

/-- The schema of the example has a negation and no extra predicates, no actions and no extension,
and its references do not come back through a triple expression. -/
theorem circleSchema_isSimple : circleSchema.IsSimple := by
  have hheaders : ∀ m h t, circleSchema.Has (.shape m h t) → h.parents = [] ∧ h.extra = [] := by
    intro m h t hx
    have hall : circleSchema.expressions.all (fun x => x.shape?.all fun s =>
        s.header.parents.isEmpty && s.header.extra.isEmpty) = true := by decide
    have := List.all_eq_true.1 hall _ (Schema.has_iff_mem_expressions.1 hx)
    simpa [ShapeExpr.shape?] using this
  refine ⟨Schema.isActionless_of_annotate (by decide) (by decide) rfl, fun l d hd => ?_,
    fun m h t hx => (hheaders m h t hx).1, fun l hl => ?_, fun l d hd => .inr fun m h t hx => ?_⟩
  · have hall : ∀ e ∈ circleSchema.shapes.entries, e.2.isAbstract = false := by decide
    exact hall (l, d) ((Table.get?_eq_some_iff _).1 hd)
  · obtain ⟨l', ⟨t, ht, -⟩, -⟩ := TransGen.head'_iff.1 hl
    cases ht
  · exact (hheaders m h t ((Schema.has_of_shape? hd).of_within hx)).2

/-- The node conforms to `<S>` by assuming so, and not to `<T>`; its checks are a fixpoint. -/
theorem circle_stratified :
    circleSetting.IsFixpointOn (fun _ => True) (circleSetting.Conforms ()) :=
  (Setting.conforms_stratified ⟨rfl, rfl⟩ (Schema.isCoherent_of_nodup (by decide) (by decide))
    circleSchema_isSimple () circle_completes).1

end Shex
