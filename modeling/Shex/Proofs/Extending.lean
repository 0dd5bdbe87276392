import Shex.Proofs.Checks
import Shex.Proofs.Judgements

/-!
# Extending shapes are evaluated by the rules

What evaluation of a label or an expression finds out, from what the evaluators for value
expressions and for nested expressions decide (`Setting.satisfiesLabel_decides`,
`Setting.evaluate_decides`). In a discreet schema without negations and semantic actions it is what
the rules say, though the conjuncts of a part are evaluated with the edges of other parts hidden. So
the pairs whose single check conforms are the greatest fixpoint of the rules
(`Setting.conforms_iff_mem_rules`).
-/

namespace Shex

open Run

/-- Neither negations nor semantic actions are used. -/
structure Schema.IsPositive (s : Schema) : Prop extends s.IsActionless where
  negations : ∀ m x, ¬ s.Has (.not m x)

namespace Setting

variable {σ : Type} {st : Setting σ}

/-- An evaluator decides what `P` says about expressions, under the pairs that are active, as long
as the expressions ignore what is hidden. -/
def Decides (st : Setting σ) (P : List (Term × Label) → Term → ShapeExpr → Prop)
    (E : Evaluator σ) : Prop :=
  ∀ scope node e, st.validator.schema.Has e → st.Spares scope node (.expr e) →
    Meets (fun r => st.KnowsMemo r.memo) (E scope node e)
      (fun v => v = .conforms ↔ P scope.active node e) fun _ => True

section
variable {I : RunState σ → Prop} {F : ValidationFault → Prop} {nested : Evaluator σ}
  {scope : Scope} {node : Term}

/-- The parts hold if all that stands beside their main shapes holds, each in the scope where the
edges of the other parts are hidden. Only the actions of main shapes would matter besides. -/
theorem satisfiesParts_meets {owners : List (Edge × Nat)} {P : Nat → ShapeExpr → Prop} :
    ∀ {parts : List (Part × Nat)}, (∀ x ∈ parts, x.1.main.actions = []) →
      (∀ x ∈ parts, ∀ c ∈ x.1.constraints,
        Meets I (nested (scope.hide node ((owners.filter (·.2 ≠ x.2)).map Prod.fst)) node c)
          (fun v => v = .conforms ↔ P x.2 c) F) →
      Meets I (st.satisfiesParts nested scope node owners parts)
        (fun v => v = .conforms ↔ ∀ x ∈ parts, ∀ c ∈ x.1.constraints, P x.2 c) F
  | [], _, _ => Meets.pure (by simp)
  | (p, i) :: parts, hact, h => by
    rw [List.forall_mem_cons] at hact h
    rw [satisfiesParts, hact.1]
    refine (Meets.pure (Q := (· = .conforms)) rfl).bind fun v hv => ?_
    subst hv
    refine (allConform_meets h.1).bind fun v hv => ?_
    cases v with
    | fails reasons =>
      exact Meets.pure (iff_of_false nofun fun hall => nomatch hv.2 (hall (p, i) (by simp)))
    | conforms =>
      refine (satisfiesParts_meets hact.2 h.2).imp fun v' hv' => ?_
      rw [hv', List.forall_mem_cons]
      exact (and_iff_right (hv.1 rfl)).symm

variable {values : Evaluator σ} {l : Label}

/-- An extending shape holds if the form of its plan does, by `H`, and all that stands beside the
main shapes, by `P`. The assignment that was found is known by `Q`. -/
theorem satisfiesExtending_meets {declared : ShapeExpr} {H : Plan → Prop}
    {P : Plan → Nat → ShapeExpr → Prop} {Q : Plan → Assignment → Prop}
    (hplan : Meets I (st.planOf l) (st.IsPlan l) fun _ => True)
    (hmatch : ∀ plan, st.IsPlan l plan →
      Meets I (st.matchAround values scope node plan.form plan.isClosed plan.extra)
        (fun
          | .ok a => H plan ∧ Q plan a
          | .error _ => ¬ H plan) fun _ => True)
    (hmain : ∀ plan, st.IsPlan l plan → ∀ p ∈ plan.parts, p.main.actions = [])
    (hconjunct : ∀ plan a owners, st.IsPlan l plan → Q plan a →
      ownersOf plan l a.matched = .ok owners → ∀ x ∈ plan.parts.zipIdx, ∀ c ∈ x.1.constraints,
        Meets I (nested (scope.hide node ((owners.filter (·.2 ≠ x.2)).map Prod.fst)) node c)
          (fun v => v = .conforms ↔ P plan x.2 c) fun _ => True)
    (hdeclared : declared.actions = []) :
    Meets I (st.satisfiesExtending values nested scope node l declared)
      (fun v => v = .conforms ↔ ∃ plan, st.IsPlan l plan ∧ H plan ∧
        ∀ x ∈ plan.parts.zipIdx, ∀ c ∈ x.1.constraints, P plan x.2 c) fun _ => True := by
  unfold satisfiesExtending
  refine hplan.bind fun plan hp => ?_
  have hone : (∃ plan, st.IsPlan l plan ∧ H plan ∧
      ∀ x ∈ plan.parts.zipIdx, ∀ c ∈ x.1.constraints, P plan x.2 c) ↔
      H plan ∧ ∀ x ∈ plan.parts.zipIdx, ∀ c ∈ x.1.constraints, P plan x.2 c :=
    ⟨fun ⟨plan', hp', h⟩ => hp'.unique hp ▸ h, fun h => ⟨plan, hp, h⟩⟩
  rw [hone]
  refine (hmatch plan hp).bind fun j hj => ?_
  cases j with
  | error reasons => exact Meets.pure (iff_of_false nofun fun h => hj h.1)
  | ok a =>
    rw [and_iff_right hj.1]
    dsimp only
    split
    · exact Meets.throw trivial
    rename_i owners howners
    refine (satisfiesParts_meets (P := P plan)
      (fun x hx => hmain plan hp x.1 (List.fst_mem_of_mem_zipIdx hx))
      (hconjunct plan a owners hp hj.2 howners)).bind fun v hv => ?_
    rw [← hv]
    cases v with
    | fails reasons => exact Meets.pure Iff.rfl
    | conforms =>
      rw [hdeclared]
      dsimp only
      split <;> exact Meets.pure Iff.rfl

/-- A label that is not abstract holds where it is active, or if what it declares does. A
declaration that extends something is evaluated by its plan, any other one as the expression it
is. -/
theorem satisfiesConcrete_meets {d : ShapeDecl} {X D : Prop}
    (hextending : st.validator.hierarchy.hasParents l = true →
      Meets I (st.satisfiesExtending values nested (scope.enter node l) node l d.expr)
        (fun v => v = .conforms ↔ X) F)
    (hdeclared : Meets I (nested (scope.enter node l) node d.expr) (fun v => v = .conforms ↔ D) F) :
    Meets I (st.satisfiesConcrete values nested scope node l d)
      (fun v => v = .conforms ↔ scope.isActive node l = true ∨
        if st.validator.hierarchy.hasParents l then X else D) F := by
  unfold satisfiesConcrete
  split
  · rename_i hactive
    exact Meets.pure (iff_of_true rfl (.inl hactive))
  rename_i hactive
  rw [or_iff_right hactive]
  dsimp only
  split
  · rename_i hparents
    exact hextending hparents
  · exact hdeclared

/-- An abstract label holds where it is active, or if one of those that it is resolved to does. The
others of them are asked as labels of their own, each entering its own pair. -/
theorem satisfiesLabel_meets_of {d : ShapeDecl} (hl : st.validator.schema.shape? l = some d)
    {C : Prop} {S : Label × ShapeDecl → Prop}
    (hconcrete : d.isAbstract = false →
      Meets I (st.satisfiesConcrete values nested scope node l d) (fun v => v = .conforms ↔ C) F)
    (hsubtype : d.isAbstract = true → ∀ x ∈ concreteSubtypes st.validator l,
      Meets I (st.satisfiesConcrete values nested (scope.enter node l) node x.1 x.2)
        (fun v => v = .conforms ↔ S x) F) :
    Meets I (st.satisfiesLabel values nested scope node l)
      (fun v => v = .conforms ↔ if d.isAbstract then
        scope.isActive node l = true ∨ ∃ x ∈ concreteSubtypes st.validator l, S x else C) F := by
  unfold satisfiesLabel
  rw [hl]
  dsimp only
  cases habstract : d.isAbstract with
  | false =>
    rw [if_pos (by simp), if_neg (by simp)]
    exact hconcrete habstract
  | true =>
    rw [if_neg (by simp), if_pos rfl]
    split
    · rename_i hactive
      exact Meets.pure (iff_of_true rfl (.inl hactive))
    rename_i hactive
    rw [or_iff_right hactive]
    refine (anyConforms_meets (hsubtype habstract)).bind fun v hv => ?_
    rw [← hv]
    cases v <;> exact Meets.pure (by simp)

end

/-- The checks of the parts with their positions are those of the parts. -/
theorem forall_mem_zipIdx_iff {parts : List Part} {P : ShapeExpr → Prop} :
    (∀ x ∈ parts.zipIdx, ∀ c ∈ x.1.constraints, P c) ↔ ∀ p ∈ parts, ∀ c ∈ p.constraints, P c := by
  constructor
  · intro h p hp c hc
    rw [← List.zipIdx_map_fst 0 parts] at hp
    obtain ⟨x, hx, rfl⟩ := List.mem_map.1 hp
    exact h x hx c hc
  · exact fun h x hx => h x.1 (List.fst_mem_of_mem_zipIdx hx)

section
variable {V W : List (Term × Label) → Term → ShapeExpr → Prop}
  {L : List (Term × Label) → Term → Label → Prop} {values nested : Evaluator σ} {scope : Scope}
  {node : Term} {l : Label} (hv : st.validator.IsBuilt)
  (hco : st.validator.schema.IsCoherent) (hs : st.validator.schema.IsPositive)
  (hvalues : st.Decides V values)
include hv hco hs hvalues

/-- What matching a plan finds out: the joined form of its parts holds, and the assignment that is
found gives every edge to a constraint that admits it. -/
theorem matchAround_plan_meets {plan : Plan} (hplan : st.IsPlan l plan) :
    Meets (fun r => st.KnowsMemo r.memo)
      (st.matchAround values scope node plan.form plan.isClosed plan.extra)
      (fun
        | .ok a => st.FormHolds (V scope.active) scope node plan.form plan.isClosed plan.extra ∧
            a.IsLawful (V scope.active) plan.extra plan.form
              (scope.neighbourhood st.graph node (plan.form.predicates true)).edges
        | .error _ =>
          ¬ st.FormHolds (V scope.active) scope node plan.form plan.isClosed plan.extra)
      fun _ => True := by
  have hacc := hv.accepted
  have hhier := hv.hierarchy
  have htick : Meets (fun r => st.KnowsMemo r.memo) st.tick (fun _ => True) fun _ => True :=
    (tick_meets fun _ _ h => h).mono (fun _ => id) fun _ _ => trivial
  refine matchAround_meets (hplan.isMatchable hhier hacc hco hs.tripleActions) htick
    fun e _ c hc _ v hcv => ?_
  obtain ⟨t, ht, via, m, hin, -⟩ :=
    hplan.form.inside hacc (fun t ht => hplan.has_expression hhier ht) hc
  obtain ⟨mk, h, hx⟩ := hplan.has_expression hhier ht
  rw [hcv] at hin
  exact hvalues scope.showAll e.opposite v (hx.of_shape hin) (spares_of_hidden_eq_nil rfl _)

variable (hd : st.IsDiscreet) (hnested : st.Decides W nested)
  (hL : ∀ active n l, L active n l ↔ (n, l) ∈ active ∨
    st.HoldsLabel (V ((n, l) :: active)) (W ((n, l) :: active)) (L ((n, l) :: active)) n l)
include hnested

/-- What evaluation of an expression finds out, if it is known for the label that it may refer
to. -/
theorem evaluate_decides {A : Term → Label → Prop} {e : ShapeExpr}
    (he : st.validator.schema.Has e) (hspares : st.Spares scope node (.expr e))
    (hlabel : ∀ m l, e = .ref m l → Meets (fun r => st.KnowsMemo r.memo)
      (st.satisfiesLabel values nested scope node l) (fun v => v = .conforms ↔ A node l)
      fun _ => True) :
    Meets (fun r => st.KnowsMemo r.memo) (st.evaluate values nested scope node e)
      (fun j => (∃ ts, j = .ok ts) ↔ st.Holds (V scope.active) (W scope.active) A node e)
      fun _ => True := by
  have hacc := hv.accepted
  have hhier := hv.hierarchy
  rw [holds_iff_holdsBy fun m x h => hs.negations m x (h ▸ he)]
  refine evaluate_meets_holdsBy ?_ (fun m x h => absurd (h ▸ he) (hs.negations m x)) hlabel ?_
  · rintro m es (rfl | rfl) x hx
    · exact hnested scope node x (he.of_and hx) (hspares.of_comesTo fun s hs => .and hx hs)
    · exact hnested scope node x (he.of_or hx) (hspares.of_comesTo fun s hs => .or hx hs)
  · rintro m h t rfl
    rw [← fulfils_iff_of_spares hacc he hspares]
    exact satisfiesShape_meets_of_form (s := ⟨h, t⟩) hacc hco he (hs.tripleActions m h t he)
      ((formFor_meets_memo hacc hco he).mono (fun _ => id) fun _ _ => trivial)
      ((tick_meets fun _ _ h => h).mono (fun _ => id) fun _ _ => trivial)
      fun n v hv => hvalues scope.showAll n v (he.of_hasPart hv) (spares_of_hidden_eq_nil rfl _)

include hd

/-- What evaluation of an extending shape finds out: its parts hold with all edges in sight. What
is hidden from a part makes no difference, since it does not concern what stands beside the main
shape. -/
theorem satisfiesExtending_decides (hparents : st.validator.hierarchy.hasParents l = true)
    (hspares : st.Spares scope node (.label l)) {declared : ShapeExpr}
    (hdeclared : st.validator.schema.Has declared) :
    Meets (fun r => st.KnowsMemo r.memo) (st.satisfiesExtending values nested scope node l declared)
      (fun v => v = .conforms ↔ st.HoldsExtending (V scope.active) (W scope.active) node l)
      fun _ => True := by
  have hacc := hv.accepted
  have hhier := hv.hierarchy
  have hholds : st.HoldsExtending (V scope.active) (W scope.active) node l ↔
      ∃ plan, st.IsPlan l plan ∧
        st.FormHolds (V scope.active) scope node plan.form plan.isClosed plan.extra ∧
        ∀ x ∈ plan.parts.zipIdx, ∀ c ∈ x.1.constraints, W scope.active node c := by
    refine exists_congr fun plan => and_congr_right fun hplan => ?_
    rw [hplan.formHolds_iff_of_spares hhier hacc hspares, forall_mem_zipIdx_iff]
  rw [hholds]
  exact satisfiesExtending_meets (P := fun _ _ => W scope.active node) (planOf_meets hv hco)
    (fun plan hplan => matchAround_plan_meets hv hco hs hvalues hplan)
    (fun plan hplan p hp => hs.actions _ (hplan.has_main hhier hp))
    (fun plan a owners hplan ha howners x hx c hc =>
      hnested _ node c (hplan.has_conjunct hhier (List.fst_mem_of_mem_zipIdx hx) hc)
        (hd.spares hacc hhier hparents hplan ha howners hx hc hspares))
    (hs.actions _ hdeclared)

include hL

/-- What evaluation of a label that is not abstract finds out, at the moment it is entered. The pair
is taken for granted from then on, as in the greatest fixpoint with the pair assumed. -/
theorem satisfiesConcrete_decides (hspares : st.Spares scope node (.label l)) {d : ShapeDecl}
    (hl : st.validator.schema.shape? l = some d) (habstract : d.isAbstract = false) :
    Meets (fun r => st.KnowsMemo r.memo) (st.satisfiesConcrete values nested scope node l d)
      (fun v => v = .conforms ↔ L scope.active node l) fun _ => True := by
  have hholds : L scope.active node l ↔ scope.isActive node l = true ∨
      if st.validator.hierarchy.hasParents l then
        st.HoldsExtending (V ((node, l) :: scope.active)) (W ((node, l) :: scope.active)) node l
      else W ((node, l) :: scope.active) node d.expr := by
    rw [hL, HoldsLabel, hl, Scope.isActive, List.contains_iff_mem]
    simp [habstract]
  have hspares' : st.Spares (scope.enter node l) node (.label l) := hspares
  rw [hholds]
  exact satisfiesConcrete_meets
    (fun hparents => satisfiesExtending_decides hv hco hs hvalues hd hnested hparents hspares'
      (Schema.has_of_shape? hl))
    (hnested _ node d.expr (Schema.has_of_shape? hl)
      (hspares'.of_comesTo fun s hs => .declared hl hs))

/-- What evaluation of a label finds out: the judgement about it, where the active pairs are taken
for granted. -/
theorem satisfiesLabel_decides (hspares : st.Spares scope node (.label l)) :
    Meets (fun r => st.KnowsMemo r.memo) (st.satisfiesLabel values nested scope node l)
      (fun v => v = .conforms ↔ L scope.active node l) fun _ => True := by
  cases hl : st.validator.schema.shape? l with
  | none =>
    rw [satisfiesLabel, hl]
    exact Meets.throw trivial
  | some d =>
    have hholds : L scope.active node l ↔ if d.isAbstract then
        scope.isActive node l = true ∨ ∃ x ∈ concreteSubtypes st.validator l,
          L ((node, l) :: scope.active) node x.1
        else L scope.active node l := by
      cases habstract : d.isAbstract with
      | false => simp
      | true =>
        rw [hL, HoldsLabel, hl, Scope.isActive, List.contains_iff_mem]
        simp [habstract]
    rw [hholds]
    refine satisfiesLabel_meets_of hl (fun hconcrete => ?_) fun habstract x hx => ?_
    · exact satisfiesConcrete_decides hv hco hs hvalues hd hnested hL hspares hl hconcrete
    · obtain ⟨hchild, hconcrete⟩ := of_mem_concreteSubtypes hx
      have hspares' : st.Spares (scope.enter node l) node (.label x.1) :=
        hspares.of_comesTo fun s hs => .subtype hl habstract hx hs
      exact satisfiesConcrete_decides hv hco hs hvalues hd hnested hL hspares' hchild hconcrete

end

/-! ### Single checks -/

section
variable (hv : st.validator.IsBuilt)
  (hco : st.validator.schema.IsCoherent) (hs : st.validator.schema.IsPositive) (hd : st.IsDiscreet)
include hv hco hs hd

/-- Evaluation decides what is in the greatest fixpoint of the rules in which the active pairs are
taken for granted. -/
theorem satisfies_decides (depth : Nat) :
    st.Decides (fun active => exprsOf (assuming st.rules (pairs active))) (st.satisfies depth) := by
  induction depth with
  | zero =>
    intro scope node e _ _
    rw [satisfies]
    exact Meets.throw trivial
  | succ depth ih =>
    intro scope node e he hspares
    simp only [exprsOf, expr_mem_assuming_iff]
    rw [satisfies]
    refine judgeActions_meets (evaluate_decides hv hco hs ih ih he hspares fun m l href => ?_)
      (hs.actions e he)
    subst href
    exact satisfiesLabel_decides (L := fun active => labelsOf (assuming st.rules (pairs active)))
      hv hco hs ih hd ih (fun _ _ _ => label_mem_assuming_iff)
      (hspares.of_comesTo fun s hs => .ref hs)

/-- The pairs whose single check conforms are the greatest fixpoint of the rules. -/
theorem conforms_iff_mem_rules {world : σ} (hrun : st.Completes world) {n : Term} {l : Label} :
    st.Conforms world n l ↔ (n, .label l) ∈ st.rules.gfp := by
  have hE := satisfies_decides hv hco hs hd st.limits.depth
  rw [← assuming_empty, ← pairs_nil]
  refine conforms_iff (I := fun r => st.KnowsMemo r.memo) hs.startActions knowsMemo_empty ?_ hrun
    fun h => ?_
  · exact satisfiesLabel_decides (L := fun active => labelsOf (assuming st.rules (pairs active)))
      hv hco hs hE hd hE (fun _ _ _ => label_mem_assuming_iff) (spares_of_hidden_eq_nil rfl _)
  · obtain ⟨d, hd, -⟩ := (label_mem_assuming_iff.1 h).resolve_left List.not_mem_nil
    exact ⟨d, hd⟩

end

end Setting

end Shex
