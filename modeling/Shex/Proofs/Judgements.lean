import Shex.Proofs.Hiding
import Shex.Proofs.Reduction
import Shex.Proofs.Rules

/-!
# The rules with extension

What holds at which nodes in a schema without negations, with extending and abstract declarations.
The rules take the verdicts on value expressions, on expressions nested otherwise and on labels as
given (`Setting.Holds`, `Setting.HoldsLabel`). Where all three are read from one set of judgements,
the rules are an operator on such sets (`Setting.rules`), and evaluation is to decide its greatest
fixpoint. Where value expressions are read from another set, it is another operator
(`Setting.rulesWith`).
-/

namespace Shex

namespace Setting

variable {σ : Type} (st : Setting σ)

/-- The parts of an extending declaration hold at a node: the joined form of the main shapes, and
what stands beside them. -/
def HoldsExtending (V W : Term → ShapeExpr → Prop) (n : Term) (l : Label) : Prop :=
  ∃ plan, st.IsPlan l plan ∧ st.FormHolds V .outermost n plan.form plan.isClosed plan.extra ∧
    ∀ p ∈ plan.parts, ∀ c ∈ p.constraints, W n c

/-- The declaration of a label holds at a node. -/
def HoldsLabel (V W : Term → ShapeExpr → Prop) (L : Term → Label → Prop) (n : Term) (l : Label) :
    Prop :=
  ∃ d, st.validator.schema.shape? l = some d ∧
    if d.isAbstract then ∃ x ∈ concreteSubtypes st.validator l, L n x.1
    else if st.validator.hierarchy.hasParents l then st.HoldsExtending V W n l
    else W n d.expr

variable {st} {V V' W W' : Term → ShapeExpr → Prop} {L L' : Term → Label → Prop} {n : Term}

/-- More judgements about parts, and about labels in place of abstract ones, make no fewer
declarations hold: no rule for a declaration asks that something does not hold. -/
theorem HoldsLabel.mono (hV : ∀ n e, V n e → V' n e) (hW : ∀ n e, W n e → W' n e)
    (hL : ∀ n l, L n l → L' n l) {l : Label} (h : st.HoldsLabel V W L n l) :
    st.HoldsLabel V' W' L' n l := by
  obtain ⟨d, hd, h⟩ := h
  refine ⟨d, hd, ?_⟩
  split_ifs at h ⊢
  · obtain ⟨x, hx, h⟩ := h
    exact ⟨x, hx, hL n x.1 h⟩
  · obtain ⟨plan, hplan, hform, hparts⟩ := h
    exact ⟨plan, hplan, hform.mono hV, fun p hp c hc => hW n c (hparts p hp c hc)⟩
  · exact hW n d.expr h

/-! ### Judgements -/

/-- The expressions that a set of judgements says to hold. -/
def exprsOf (X : Set (Term × Subject)) (n : Term) (e : ShapeExpr) : Prop := (n, .expr e) ∈ X

/-- The labels whose declarations a set of judgements says to hold. -/
def labelsOf (X : Set (Term × Subject)) (n : Term) (l : Label) : Prop := (n, .label l) ∈ X

/-- A judgement follows by the rules from the set `X`, where value expressions are read from `V`. -/
def Follows (st : Setting σ) (V : Term → ShapeExpr → Prop) (X : Set (Term × Subject)) :
    Term × Subject → Prop
  | (n, .expr e) => st.Holds V (exprsOf X) (labelsOf X) n e
  | (n, .label l) => st.HoldsLabel V (exprsOf X) (labelsOf X) n l

/-- A judgement about an expression follows by the rule for its kind. -/
theorem follows_expr {X : Set (Term × Subject)} {e : ShapeExpr} :
    st.Follows V X (n, .expr e) ↔ st.Holds V (exprsOf X) (labelsOf X) n e := Iff.rfl

/-- A judgement about a label follows by its declaration. -/
theorem follows_label {X : Set (Term × Subject)} {l : Label} :
    st.Follows V X (n, .label l) ↔ st.HoldsLabel V (exprsOf X) (labelsOf X) n l := Iff.rfl

/-- The rules are monotone, so there is a greatest set that follows from itself. -/
theorem Follows.mono {X Y : Set (Term × Subject)} (hV : ∀ n e, V n e → V' n e) (hXY : X ⊆ Y)
    {p : Term × Subject} (h : st.Follows V X p) : st.Follows V' Y p := by
  obtain ⟨n, e | l⟩ := p
  · rw [follows_expr] at h ⊢
    exact h.mono hV (fun _ _ h => hXY h) fun _ _ h => hXY h
  · rw [follows_label] at h ⊢
    exact h.mono hV (fun _ _ h => hXY h) fun _ _ h => hXY h

/-- What follows by the rules, where value expressions are read from `V`. -/
def rulesWith (st : Setting σ) (V : Term → ShapeExpr → Prop) :
    Set (Term × Subject) →o Set (Term × Subject) where
  toFun X := {p | st.Follows V X p}
  monotone' _ _ hXY _ hp := hp.mono (fun _ _ => id) hXY

/-- What follows by the rules. -/
def rules (st : Setting σ) : Set (Term × Subject) →o Set (Term × Subject) where
  toFun X := {p | st.Follows (exprsOf X) X p}
  monotone' _ _ hXY _ hp := hp.mono (fun _ _ h => hXY h) hXY

/-! ### Active pairs -/

/-- The judgements about labels that are taken for granted while pairs are active. -/
def pairs (active : List (Term × Label)) : Set (Term × Subject) :=
  {p | ∃ l, p.2 = .label l ∧ (p.1, l) ∈ active}

/-- Nothing is active, nothing is taken for granted. -/
theorem pairs_nil : pairs [] = ∅ := by
  simp [pairs]

/-- One more active pair is taken for granted, and it is a judgement about a label: expressions are
never assumed. -/
theorem pairs_cons {active : List (Term × Label)} {l : Label} :
    pairs ((n, l) :: active) = insert (n, .label l) (pairs active) := by
  ext p
  obtain ⟨m, x⟩ := p
  simp only [pairs, Set.mem_insert_iff, Set.mem_ofPred_eq, List.mem_cons, Prod.mk.injEq]
  constructor
  · rintro ⟨l', rfl, ⟨rfl, rfl⟩ | hmem⟩
    · exact .inl ⟨rfl, rfl⟩
    · exact .inr ⟨l', rfl, hmem⟩
  · rintro (⟨rfl, rfl⟩ | ⟨l', rfl, hmem⟩)
    · exact ⟨l, rfl, .inl ⟨rfl, rfl⟩⟩
    · exact ⟨l', rfl, .inr hmem⟩

/-- What is taken for granted are the active pairs. -/
theorem mem_pairs {active : List (Term × Label)} {l : Label} :
    (n, .label l) ∈ pairs active ↔ (n, l) ∈ active := by
  simp [pairs]

section
variable {f : Set (Term × Subject) →o Set (Term × Subject)} {active : List (Term × Label)}

/-- What is taken for granted says nothing about expressions. -/
theorem expr_mem_assuming_iff {e : ShapeExpr} :
    (n, .expr e) ∈ assuming f (pairs active) ↔ (n, .expr e) ∈ f (assuming f (pairs active)) := by
  conv_lhs => rw [assuming_eq]
  refine or_iff_right fun h => ?_
  obtain ⟨l, hl, -⟩ := h
  cases hl

/-- The judgement about a label that is not active follows once it is active. -/
theorem label_mem_assuming_iff {l : Label} :
    (n, .label l) ∈ assuming f (pairs active) ↔
      (n, l) ∈ active ∨ (n, .label l) ∈ f (assuming f (pairs ((n, l) :: active))) := by
  rw [mem_assuming_iff, mem_pairs, pairs_cons]

end

end Setting

end Shex
