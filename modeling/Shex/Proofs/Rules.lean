import Shex.Proofs.Shapes

/-!
# The rules of evaluation

`st.Obeys A W`: `W` says which expressions of the schema hold at which nodes, by the rules of
evaluation, where a reference holds if `A` says so. If no labelled triple expression reaches itself
through value expressions, there is such a `W` for every `A` (`Setting.obeys_valuation`), and what
it says of an expression depends on what `A` says of the labels that the expression refers to in its
parts: more pairs for positive references and less for negative ones make it hold at more nodes
(`Setting.Obeys.mono`).
-/

namespace Shex

open Run

namespace Setting

variable {σ : Type}

/-! ### One application of the rules -/

/-- An expression holds at a node, where `V` says which nodes meet value expressions, `W` which
nodes meet expressions that are nested otherwise, and `L` answers references. Negations are left
out. -/
def Holds (st : Setting σ) (V W : Term → ShapeExpr → Prop) (L : Term → Label → Prop) (n : Term) :
    ShapeExpr → Prop
  | .and _ es => ∀ e ∈ es, W n e
  | .or _ es => ∃ e ∈ es, W n e
  | .not _ _ => False
  | .ref _ l => L n l
  | .shape _ h t => st.Fulfils V .outermost n ⟨h, t⟩
  | .nodeConstraint _ c => c.failures st.validator.readers st.limits.patternLength n = .ok []
  | .external _ => False

/-- An expression holds at a node, where `W` says which expressions nested in it hold there, `A`
which labels and `S` which shapes. -/
def HoldsBy (st : Setting σ) (n : Term) (W : ShapeExpr → Prop) (A : Label → Prop)
    (S : Shape → Prop) : ShapeExpr → Prop
  | .and _ es => ∀ e ∈ es, W e
  | .or _ es => ∃ e ∈ es, W e
  | .not _ e => ¬ W e
  | .ref _ l => A l
  | .shape _ h t => S ⟨h, t⟩
  | .nodeConstraint _ c => c.failures st.validator.readers st.limits.patternLength n = .ok []
  | .external _ => False

section
variable {st : Setting σ} {V V' W W' : Term → ShapeExpr → Prop} {A A' : Term → Label → Prop}
  {n : Term} {e : ShapeExpr}

/-- Where there are no negations, an expression holds by what holds with nothing hidden. -/
theorem holds_iff_holdsBy (hnot : ∀ m x, e ≠ .not m x) :
    st.Holds V W A n e ↔ st.HoldsBy n (W n) (A n) (st.Fulfils V .outermost n) e := by
  cases e with
  | not m x => exact absurd rfl (hnot m x)
  | _ => rfl

/-- The rules are monotone in all that they ask for. They give nothing for a negation, which would
not be: they are used for schemas without negations, where they agree with evaluation
(`Setting.holds_iff_holdsBy`). -/
theorem Holds.mono (hV : ∀ n e, V n e → V' n e) (hW : ∀ n e, W n e → W' n e)
    (hA : ∀ n l, A n l → A' n l) (h : st.Holds V W A n e) : st.Holds V' W' A' n e := by
  cases e with
  | and m es => exact fun e he => hW n e (h e he)
  | or m es =>
    obtain ⟨e, he, h⟩ := h
    exact ⟨e, he, hW n e h⟩
  | not m e => exact h
  | ref m l => exact hA n l h
  | shape m hd t =>
    obtain ⟨f, hf, h⟩ := h
    exact ⟨f, hf, h.mono hV⟩
  | nodeConstraint m c => exact h
  | external m => exact h

/-- What evaluation of an expression finds out, from what is found out about its parts, its labels
and its shapes. All later statements about evaluation in a fixed scope are cases of this one. -/
theorem evaluate_meets_holdsBy {I : RunState σ → Prop} {values nested : Evaluator σ}
    {scope : Scope} {W : ShapeExpr → Prop} {A : Label → Prop} {S : Shape → Prop}
    (hnested : ∀ m es, e = .and m es ∨ e = .or m es → ∀ x ∈ es,
      Meets I (nested scope n x) (fun d => d = .conforms ↔ W x) fun _ => True)
    (hnegated : ∀ m x, e = .not m x →
      Meets I (nested scope n x) (fun d => d = .conforms ↔ W x) fun _ => True)
    (hlabel : ∀ m l, e = .ref m l → Meets I (st.satisfiesLabel values nested scope n l)
      (fun d => d = .conforms ↔ A l) fun _ => True)
    (hshape : ∀ m h t, e = .shape m h t → Meets I (st.satisfiesShape values scope n ⟨h, t⟩)
      (fun j => (∃ ts, j = .ok ts) ↔ S ⟨h, t⟩) fun _ => True) :
    Meets I (st.evaluate values nested scope n e)
      (fun j => (∃ ts, j = .ok ts) ↔ st.HoldsBy n W A S e) fun _ => True := by
  cases e with
  | and m es =>
    rw [evaluate, HoldsBy]
    refine (allConform_meets (hnested m es (.inl rfl))).bind fun v hv => ?_
    rw [← hv]
    cases v <;> exact Meets.pure (by simp)
  | or m es =>
    rw [evaluate, HoldsBy]
    refine (anyConforms_meets (hnested m es (.inr rfl))).bind fun v hv => ?_
    rw [← hv]
    cases v <;> exact Meets.pure (by simp)
  | not m x =>
    rw [evaluate, HoldsBy]
    refine (hnegated m x rfl).bind fun v hv => ?_
    rw [← hv]
    cases v <;> exact Meets.pure (by simp)
  | ref m l =>
    rw [evaluate, HoldsBy]
    refine (hlabel m l rfl).bind fun v hv => ?_
    rw [← hv]
    cases v <;> exact Meets.pure (by simp)
  | shape m h t =>
    rw [evaluate, HoldsBy]
    exact hshape m h t rfl
  | nodeConstraint m c =>
    rw [evaluate, HoldsBy]
    split
    · exact Meets.throw trivial
    · rename_i hc
      exact Meets.pure (by simp [hc])
    · rename_i fs hne hc
      exact Meets.pure (by simpa [hc] using hne)
  | external m =>
    rw [evaluate, HoldsBy]
    exact Meets.pure (by simp)

end

/-! ### What obeys the rules -/

/-- What holds at which nodes, by the rules of evaluation with nothing hidden, where `A` answers
references. -/
structure Obeys (st : Setting σ) (A : Term → Label → Prop) (W : Term → ShapeExpr → Prop) :
    Prop where
  and : ∀ n m es, st.validator.schema.Has (.and m es) → (W n (.and m es) ↔ ∀ e ∈ es, W n e)
  or : ∀ n m es, st.validator.schema.Has (.or m es) → (W n (.or m es) ↔ ∃ e ∈ es, W n e)
  not : ∀ n m e, st.validator.schema.Has (.not m e) → (W n (.not m e) ↔ ¬ W n e)
  ref : ∀ n m l, st.validator.schema.Has (.ref m l) → (W n (.ref m l) ↔ A n l)
  shape : ∀ n m h t, st.validator.schema.Has (.shape m h t) →
    (W n (.shape m h t) ↔ st.Fulfils W .outermost n ⟨h, t⟩)
  nodeConstraint : ∀ n m c, st.validator.schema.Has (.nodeConstraint m c) →
    (W n (.nodeConstraint m c) ↔ c.failures st.validator.readers st.limits.patternLength n = .ok [])
  external : ∀ n m, ¬ W n (.external m)

/-- What holds at which nodes, computed from the parts of expressions. -/
def valuation (st : Setting σ) (hparts : WellFounded (flip st.validator.schema.HasPart))
    (A : Term → Label → Prop) : ShapeExpr → Term → Prop :=
  hparts.fix fun e => match e with
    | .and _ es => fun W n => ∀ x, ∀ hx : x ∈ es, W x (.and hx) n
    | .or _ es => fun W n => ∃ x, ∃ hx : x ∈ es, W x (.or hx) n
    | .not _ x => fun W n => ¬ W x .not n
    | .ref _ l => fun _ n => A n l
    | .shape _ h t => fun W n => st.Fulfils (fun n' v => ∃ hv, W v hv n') .outermost n ⟨h, t⟩
    | .nodeConstraint _ c => fun _ n =>
      c.failures st.validator.readers st.limits.patternLength n = .ok []
    | .external _ => fun _ _ => False

variable {st : Setting σ} {A A' : Term → Label → Prop} {W W' : Term → ShapeExpr → Prop}

/-- What obeys the rules is what one application of them gives. -/
theorem Obeys.iff_holdsBy (hW : st.Obeys A W) {e : ShapeExpr} (he : st.validator.schema.Has e)
    (n : Term) : W n e ↔ st.HoldsBy n (W n) (A n) (st.Fulfils W .outermost n) e := by
  cases e with
  | and m es => exact hW.and n m es he
  | or m es => exact hW.or n m es he
  | not m x => exact hW.not n m x he
  | ref m l => exact hW.ref n m l he
  | shape m h t => exact hW.shape n m h t he
  | nodeConstraint m c => exact hW.nodeConstraint n m c he
  | external m => exact iff_of_false (hW.external n m) id

/-- The computed valuation obeys the rules. It is defined by recursion on the parts of expressions,
which is well founded by hypothesis, and the rules are its equations. -/
theorem obeys_valuation (hacc : st.validator.IsAccepted)
    (hparts : WellFounded (flip st.validator.schema.HasPart)) :
    st.Obeys A fun n e => st.valuation hparts A e n := by
  constructor
  · intro n m es _
    unfold valuation
    rw [hparts.fix_eq]
  · intro n m es _
    unfold valuation
    rw [hparts.fix_eq]
    simp
  · intro n m e _
    unfold valuation
    rw [hparts.fix_eq]
  · intro n m l _
    unfold valuation
    rw [hparts.fix_eq]
  · intro n m h t hs
    unfold valuation
    rw [hparts.fix_eq]
    constructor
    · exact Fulfils.mono (s := ⟨h, t⟩) hacc hs fun v _ n hW => hW.snd
    · exact Fulfils.mono (s := ⟨h, t⟩) hacc hs fun v hv n hW => ⟨hv, hW⟩
  · intro n m c _
    unfold valuation
    rw [hparts.fix_eq]
  · intro n m
    unfold valuation
    rw [hparts.fix_eq]
    exact id

/-- More pairs for the positive references of an expression and less for the negative ones make it
hold at more nodes. -/
theorem Obeys.mono (hacc : st.validator.IsAccepted)
    (hparts : WellFounded (flip st.validator.schema.HasPart)) (hW : st.Obeys A W)
    (hW' : st.Obeys A' W') {e : ShapeExpr} (he : st.validator.schema.Has e)
    (hpos : ∀ l, st.validator.schema.Uses e .positive l → ∀ n, A n l → A' n l)
    (hneg : ∀ l, st.validator.schema.Uses e .negative l → ∀ n, A' n l → A n l) {n : Term}
    (h : W n e) : W' n e := by
  induction e using hparts.induction generalizing A A' W W' n with
  | h e ih =>
    cases e with
    | and m es =>
      rw [hW.and n m es he] at h
      rw [hW'.and n m es he]
      exact fun x hx => ih x (.and hx) hW hW' (he.of_and hx) (fun l hl => hpos l (.and hx hl))
        (fun l hl => hneg l (.and hx hl)) (h x hx)
    | or m es =>
      rw [hW.or n m es he] at h
      rw [hW'.or n m es he]
      obtain ⟨x, hx, h⟩ := h
      exact ⟨x, hx, ih x (.or hx) hW hW' (he.of_or hx) (fun l hl => hpos l (.or hx hl))
        (fun l hl => hneg l (.or hx hl)) h⟩
    | not m x =>
      rw [hW.not n m x he] at h
      rw [hW'.not n m x he]
      -- Under the negation the two valuations change places.
      exact fun hx => h (ih x .not hW' hW he.of_not (fun l hl => hneg l (.not hl))
        (fun l hl => hpos l (.not hl)) hx)
    | ref m l =>
      rw [hW.ref n m l he] at h
      rw [hW'.ref n m l he]
      exact hpos l .ref n h
    | shape m hd t =>
      rw [hW.shape n m hd t he] at h
      rw [hW'.shape n m hd t he]
      refine Fulfils.mono (s := ⟨hd, t⟩) hacc he (fun v hv n hv' => ?_) h
      exact ih v hv hW hW' (he.of_hasPart hv) (fun l hl => hpos l (.of_hasPart hv hl))
        (fun l hl => hneg l (.of_hasPart hv hl)) hv'
    | nodeConstraint m c =>
      rw [hW.nodeConstraint n m c he] at h
      rwa [hW'.nodeConstraint n m c he]
    | external m => exact absurd h (hW.external n m)

/-- What holds depends only on the answers for the labels that are referred to. -/
theorem Obeys.congr (hacc : st.validator.IsAccepted)
    (hparts : WellFounded (flip st.validator.schema.HasPart)) (hW : st.Obeys A W)
    (hW' : st.Obeys A' W') {e : ShapeExpr} (he : st.validator.schema.Has e)
    (h : ∀ p l, st.validator.schema.Uses e p l → ∀ n, A n l ↔ A' n l) (n : Term) :
    W n e ↔ W' n e :=
  ⟨hW.mono hacc hparts hW' he (fun l hl n => (h _ l hl n).1) (fun l hl n => (h _ l hl n).2),
    hW'.mono hacc hparts hW he (fun l hl n => (h _ l hl n).2) (fun l hl n => (h _ l hl n).1)⟩

end Setting

end Shex
