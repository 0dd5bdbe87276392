import Shex.Proofs.FormRenaming
import Shex.Proofs.Shapes
import Shex.Proofs.SideBySide

/-!
# Kept and copied expressions

Whether an expression is kept as it stands or copied depends on the identities in it, and its form
has the same structure all the same. The copy of an expression that counting can deal with has the
structure of the expression (`Normalize.expr_affords`), so a form that is kept corresponds to one
that is copied (`TripleExpr.exists_normalize_like`). Forms of the same structure hold at the same
nodes (`Setting.FormHolds.of_corresponds`).
-/

namespace Shex

/-- Two constraints with the same arc and related value expressions. -/
def TripleConstraint.Like (R : Option ShapeExpr → Option ShapeExpr → Prop)
    (c d : TripleConstraint) : Prop :=
  c.arc = d.arc ∧ R c.value d.value

/-- The same structure, seen from the other expression. -/
theorem TripleExpr.Corresponds.swap {R : Option ShapeExpr → Option ShapeExpr → Prop}
    {e e' : TripleExpr} (h : e.Corresponds (TripleConstraint.Like R) e') :
    e'.Corresponds (TripleConstraint.Like fun v' v => R v v') e :=
  h.symm fun _ _ h => ⟨h.1.symm, h.2⟩

/-! ### Copies that can be afforded -/

namespace Normalize

open TripleExpr

/-- A computation gives a result with `Q` if `n` more nodes may be copied, and copies no more. -/
def Affords {α : Type} (n : Nat) (Q : α → Prop) (x : Normalize α) : Prop :=
  ∀ s : Normalizing, n ≤ s.remaining →
    ∃ a t, x.run s = .ok (a, t) ∧ Q a ∧ s.remaining ≤ t.remaining + n

namespace Affords

variable {α β : Type} {P : α → Prop} {Q : β → Prop} {k n : Nat}

/-- A result on the spot copies nothing. -/
protected theorem pure {a : α} (h : P a) : Affords 0 P (pure a) := fun s _ => ⟨a, s, rfl, h, le_rfl⟩

/-- The nodes that two computations copy are added. -/
protected theorem bind {x : Normalize α} {f : α → Normalize β} (hx : Affords k P x)
    (hf : ∀ a, P a → Affords n Q (f a)) : Affords (k + n) Q (x >>= f) := by
  intro s hs
  obtain ⟨a, t, hrun, ha, ht⟩ := hx s (by omega)
  obtain ⟨b, u, hrun', hb, hu⟩ := hf a ha t (by omega)
  refine ⟨b, u, ?_, hb, by omega⟩
  rw [StateT.run_bind, hrun]
  exact hrun'

/-- One node is taken from the budget. -/
theorem reserve (limit : Nat) : Affords 1 (fun _ => True) (reserve limit) := by
  rintro ⟨next, _ | m, as⟩ hs
  · cases hs
  · exact ⟨(), ⟨next, m, as⟩, rfl, trivial, le_rfl⟩

/-- A copy is made under some identity, and which one is not said: the structure does not depend on
it. -/
theorem copy {m : TripleMark} {make : TripleMark → TripleExpr} {R : TripleExpr → Prop}
    (h : ∀ i, R (make (m.copy i))) : Affords 0 R (copy m make) :=
  fun s _ => ⟨_, _, rfl, h s.next, le_rfl⟩

/-- A result that is recorded stays. -/
theorem record (source : Mark) {e : TripleExpr} {R : TripleExpr → Prop} (h : R e) :
    Affords 0 R (do Normalize.record source e; return e) := fun _ _ => ⟨e, _, rfl, h, le_rfl⟩

end Affords

/-- What a repetition that counting can deal with is a repetition of: a triple constraint, or a
group that is repeated as it may be. -/
theorem isCountable_repeated_iff {m : TripleMark} {e : TripleExpr} {c : Cardinality} :
    (repeated m e c).isCountable = true ↔ e.isConstraint = true ∨
      ((c.isStandard = true ∨ c.isEmpty = true) ∧ e.isCountable = true) ∧
        ¬ (c = .plus ∧ e.matchesEmpty = true) := by
  rw [isCountable, Bool.or_eq_true, Bool.and_eq_true, Bool.and_eq_true, Bool.or_eq_true]
  simp [imp_iff_not_or]

/-- A triple constraint matches one edge, never none. -/
theorem matchesEmpty_of_isConstraint {e : TripleExpr} (h : e.isConstraint = true) :
    e.matchesEmpty = false := by
  cases e with
  | constraint => rw [matchesEmpty]
  | eachOf | oneOf | repeated | ref | empty => cases h

/-- What is copied for a repetition that counting can deal with is the repetition. Such a repetition
is never written out: its cardinality is a standard one, or it is over a single constraint. -/
theorem unroll_affords {make : Normalize TripleExpr} {e : TripleExpr} {n : Nat}
    (hmake : Affords n (Corresponds (TripleConstraint.Like Eq) e) make) {m : TripleMark}
    {c : Cardinality} (hc : (repeated m e c).isCountable = true) {limit : Nat} :
    Affords n (Corresponds (TripleConstraint.Like Eq) (repeated m e c))
      (unroll limit m make c) := by
  unfold unroll
  refine hmake.bind (n := 0) fun first hfirst => ?_
  rw [← hfirst.isConstraint_eq, ← hfirst.matchesEmpty_eq]
  rw [isCountable_repeated_iff] at hc
  have hkeep : (e.isConstraint || c.isEmpty || c.isStandard) = true := by
    rw [Bool.or_eq_true, Bool.or_eq_true]
    tauto
  have hsame : ¬ (c = .plus && e.matchesEmpty) = true := by
    rw [Bool.and_eq_true, decide_eq_true_iff]
    rcases hc with h | h
    · rw [matchesEmpty_of_isConstraint h]
      simp
    · exact h.2
  rw [if_pos hkeep, if_neg hsame]
  exact .copy fun i => .repeated (.refl _) hfirst

/-- What is repeated in a countable repetition is countable. -/
theorem isCountable_of_repeated {m : TripleMark} {e : TripleExpr} {c : Cardinality}
    (h : (repeated m e c).isCountable = true) : e.isCountable = true := by
  rcases isCountable_repeated_iff.1 h with h | h
  · cases e with
    | constraint => rfl
    | eachOf | oneOf | repeated | ref | empty => cases h
  · exact h.1.2

mutual

/-- A copy of an expression that counting can deal with has the structure of the expression, and
there is one if enough nodes may be copied. -/
theorem expr_affords : ∀ {e : TripleExpr}, e.isCountable = true →
    ∃ n, ∀ limit resolve,
      Affords n (Corresponds (TripleConstraint.Like Eq) e) (expr limit resolve e)
  | .eachOf m es, hc => by
    rw [isCountable] at hc
    obtain ⟨n, hn⟩ := exprs_affords hc
    refine ⟨1 + (n + (0 + 0)), fun limit resolve => ?_⟩
    rw [expr]
    refine (Affords.reserve limit).bind fun _ _ => (hn limit resolve).bind fun fs hfs => ?_
    exact (Affords.copy fun _ => .eachOf (.refl _) (allCorrespond_iff.2 hfs)).bind fun _ hf =>
      .record _ hf
  | .oneOf m es, hc => by
    rw [isCountable] at hc
    obtain ⟨n, hn⟩ := exprs_affords hc
    refine ⟨1 + (n + (0 + 0)), fun limit resolve => ?_⟩
    rw [expr]
    refine (Affords.reserve limit).bind fun _ _ => (hn limit resolve).bind fun fs hfs => ?_
    exact (Affords.copy fun _ => .oneOf (.refl _) (allCorrespond_iff.2 hfs)).bind fun _ hf =>
      .record _ hf
  | .repeated m e c, hc => by
    obtain ⟨n, hn⟩ := expr_affords (isCountable_of_repeated hc)
    refine ⟨1 + (n + 0), fun limit resolve => ?_⟩
    rw [expr]
    exact (Affords.reserve limit).bind fun _ _ =>
      (unroll_affords (hn limit resolve) hc).bind fun _ hf => .record _ hf
  | .constraint m a v, _ => by
    refine ⟨1 + (0 + 0), fun limit resolve => ?_⟩
    rw [expr]
    exact (Affords.reserve limit).bind fun _ _ =>
      (Affords.copy fun _ => .constraint (.refl _) ⟨rfl, rfl⟩).bind fun _ hf => .record _ hf
  | .ref _ _, hc => by simp [isCountable] at hc
  | .empty m, _ => by
    refine ⟨1 + (0 + 0), fun limit resolve => ?_⟩
    rw [expr]
    exact (Affords.reserve limit).bind fun _ _ =>
      (Affords.copy fun _ => .empty (.refl _)).bind fun _ hf => .record _ hf

/-- The same for the parts of a group or a choice. What they need together is the sum of what each
one needs. -/
theorem exprs_affords : ∀ {es : List TripleExpr}, allCountable es = true →
    ∃ n, ∀ limit resolve, Affords n (List.Forall₂ (Corresponds (TripleConstraint.Like Eq)) es)
      (exprs limit resolve es)
  | [], _ => ⟨0, fun _ _ => .pure .nil⟩
  | e :: es, hc => by
    rw [allCountable, Bool.and_eq_true] at hc
    obtain ⟨k, hk⟩ := expr_affords hc.1
    obtain ⟨n, hn⟩ := exprs_affords hc.2
    refine ⟨k + (n + 0), fun limit resolve => ?_⟩
    rw [exprs]
    exact (hk limit resolve).bind fun _ hf =>
      (hn limit resolve).bind fun _ hfs => .pure (.cons hf hfs)

end

end Normalize

/-! ### Forms of the same structure -/

namespace TripleExpr

open TripleConstraint (Like)

/-- An expression that counting can deal with has a form of its structure. It may have to be copied
still, when an identity occurs twice in it. -/
theorem exists_normalize_of_isCountable (S : Schema) {e : TripleExpr} (hc : e.isCountable = true)
    (i : ExprId) :
    ∃ limit f, e.normalize S limit i = .ok f ∧ e.Corresponds (Like Eq) f.expr := by
  cases hs : e.isSorbe with
  | true =>
    refine ⟨0, .ofSorbe e, ?_, .refl (fun _ => ⟨rfl, rfl⟩) e⟩
    rw [normalize, if_pos hs]
  | false =>
    obtain ⟨limit, h⟩ := Normalize.expr_affords hc
    obtain ⟨f, t, hrun, hf, -⟩ := h limit (Normalize.resolve S limit S.tripleExprs.size [])
      ⟨i, limit, []⟩ le_rfl
    refine ⟨limit, ⟨f, t.annotated⟩, ?_, hf⟩
    rw [normalize, if_neg (by simp [hs]), hrun]
    rfl

variable {S S' : Schema} {R : Option ShapeExpr → Option ShapeExpr → Prop}

/-- Where an expression has a form, an expression of the same structure has a form of the same
structure, whichever of them is kept or copied. -/
theorem exists_normalize_like
    (hS : ∀ l, Option.Rel (Corresponds (Like R)) (S.tripleExpr? l) (S'.tripleExpr? l))
    (hsize : S.tripleExprs.size = S'.tripleExprs.size) {e e' : TripleExpr}
    (h : Corresponds (Like R) e e') {limit : Nat} {i : ExprId} {f : Form}
    (hf : e.normalize S limit i = .ok f) (j : ExprId) :
    ∃ limit' g, e'.normalize S' limit' j = .ok g ∧ Corresponds (Like R) f.expr g.expr := by
  cases hc : e.isCountable with
  | true =>
    obtain ⟨_, f', hf', hef⟩ := exists_normalize_of_isCountable S hc i
    obtain ⟨limit', g, hg, heg⟩ :=
      exists_normalize_of_isCountable S' (h.isCountable_eq.symm.trans hc) j
    obtain rfl := normalize_limit hf hf'
    refine ⟨limit', g, hg, ?_⟩
    have hback : Corresponds (Like Eq) f.expr e := hef.symm fun _ _ h => ⟨h.1.symm, h.2.symm⟩
    have hleft : Corresponds (Like R) f.expr e' :=
      hback.trans (fun _ _ _ h h' => ⟨h.1.trans h'.1, h.2 ▸ h'.2⟩) h
    exact hleft.trans (fun _ _ _ h h' => ⟨h.1.trans h'.1, h'.2 ▸ h.2⟩) heg
  | false =>
    have hs : e.isSorbe = false := by rw [isSorbe, hc, Bool.false_and]
    have hs' : e'.isSorbe = false := by rw [isSorbe, ← h.isCountable_eq, hc, Bool.false_and]
    have hrel := normalize_relates
      (A := fun c d => Like R c d ∧ Shifted i.index j.index c.id d.id) (fun _ _ h => h.2)
      (fun _ _ _ _ h hk => ⟨h, hk⟩) hS hsize h hs hs' limit
    rw [hf] at hrel
    cases hg : e'.normalize S' limit j with
    | error x =>
      rw [hg] at hrel
      exact hrel.elim
    | ok g =>
      rw [hg] at hrel
      exact ⟨limit, g, hg, hrel.expr.imp fun _ _ h => h.1⟩

end TripleExpr

/-! ### Where they hold -/

/-- Related elements of two lists without repetitions are related one to one by their places. -/
theorem biUnique_zip {α β : Type} {as : List α} {bs : List β} (ha : as.Nodup) (hb : bs.Nodup) :
    Relator.BiUnique fun a b => (a, b) ∈ as.zip bs := by
  constructor
  · intro a a' b h h'
    obtain ⟨i, hi, h⟩ := List.mem_iff_getElem.1 h
    obtain ⟨j, hj, h'⟩ := List.mem_iff_getElem.1 h'
    rw [List.getElem_zip, Prod.mk.injEq] at h h'
    obtain rfl : i = j := (hb.getElem_inj_iff).1 (h.2.trans h'.2.symm)
    exact h.1.symm.trans h'.1
  · intro a b b' h h'
    obtain ⟨i, hi, h⟩ := List.mem_iff_getElem.1 h
    obtain ⟨j, hj, h'⟩ := List.mem_iff_getElem.1 h'
    rw [List.getElem_zip, Prod.mk.injEq] at h h'
    obtain rfl : i = j := (ha.getElem_inj_iff).1 (h.1.trans h'.1.symm)
    exact h.2.symm.trans h'.2

namespace Form

open TripleConstraint (Like)

variable {R : Option ShapeExpr → Option ShapeExpr → Prop} {V V' : Term → ShapeExpr → Prop}
  {extra : List Iri} {f g : Form}

/-- Forms of the same structure concern the same edges, since their constraints have the same
arcs. -/
theorem concerns_eq_of_corresponds (h : f.expr.Corresponds (Like R) g.expr) (e : Edge) :
    f.concerns e = g.concerns e := by
  have hcs := h.constraints
  unfold concerns Form.constraints
  generalize f.expr.constraints = cs at hcs
  generalize g.expr.constraints = ds at hcs
  induction hcs with
  | nil => rfl
  | cons hc _ ih => rw [List.any_cons, List.any_cons, ih, hc.1]

/-- Forms of the same structure look for the same predicates. -/
theorem predicates_eq_of_corresponds (h : f.expr.Corresponds (Like R) g.expr) (inverse : Bool) :
    f.predicates inverse = g.predicates inverse :=
  predicates_congr (h.constraints.imp fun _ _ hc => hc.1) inverse

variable (hR : ∀ v v', R v v' → ∀ t, (∀ x, v = some x → V t x) → ∀ x, v' = some x → V' t x)
include hR

/-- What may be chosen for edges with one form may be chosen with the other. The constraint at the
same place is chosen, so that the identities are related by their places. -/
theorem exists_chosen_of_corresponds (h : f.expr.Corresponds (Like R) g.expr) {edges : List Edge}
    {chosen : List (Option ExprId)} (hch : List.Forall₂ (f.Allows V extra) edges chosen) :
    ∃ chosen', List.Forall₂ (g.Allows V' extra) edges chosen' ∧
      List.Forall₂ (Option.Rel fun i j => (i, j) ∈ f.expr.constraintIds.zip g.expr.constraintIds)
        chosen chosen' := by
  induction hch with
  | nil => exact ⟨[], .nil, .nil⟩
  | @cons e o es os ho _ ih =>
    obtain ⟨os', hos', hrel⟩ := ih
    cases o with
    | none => exact ⟨none :: os', .cons ho hos', .cons .none hrel⟩
    | some i =>
      obtain ⟨c, hc, harc, hacc, rfl⟩ := ho
      obtain ⟨n, hn, rfl⟩ := List.getElem_of_mem hc
      have hcs := h.constraints
      have hn' : n < g.expr.constraints.length := hcs.length_eq ▸ hn
      have hlike : Like R f.constraints[n] g.expr.constraints[n] := hcs.get hn hn'
      refine ⟨some g.expr.constraints[n].id :: os', .cons ?_ hos', .cons (.some ?_) hrel⟩
      · exact ⟨_, List.getElem_mem hn', hlike.1.symm.trans harc, hR _ _ hlike.2 _ hacc, rfl⟩
      · rw [TripleExpr.constraintIds, TripleExpr.constraintIds, List.zip_map]
        refine List.mem_map.2 ⟨(f.constraints[n], g.expr.constraints[n]), ?_, rfl⟩
        exact List.mem_iff_getElem.2 ⟨n, by simpa using ⟨hn, hn'⟩, List.getElem_zip⟩

/-- Edges that fit a form fit a form of the same structure. The bags of identities differ, but those
are counted alike whose identities stand at the same places. -/
theorem Fits.of_corresponds (h : f.expr.Corresponds (Like R) g.expr)
    (hc : f.expr.isCountable = true) (hf : f.expr.constraintIds.Nodup)
    (hg : g.expr.constraintIds.Nodup) {edges : List Edge} (hfits : f.Fits V extra edges) :
    g.Fits V' extra edges := by
  obtain ⟨chosen, hch, hbag⟩ := hfits
  obtain ⟨chosen', hch', hrel⟩ := exists_chosen_of_corresponds hR h hch
  have hplaces : f.expr.Corresponds (fun c d => Like R c d ∧
      (c.id, d.id) ∈ f.expr.constraintIds.zip g.expr.constraintIds) g.expr := by
    refine h.imp fun x hx hlike => ⟨hlike, ?_⟩
    rw [TripleExpr.constraintIds, TripleExpr.constraintIds, List.zip_map]
    exact List.mem_map.2 ⟨x, hx, rfl⟩
  have hedges : edges.filter f.concerns = edges.filter g.concerns := by
    rw [show f.concerns = g.concerns from funext (concerns_eq_of_corresponds h)]
  have hbags : List.Forall₂ (fun i j => (i, j) ∈ f.expr.constraintIds.zip g.expr.constraintIds)
      (chosen.filterMap id) (chosen'.filterMap id) := List.rel_filterMap (fun _ _ h => h) hrel
  refine ⟨chosen', hedges ▸ hch', ?_⟩
  rw [← hplaces.matchesBag_eq (biUnique_zip hf hg) hbags (fun _ _ h => h.2) hc]
  exact hbag

end Form

/-- A form of the same structure holds at the same nodes. -/
theorem Setting.FormHolds.of_corresponds {σ τ : Type} {st : Setting σ} {st' : Setting τ}
    {R : Option ShapeExpr → Option ShapeExpr → Prop} {V V' : Term → ShapeExpr → Prop}
    (hR : ∀ v v', R v v' → ∀ t, (∀ x, v = some x → V t x) → ∀ x, v' = some x → V' t x)
    (hgraph : st'.graph = st.graph) {f g : Form}
    (h : f.expr.Corresponds (TripleConstraint.Like R) g.expr) (hc : f.expr.isCountable = true)
    (hf : f.expr.constraintIds.Nodup) (hg : g.expr.constraintIds.Nodup) {scope : Scope}
    {node : Term} {closed : Bool} {extra : List Iri}
    (hholds : st.FormHolds V scope node f closed extra) :
    st'.FormHolds V' scope node g closed extra := by
  rw [FormHolds, Form.predicates_eq_of_corresponds h, Form.predicates_eq_of_corresponds h,
    ← hgraph] at hholds
  exact ⟨hholds.1, hholds.2.of_corresponds hR h hc hf hg⟩

end Shex
