import Shex.Proofs.Correspondence
import Shex.Proofs.Normalization

/-!
# Copies made side by side

Two expressions of the same structure are copied in the same way, whatever the identities of their
nodes are and whatever identities the copies begin with (`Normalize.expr_relates`): both copies are
made, and have the same structure, or both end in the same fault. A constraint in one copy has the
same distance from the first identity as the corresponding one in the other (`Shifted`).
-/

namespace Shex

/-- Two identities have the same distance from two given ones. -/
def Shifted (a b : Nat) (i j : ExprId) : Prop := ∃ k, i = ⟨a + k⟩ ∧ j = ⟨b + k⟩

/-- The relation pairs each identity with at most one other, in both directions. So constraints that
are told apart by identities correspond one to one. -/
theorem Shifted.biUnique (a b : Nat) : Relator.BiUnique (Shifted a b) := by
  constructor
  · rintro _ _ _ ⟨k, rfl, rfl⟩ ⟨k', rfl, h⟩
    simp only [ExprId.mk.injEq] at h ⊢
    omega
  · rintro _ _ _ ⟨k, rfl, rfl⟩ ⟨k', h, rfl⟩
    simp only [ExprId.mk.injEq] at h ⊢
    omega

/-- The next identities have the same distance. -/
theorem Shifted.next {a b : Nat} {i j : ExprId} (h : Shifted a b i j) :
    Shifted a b i.next j.next := by
  obtain ⟨k, rfl, rfl⟩ := h
  exact ⟨k + 1, rfl, rfl⟩

/-- The same node of a schema, with corresponding constraints. -/
structure Annotated.Matches (I : ExprId → ExprId → Prop) (x y : Annotated) : Prop where
  source : x.source = y.source
  constraints : List.Forall₂ I x.constraints y.constraints

namespace Annotated

variable {I : ExprId → ExprId → Prop} {as bs : List Annotated} {is js : List ExprId}

/-- Extending an entry, or adding one, on both sides: the entry is found by the identity of the
node, which is the same on both sides. -/
theorem extend_matches (h : List.Forall₂ (Matches I) as bs) (hids : List.Forall₂ I is js)
    (source : Mark) : List.Forall₂ (Matches I) (extend source is as) (extend source js bs) := by
  induction h with
  | nil => exact .cons ⟨rfl, hids⟩ .nil
  | @cons x y as bs hxy hrest ih =>
    rw [extend, extend, hxy.source]
    split
    · exact .cons ⟨rfl, List.rel_append hids hxy.constraints⟩ hrest
    · exact .cons hxy ih

/-- What is recorded for corresponding nodes corresponds. -/
theorem record_matches (h : List.Forall₂ (Matches I) as bs) {e e' : TripleExpr}
    (hids : List.Forall₂ I e.constraintIds e'.constraintIds) {m m' : Mark} (hm : m.ActsAs m') :
    List.Forall₂ (Matches I) (record m e as) (record m' e' bs) := by
  rw [record, record, ← hm.actions]
  split
  · exact h
  · rename_i hact
    rcases hm with rfl | ⟨hnil, -⟩
    · exact extend_matches h hids m
    · simp [hnil] at hact

end Annotated

namespace TripleExpr

variable {I : ExprId → ExprId → Prop} {A : TripleConstraint → TripleConstraint → Prop}

mutual

/-- What is recorded for two expressions of the same structure corresponds: the same actions, and
constraints at the same places. -/
theorem Corresponds.annotate (hA : ∀ c d, A c d → I c.id d.id) :
    ∀ {e e' : TripleExpr}, Corresponds A e e' → ∀ {as bs : List Annotated},
      List.Forall₂ (Annotated.Matches I) as bs →
        List.Forall₂ (Annotated.Matches I) (e.annotate as) (e'.annotate bs)
  | _, _, .eachOf hm hes, _, _, h => by
    rw [TripleExpr.annotate, TripleExpr.annotate]
    exact Annotated.record_matches (hes.annotateIn hA h)
      (Corresponds.constraintIds hA (.eachOf hm hes)) hm
  | _, _, .oneOf hm hes, _, _, h => by
    rw [TripleExpr.annotate, TripleExpr.annotate]
    exact Annotated.record_matches (hes.annotateIn hA h)
      (Corresponds.constraintIds hA (.oneOf hm hes)) hm
  | _, _, .repeated hm he, _, _, h => by
    rw [TripleExpr.annotate, TripleExpr.annotate]
    exact Annotated.record_matches (he.annotate hA h)
      (Corresponds.constraintIds hA (.repeated hm he)) hm
  | _, _, .constraint hm hc, _, _, h => by
    rw [TripleExpr.annotate, TripleExpr.annotate]
    exact Annotated.record_matches h (Corresponds.constraintIds hA (.constraint hm hc)) hm
  | _, _, .ref hm, _, _, h => by
    rw [TripleExpr.annotate, TripleExpr.annotate]
    exact Annotated.record_matches h (Corresponds.constraintIds hA (.ref hm)) hm
  | _, _, .empty hm, _, _, h => by
    rw [TripleExpr.annotate, TripleExpr.annotate]
    exact Annotated.record_matches h (Corresponds.constraintIds hA (.empty hm)) hm

/-- The same for the parts of a group or a choice. -/
theorem AllCorrespond.annotateIn (hA : ∀ c d, A c d → I c.id d.id) :
    ∀ {es es' : List TripleExpr}, AllCorrespond A es es' → ∀ {as bs : List Annotated},
      List.Forall₂ (Annotated.Matches I) as bs →
        List.Forall₂ (Annotated.Matches I) (TripleExpr.annotateIn es as)
          (TripleExpr.annotateIn es' bs)
  | _, _, .nil, _, _, h => h
  | _, _, .cons he hes, _, _, h => by
    rw [TripleExpr.annotateIn, TripleExpr.annotateIn]
    exact hes.annotateIn hA (he.annotate hA h)

end

end TripleExpr

/-- Two forms of the same structure: their constraints are related by `A`, and the identities of
those that stand for a node of the schema by `I`. -/
structure Form.Corresponds (A : TripleConstraint → TripleConstraint → Prop)
    (I : ExprId → ExprId → Prop) (f g : Form) : Prop where
  expr : TripleExpr.Corresponds A f.expr g.expr
  annotated : List.Forall₂ (Annotated.Matches I) f.annotated g.annotated

/-- Expressions of the same structure that are kept as they stand have forms of the same
structure. -/
theorem Form.ofSorbe_corresponds {A : TripleConstraint → TripleConstraint → Prop}
    {I : ExprId → ExprId → Prop} (hA : ∀ c d, A c d → I c.id d.id) {e e' : TripleExpr}
    (h : e.Corresponds A e') : Form.Corresponds A I (.ofSorbe e) (.ofSorbe e') :=
  ⟨h, h.annotate hA .nil⟩

namespace Normalize

open TripleExpr

/-- Two states of normalization from which copies correspond. -/
structure Aligned (a b : Nat) (s t : Normalizing) : Prop where
  next : Shifted a b s.next t.next
  remaining : s.remaining = t.remaining
  annotated : List.Forall₂ (Annotated.Matches (Shifted a b)) s.annotated t.annotated

/-- From aligned states, both computations give results that are related by `Q` and end in aligned
states, or both end in the same fault. -/
def Relates {α β : Type} (a b : Nat) (Q : α → β → Prop) (x : Normalize α) (y : Normalize β) :
    Prop :=
  ∀ s t, Aligned a b s t →
    match x.run s, y.run t with
    | .ok (u, s'), .ok (v, t') => Q u v ∧ Aligned a b s' t'
    | .error e, .error e' => e = e'
    | _, _ => False

section
variable {α α' β β' : Type} {a b : Nat} {P : α → α' → Prop} {Q : β → β' → Prop}

namespace Relates

/-- Related results on the spot, from aligned states. -/
protected theorem pure {u : α} {v : α'} (h : P u v) : Relates a b P (pure u) (pure v) :=
  fun _ _ hst => ⟨h, hst⟩

/-- The same fault on both sides. -/
protected theorem throw {e : ValidationFault} :
    Relates a b P (throw e : Normalize α) (throw e : Normalize α') := fun _ _ _ => rfl

/-- What follows starts from aligned states again. If one side fails the other one does, with the
same fault, and nothing follows on either. -/
protected theorem bind {x : Normalize α} {y : Normalize α'} {f : α → Normalize β}
    {g : α' → Normalize β'} (hxy : Relates a b P x y)
    (hfg : ∀ u v, P u v → Relates a b Q (f u) (g v)) : Relates a b Q (x >>= f) (y >>= g) := by
  intro s t hst
  have h := hxy s t hst
  rw [StateT.run_bind, StateT.run_bind]
  rcases hx : x.run s with e | ⟨u, s'⟩ <;> rcases hy : y.run t with e' | ⟨v, t'⟩ <;>
    rw [hx, hy] at h
  · exact h
  · exact h.elim
  · exact h.elim
  · exact hfg u v h.1 s' t' h.2

end Relates

/-- A node is taken from both budgets, or both are exceeded. -/
theorem reserve_relates (limit : Nat) :
    Relates a b (fun _ _ => True) (reserve limit) (reserve limit) := by
  rintro ⟨next, remaining, as⟩ ⟨next', _, bs⟩ ⟨hnext, rfl, has⟩
  cases remaining with
  | zero => exact rfl
  | succ n => exact ⟨trivial, hnext, rfl, has⟩

/-- Copies of two nodes are made under corresponding identities. -/
theorem copy_relates {R : TripleExpr → TripleExpr → Prop} {m m' : TripleMark}
    {make make' : TripleMark → TripleExpr}
    (h : ∀ i j, Shifted a b i j → R (make (m.copy i)) (make' (m'.copy j))) :
    Relates a b R (copy m make) (copy m' make') :=
  fun _ _ hst => ⟨h _ _ hst.next, hst.next.next, hst.remaining, hst.annotated⟩

variable {A : TripleConstraint → TripleConstraint → Prop}
  (hA : ∀ c d, A c d → Shifted a b c.id d.id)
include hA

/-- Copies are recorded for nodes with the same actions, with corresponding constraints. -/
theorem record_relates {m m' : Mark} (hm : m.ActsAs m') {e e' : TripleExpr}
    (he : Corresponds A e e') :
    Relates a b (Corresponds A) (do record m e; return e) (do record m' e'; return e') :=
  fun _ _ hst => ⟨he, hst.next, hst.remaining,
    Annotated.record_matches hst.annotated (he.constraintIds hA) hm⟩

omit hA

/-- As many copies are made on both sides, by induction on their number. -/
theorem replicate_relates {make make' : Normalize TripleExpr}
    (hmake : Relates a b (Corresponds A) make make') :
    ∀ (n : Nat) {acc acc' : List TripleExpr}, List.Forall₂ (Corresponds A) acc acc' →
      Relates a b (List.Forall₂ (Corresponds A)) (replicate make n acc) (replicate make' n acc')
  | 0, _, _, hacc => .pure hacc
  | n + 1, _, _, hacc => hmake.bind fun _ _ hf => replicate_relates hmake n (.cons hf hacc)

/-- Corresponding copies are put under the same cardinality. -/
theorem wrapAll_relates {m m' : TripleMark} (hm : m.source.ActsAs m'.source) (c : Cardinality)
    {es es' : List TripleExpr} (h : List.Forall₂ (Corresponds A) es es') :
    Relates a b (List.Forall₂ (Corresponds A)) (wrapAll m c es) (wrapAll m' c es') := by
  induction h with
  | nil => exact .pure .nil
  | cons he _ ih =>
    rw [wrapAll, wrapAll]
    have hwrap : Relates a b (Corresponds A) (copy m (.repeated · _ c))
        (copy m' (.repeated · _ c)) :=
      copy_relates fun _ _ _ => .repeated hm he
    refine hwrap.bind fun w w' hw => ?_
    exact ih.bind fun ws ws' hws => .pure (.cons hw hws)

/-- Repetitions of the same kind are kept or written out in the same way. What this depends on is
the structure of the first copy, the cardinality and the bound that is left. -/
theorem unroll_relates {make make' : Normalize TripleExpr}
    (hmake : Relates a b (Corresponds A) make make') {m m' : TripleMark}
    (hm : m.source.ActsAs m'.source) (limit : Nat) (c : Cardinality) :
    Relates a b (Corresponds A) (unroll limit m make c) (unroll limit m' make' c) := by
  unfold unroll
  refine hmake.bind fun first first' hfirst => ?_
  rw [← hfirst.isConstraint_eq, ← hfirst.matchesEmpty_eq]
  split
  · exact copy_relates fun i j _ => .repeated hm hfirst
  split
  · exact .pure hfirst
  generalize copies c = n
  obtain ⟨plain, tail⟩ := n
  have hget : Relates a b (fun s t : Normalizing => s.remaining = t.remaining) get get :=
    fun _ _ hst => ⟨hst.remaining, hst⟩
  refine hget.bind fun s t hst => ?_
  rw [hst]
  split
  · exact .throw
  · refine (replicate_relates hmake _ (.cons hfirst .nil)).bind fun fs fs' hfs => ?_
    have hpieces := List.rel_reverse hfs
    refine (wrapAll_relates hm _ (List.forall₂_drop plain hpieces)).bind fun ws ws' hws => ?_
    refine copy_relates fun i j _ => .eachOf hm (allCorrespond_iff.2 ?_)
    exact List.rel_append (List.forall₂_take plain hpieces) hws

variable {B : TripleConstraint → TripleConstraint → Prop} {limit : Nat}
  {resolve resolve' : Label → Normalize TripleExpr}

mutual

/-- Two expressions of the same structure are copied in the same way. The relation between their
constraints may change on the way, from `B` to `A`, since copies have new identities. -/
theorem expr_relates (hA : ∀ c d, A c d → Shifted a b c.id d.id)
    (hB : ∀ c d i j, B c d → Shifted a b i j →
      A ⟨c.mark.copy i, c.arc, c.value⟩ ⟨d.mark.copy j, d.arc, d.value⟩)
    (hresolve : ∀ l, Relates a b (Corresponds A) (resolve l) (resolve' l)) :
    ∀ {e e' : TripleExpr}, Corresponds B e e' →
      Relates a b (Corresponds A) (expr limit resolve e) (expr limit resolve' e')
  | _, _, .eachOf hm hes => by
    rw [expr, expr]
    refine (reserve_relates limit).bind fun _ _ _ => ?_
    refine (exprs_relates hA hB hresolve hes).bind fun fs fs' hfs => ?_
    exact (copy_relates fun i j _ => .eachOf hm (allCorrespond_iff.2 hfs)).bind fun f f' hf =>
      record_relates hA hm hf
  | _, _, .oneOf hm hes => by
    rw [expr, expr]
    refine (reserve_relates limit).bind fun _ _ _ => ?_
    refine (exprs_relates hA hB hresolve hes).bind fun fs fs' hfs => ?_
    exact (copy_relates fun i j _ => .oneOf hm (allCorrespond_iff.2 hfs)).bind fun f f' hf =>
      record_relates hA hm hf
  | _, _, .repeated hm he => by
    rw [expr, expr]
    refine (reserve_relates limit).bind fun _ _ _ => ?_
    exact (unroll_relates (expr_relates hA hB hresolve he) hm limit _).bind fun f f' hf =>
      record_relates hA hm hf
  | _, _, .constraint hm h => by
    rw [expr, expr]
    refine (reserve_relates limit).bind fun _ _ _ => ?_
    exact (copy_relates fun i j hij => .constraint hm (hB _ _ i j h hij)).bind fun f f' hf =>
      record_relates hA hm hf
  | _, _, .ref hm => by
    rw [expr, expr]
    exact (hresolve _).bind fun f f' hf => record_relates hA hm hf
  | _, _, .empty hm => by
    rw [expr, expr]
    refine (reserve_relates limit).bind fun _ _ _ => ?_
    exact (copy_relates fun i j _ => .empty hm).bind fun f f' hf => record_relates hA hm hf

/-- The same for the parts of a group or a choice. -/
theorem exprs_relates (hA : ∀ c d, A c d → Shifted a b c.id d.id)
    (hB : ∀ c d i j, B c d → Shifted a b i j →
      A ⟨c.mark.copy i, c.arc, c.value⟩ ⟨d.mark.copy j, d.arc, d.value⟩)
    (hresolve : ∀ l, Relates a b (Corresponds A) (resolve l) (resolve' l)) :
    ∀ {es es' : List TripleExpr}, AllCorrespond B es es' →
      Relates a b (List.Forall₂ (Corresponds A)) (exprs limit resolve es) (exprs limit resolve' es')
  | _, _, .nil => .pure .nil
  | _, _, .cons he hes => by
    rw [exprs, exprs]
    refine (expr_relates hA hB hresolve he).bind fun f f' hf => ?_
    exact (exprs_relates hA hB hresolve hes).bind fun fs fs' hfs => .pure (.cons hf hfs)

end

/-- References are resolved in the same way in schemas whose labelled expressions have the same
structure. -/
theorem resolve_relates {S S' : Schema} (hA : ∀ c d, A c d → Shifted a b c.id d.id)
    (hB : ∀ c d i j, B c d → Shifted a b i j →
      A ⟨c.mark.copy i, c.arc, c.value⟩ ⟨d.mark.copy j, d.arc, d.value⟩)
    (hS : ∀ l, Option.Rel (Corresponds B) (S.tripleExpr? l) (S'.tripleExpr? l)) :
    ∀ (depth : Nat) (path : List Label) (l : Label),
      Relates a b (Corresponds A) (Normalize.resolve S limit depth path l)
        (Normalize.resolve S' limit depth path l) := by
  intro depth
  induction depth with
  | zero =>
    intro path l
    have hl := hS l
    rw [Normalize.resolve.eq_def, Normalize.resolve.eq_def S']
    simp only
    split
    · exact .throw
    · revert hl
      generalize S.tripleExpr? l = o
      generalize S'.tripleExpr? l = o'
      rintro (_ | _) <;> exact .throw
  | succ depth ih =>
    intro path l
    have hl := hS l
    rw [Normalize.resolve.eq_def, Normalize.resolve.eq_def S']
    simp only
    split
    · exact .throw
    · revert hl
      generalize S.tripleExpr? l = o
      generalize S'.tripleExpr? l = o'
      rintro (he | _)
      · exact expr_relates hA hB (ih (l :: path)) he
      · exact .throw

end

end Normalize

/-- Expressions of the same structure that are both copied have forms of the same structure, or
there is the same fault. -/
theorem TripleExpr.normalize_relates {S S' : Schema} {i j : ExprId}
    {A B : TripleConstraint → TripleConstraint → Prop}
    (hA : ∀ c d, A c d → Shifted i.index j.index c.id d.id)
    (hB : ∀ c d k k', B c d → Shifted i.index j.index k k' →
      A ⟨c.mark.copy k, c.arc, c.value⟩ ⟨d.mark.copy k', d.arc, d.value⟩)
    (hS : ∀ l, Option.Rel (Corresponds B) (S.tripleExpr? l) (S'.tripleExpr? l))
    (hsize : S.tripleExprs.size = S'.tripleExprs.size) {e e' : TripleExpr}
    (h : Corresponds B e e') (hcopied : e.isSorbe = false) (hcopied' : e'.isSorbe = false)
    (limit : Nat) :
    match e.normalize S limit i, e'.normalize S' limit j with
    | .ok f, .ok g => Form.Corresponds A (Shifted i.index j.index) f g
    | .error x, .error y => x = y
    | _, _ => False := by
  have hstart : Normalize.Aligned i.index j.index ⟨i, limit, []⟩ ⟨j, limit, []⟩ :=
    ⟨⟨0, rfl, rfl⟩, rfl, .nil⟩
  have hrelates : Normalize.Relates i.index j.index (Corresponds A)
      (Normalize.expr limit (Normalize.resolve S limit S.tripleExprs.size []) e)
      (Normalize.expr limit (Normalize.resolve S' limit S.tripleExprs.size []) e') :=
    Normalize.expr_relates hA hB (Normalize.resolve_relates hA hB hS S.tripleExprs.size []) h
  have hrun := hrelates _ _ hstart
  unfold normalize
  rw [if_neg (by simp [hcopied]), if_neg (by simp [hcopied']), ← hsize]
  rcases hx : (Normalize.expr limit (Normalize.resolve S limit S.tripleExprs.size []) e).run
    ⟨i, limit, []⟩ with x | ⟨f, s⟩ <;>
  rcases hy : (Normalize.expr limit (Normalize.resolve S' limit S.tripleExprs.size []) e').run
    ⟨j, limit, []⟩ with y | ⟨g, t⟩ <;> rw [hx, hy] at hrun
  · exact hrun
  · exact hrun
  · exact hrun
  · exact ⟨hrun.1, hrun.2.annotated⟩

end Shex
