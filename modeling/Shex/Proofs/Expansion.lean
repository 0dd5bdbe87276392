import Shex.Proofs.Denotation
import Shex.Proofs.Inside
import Shex.Proofs.Wellformed
import Shex.Proofs.WritingOut

/-!
# Copies of expressions

A copy of an expression denotes the same bags as the expression, with references looked up in the
schema, and has the constraints that the expression has behind references
(`Normalize.CopyOf`). There is one lemma for each kind of node, and `Normalize.expr_meets` puts them
together by recursion on the expression. References are resolved by another recursion, which ends
since labelled triple expressions do not contain themselves (`Normalize.resolve_copies`).
-/

open scoped Pointwise

namespace Shex

namespace Schema

/-- A constraint with a mark, an arc and a value expression is met in an expression. -/
def HasSource (s : Schema) (e : TripleExpr) (m : Mark) (a : Arc) (v : Option ShapeExpr) : Prop :=
  ∃ via m', s.Inside via e (.constraint m' a v) ∧ m'.source = m

/-- No repetition that is met in an expression has the empty cardinality. -/
def AvoidsEmpty (s : Schema) (e : TripleExpr) : Prop :=
  ∀ via m x c, s.Inside via e (.repeated m x c) → c ≠ .empty

/-- No node that is met in an expression has semantic actions. -/
def IsActionFree (s : Schema) (e : TripleExpr) : Prop :=
  ∀ via x, s.Inside via e x → x.source.actions = []

end Schema

namespace Normalize

open TripleExpr

section
variable {α : Type} {atom : AtomLanguage α} {S : Schema} {F : ValidationFault → Prop}

/-- A copy of an expression of the schema was made. -/
def CopyOf (atom : AtomLanguage α) (S : Schema) (e : TripleExpr) :
    Normalizing → TripleExpr → Normalizing → Prop :=
  Copied atom (e.language atom (S.labelLanguage atom)) (S.HasSource e) (S.AvoidsEmpty e)
    (S.IsActionFree e)

/-- Copies of the expressions of a list were made. -/
structure CopiesOf (atom : AtomLanguage α) (S : Schema) (es : List TripleExpr) (s : Normalizing)
    (fs : List TripleExpr) (t : Normalizing) : Prop where
  copies : Copies (fun m a v => ∃ e ∈ es, S.HasSource e m a v) (∀ e ∈ es, S.AvoidsEmpty e)
    s.next.index t.next.index fs
  all : ∀ target, languageOfAll atom target fs = languageOfAll atom (S.labelLanguage atom) es
  any : ∀ target, languageOfAny atom target fs = languageOfAny atom (S.labelLanguage atom) es
  advances : Advances (∀ e ∈ es, S.IsActionFree e) s t

/-- A finished copy is recorded. -/
theorem recorded_meets {L : BagLanguage α} {src : Mark → Arc → Option ShapeExpr → Prop} {E A : Prop}
    {s t : Normalizing} {f : TripleExpr} (h : Copied atom L src E A s f t) {source : Mark}
    (hA : A → source.actions = []) :
    Meets t (do record source f; return f) (Copied atom L src E A s) F := by
  refine (record_meets source f).bind fun _ u ⟨hnext, hadv⟩ => Meets.pure ?_
  refine ⟨?_, h.language, h.advances.trans (hadv.imp hA)⟩
  rw [hnext]
  exact h.copies

/-- A node over copies is a copy. What has to be shown for each kind of node is that it can be
counted, that it has the constraints of its operands, and what it denotes; everything else carries
over. -/
theorem CopiesOf.node {es fs : List TripleExpr} {s₀ s t u : Normalizing}
    (h : CopiesOf atom S es s fs t) {e f : TripleExpr} (hs : s.next = s₀.next ∧
      s.annotated = s₀.annotated) (hu : u.next = t.next.next ∧ u.annotated = t.annotated)
    (hc : f.isCountable = true) (hcs : f.constraints = constraintsIn fs)
    (hf : allAvoidEmpty fs = true → f.avoidsEmpty = true)
    (hin : ∀ via x y, x ∈ es → S.Inside via x y → S.Inside via e y)
    (hsrc : ∀ m a v, (∃ x ∈ es, S.HasSource x m a v) ↔ S.HasSource e m a v)
    (hL : ∀ target, f.language atom target = e.language atom (S.labelLanguage atom)) :
    CopyOf atom S e s₀ f u := by
  have hE : S.AvoidsEmpty e → ∀ x ∈ es, S.AvoidsEmpty x := fun he x hx via m y c hy =>
    he via m y c (hin via x _ hx hy)
  have hA : S.IsActionFree e → ∀ x ∈ es, S.IsActionFree x := fun he x hx via y hy =>
    he via y (hin via x y hx hy)
  refine ⟨?_, hL, ?_⟩
  · have := h.copies.node hc hcs fun he => hf (h.copies.avoids (hE he))
    rw [hu.1, ← hs.1]
    exact (this.congr hsrc id).widen (Nat.le_refl _) (Nat.le_succ _)
  · refine ⟨?_, fun ha h0 => ?_⟩
    · rw [← hs.1, hu.1]
      exact Nat.le_trans h.advances.next_le (Nat.le_succ _)
    · rw [hu.2]
      exact h.advances.annotated (hA ha) (by rw [hs.2, h0])

/-- Copies of a list, one more of them in front. The first was made before the others, so its
identities are smaller than all of theirs. -/
theorem CopiesOf.cons {e f : TripleExpr} {es fs : List TripleExpr} {s t u : Normalizing}
    (hf : CopyOf atom S e s f t) (hfs : CopiesOf atom S es t fs u) :
    CopiesOf atom S (e :: es) s (f :: fs) u := by
  have hle := hf.advances.next_le
  have hle' := hfs.advances.next_le
  constructor
  · refine ((hf.copies.widen (Nat.le_refl _) hle').cons (hfs.copies.widen hle (Nat.le_refl _))
      fun c hc d hd => ?_).congr (by simp) (by simp)
    have h1 := (hf.copies.fresh c hc).2
    have h2 := (hfs.copies.fresh d hd).1
    intro h
    rw [h] at h1
    omega
  · intro target
    rw [languageOfAll, hf.language, hfs.all, languageOfAll]
  · intro target
    rw [languageOfAny, hf.language, hfs.any, languageOfAny]
  · exact (hf.advances.imp fun h => h e (by simp)).trans
      (hfs.advances.imp fun h x hx => h x (by simp [hx]))

/-- Of no operands there are no copies. -/
theorem CopiesOf.nil {s : Normalizing} : CopiesOf atom S [] s [] s :=
  ⟨Copies.nil.congr (by simp) (by simp), fun _ => rfl, fun _ => rfl, .refl s⟩

section
variable {limit : Nat} {resolve : Label → Normalize TripleExpr}

/-- A copy of what a label refers to was made. -/
def CopyOfLabel (atom : AtomLanguage α) (S : Schema) (l : Label) (s : Normalizing) (f : TripleExpr)
    (t : Normalizing) : Prop :=
  ∃ e, S.tripleExpr? l = some e ∧ CopyOf atom S e s f t

/-- References are replaced by copies of what they refer to. -/
def Resolves (atom : AtomLanguage α) (S : Schema) (F : ValidationFault → Prop)
    (resolve : Label → Normalize TripleExpr) (ls : List Label) : Prop :=
  ∀ l ∈ ls, ∀ s, Meets s (resolve l) (CopyOfLabel atom S l s) F

section
variable (hF : ∀ n, F (.limit (.expansion n)))
include hF

/-- A group is copied as the group of the copies of its members: it denotes the sums of what they
denote, and it can be counted if they can. -/
theorem eachOf_meets (m : TripleMark) {es : List TripleExpr}
    (hes : ∀ s, Meets s (exprs limit resolve es) (CopiesOf atom S es s) F) (s : Normalizing) :
    Meets s (expr limit resolve (.eachOf m es)) (CopyOf atom S (.eachOf m es) s) F := by
  rw [expr]
  refine (reserve_meets hF limit).bind fun _ s' hs => (hes s').bind fun fs t hfs => ?_
  refine (copy_meets m _).bind fun f u ⟨hf, hu⟩ => ?_
  subst hf
  refine recorded_meets (hfs.node hs hu ?_ ?_ ?_ (fun _ _ _ => .eachOf) ?_ ?_)
    fun h => h [] _ (.self _)
  · rw [isCountable]
    exact hfs.copies.countable
  · rw [constraints]
  · rw [avoidsEmpty]
    exact id
  · intro m' a v
    simp only [Schema.HasSource, Schema.inside_eachOf_constraint]
    grind
  · intro target
    rw [language_eachOf, hfs.all, language_eachOf]

/-- A choice is copied as the choice of the copies of its alternatives: it denotes what any of them
denotes, and it can be counted if they can. -/
theorem oneOf_meets (m : TripleMark) {es : List TripleExpr}
    (hes : ∀ s, Meets s (exprs limit resolve es) (CopiesOf atom S es s) F) (s : Normalizing) :
    Meets s (expr limit resolve (.oneOf m es)) (CopyOf atom S (.oneOf m es) s) F := by
  rw [expr]
  refine (reserve_meets hF limit).bind fun _ s' hs => (hes s').bind fun fs t hfs => ?_
  refine (copy_meets m _).bind fun f u ⟨hf, hu⟩ => ?_
  subst hf
  refine recorded_meets (hfs.node hs hu ?_ ?_ ?_ (fun _ _ _ => .oneOf) ?_ ?_)
    fun h => h [] _ (.self _)
  · rw [isCountable]
    exact hfs.copies.countable
  · rw [constraints]
  · rw [avoidsEmpty]
    exact id
  · intro m' a v
    simp only [Schema.HasSource, Schema.inside_oneOf_constraint]
    grind
  · intro target
    rw [language_oneOf, hfs.any, language_oneOf]

/-- A repetition is written out with copies of what it repeats (`unroll_meets`). -/
theorem repeated_meets (hatom : ∀ m a v, 0 ∉ atom m a v) (m : TripleMark) {e : TripleExpr}
    (he : ∀ s, Meets s (expr limit resolve e) (CopyOf atom S e s) F) (c : Cardinality)
    (s : Normalizing) :
    Meets s (expr limit resolve (.repeated m e c)) (CopyOf atom S (.repeated m e c) s) F := by
  rw [expr]
  refine (reserve_meets hF limit).bind fun _ s' ⟨hnext, hann⟩ => ?_
  refine (unroll_meets hatom hF he limit m c s').bind fun f t hf => ?_
  refine recorded_meets ⟨?_, fun target => ?_, ?_⟩ fun h => h [] _ (.self _)
  · rw [← hnext]
    refine hf.copies.congr (fun m' a v => ?_) fun h => ⟨h _ _ _ _ (.self _), ?_⟩
    · simp only [Schema.HasSource, Schema.inside_repeated_constraint]
    · exact fun via m' x c' hx => h via m' x c' (.repeated hx)
  · rw [hf.language, language_repeated]
  · have := hf.advances.imp (B := S.IsActionFree (.repeated m e c)) fun h via x hx =>
      h via x (.repeated hx)
    exact ⟨by rw [← hnext]; exact this.next_le, fun ha h0 => this.annotated ha (by rw [hann, h0])⟩

/-- A constraint is copied under a new identity, and reads as its source does. This is what the
hypothesis on readings is for: copies share with their sources what they denote. -/
theorem constraint_meets (hcopy : ∀ m id a v, atom (m.copy id) a v = atom m a v) (m : TripleMark)
    (a : Arc) (v : Option ShapeExpr) (s : Normalizing) :
    Meets s (expr limit resolve (.constraint m a v)) (CopyOf atom S (.constraint m a v) s) F := by
  rw [expr]
  refine (reserve_meets hF limit).bind fun _ s' ⟨hnext, hann⟩ => ?_
  refine (copy_meets m _).bind fun f u ⟨hf, hu, hann'⟩ => ?_
  subst hf
  refine recorded_meets ⟨?_, fun target => ?_, ?_⟩ fun h => h [] _ (.self _)
  · constructor
    · rfl
    · simp [constraintsIn, constraints]
    · simp [constraintsIn, constraints, hu, hnext, TripleConstraint.id, TripleMark.copy,
        ExprId.next]
    · simp [constraintsIn, constraints, Schema.HasSource, Schema.inside_constraint_constraint]
    · simp only [Schema.HasSource, Schema.inside_constraint_constraint]
      rintro m' a' v' ⟨_, _, ⟨rfl, rfl, rfl, rfl⟩, rfl⟩
      exact ⟨_, by simp [constraintsIn, constraints]; rfl, rfl, rfl, rfl⟩
    · exact fun _ => rfl
  · rw [language_constraint, language_constraint, hcopy]
  · exact ⟨by rw [hu, hnext]; exact Nat.le_succ _, fun _ h0 => by rw [hann', hann, h0]⟩

/-- The empty expression is copied as it is. -/
theorem empty_meets (m : TripleMark) (s : Normalizing) :
    Meets s (expr limit resolve (.empty m)) (CopyOf atom S (.empty m) s) F := by
  rw [expr]
  refine (reserve_meets hF limit).bind fun _ s' ⟨hnext, hann⟩ => ?_
  refine (copy_meets m _).bind fun f u ⟨hf, hu, hann'⟩ => ?_
  subst hf
  refine recorded_meets ⟨?_, fun target => ?_, ?_⟩ fun h => h [] _ (.self _)
  · refine (Copies.nil.node rfl (by simp [constraints, constraintsIn]) fun _ => rfl).congr
      (fun m' a v => ?_) fun _ => trivial
    simp [Schema.HasSource, Schema.inside_empty_constraint]
  · rw [language_empty, language_empty]
  · exact ⟨by rw [hu, hnext]; exact Nat.le_succ _, fun _ h0 => by rw [hann', hann, h0]⟩

end

/-- A copy of what a label refers to is a copy of the reference: both denote the same, and a
reference takes nothing from the budget. -/
theorem ref_meets {l : Label} {s : Normalizing}
    (hl : Meets s (resolve l) (CopyOfLabel atom S l s) F) (m : TripleMark) :
    Meets s (expr limit resolve (.ref m l)) (CopyOf atom S (.ref m l) s) F := by
  rw [expr]
  refine hl.bind fun f t ⟨e, hl, hf⟩ =>
    recorded_meets ⟨?_, fun target => ?_, ?_⟩ fun h => h [] _ (.self _)
  · refine hf.copies.congr (fun m' a v => ?_) fun h via m' x c hx => h _ m' x c (.ref hl hx)
    simp only [Schema.HasSource, Schema.inside_ref_constraint]
    constructor
    · rintro ⟨via, m', hx, hm⟩
      exact ⟨l :: via, m', ⟨e, via, hl, rfl, hx⟩, hm⟩
    · rintro ⟨_, m', ⟨e', via, hl', rfl, hx⟩, hm⟩
      cases hl.symm.trans hl'
      exact ⟨via, m', hx, hm⟩
  · rw [hf.language, language_ref, Schema.labelLanguage_eq hl]
  · exact hf.advances.imp fun h via x hx => h _ x (.ref hl hx)

mutual

/-- A copy of an expression is made, or there is a fault because a bound is not kept or a reference
is not resolved. -/
theorem expr_meets (hcopy : ∀ m id a v, atom (m.copy id) a v = atom m a v)
    (hatom : ∀ m a v, 0 ∉ atom m a v) (hF : ∀ n, F (.limit (.expansion n))) :
    ∀ {e : TripleExpr}, Resolves atom S F resolve e.refs → ∀ s,
      Meets s (expr limit resolve e) (CopyOf atom S e s) F
  | .eachOf m _, hr, s => eachOf_meets hF m (exprs_meets hcopy hatom hF (by rwa [refs] at hr)) s
  | .oneOf m _, hr, s => oneOf_meets hF m (exprs_meets hcopy hatom hF (by rwa [refs] at hr)) s
  | .repeated m _ c, hr, s =>
    repeated_meets hF hatom m (expr_meets hcopy hatom hF (by rwa [refs] at hr)) c s
  | .constraint m a v, _, s => constraint_meets hF hcopy m a v s
  | .ref m l, hr, s => ref_meets (hr l (by simp [refs]) s) m
  | .empty m, _, s => empty_meets hF m s

/-- The same for the operands of a node: their copies have identities one range after the other. -/
theorem exprs_meets (hcopy : ∀ m id a v, atom (m.copy id) a v = atom m a v)
    (hatom : ∀ m a v, 0 ∉ atom m a v) (hF : ∀ n, F (.limit (.expansion n))) :
    ∀ {es : List TripleExpr}, Resolves atom S F resolve (refsIn es) → ∀ s,
      Meets s (exprs limit resolve es) (CopiesOf atom S es s) F
  | [], _, s => Meets.pure .nil
  | e :: es, hr, s => by
    rw [refsIn] at hr
    rw [exprs]
    refine (expr_meets hcopy hatom hF (fun l hl => hr l (List.mem_append_left _ hl)) s).bind
      fun f t hf => ?_
    refine (exprs_meets hcopy hatom hF (fun l hl => hr l (List.mem_append_right _ hl)) t).bind
      fun fs u hfs => Meets.pure (.cons hf hfs)

end

end

/-- No label that is resolved is met again inside itself, and so the depth is enough. The path has
the labels that are being resolved, each once, and an acyclic schema leads to none of them again. -/
theorem resolve_meets (hcopy : ∀ m id a v, atom (m.copy id) a v = atom m a v)
    (hatom : ∀ m a v, 0 ∉ atom m a v) (hF : ∀ n, F (.limit (.expansion n))) (hres : S.IsResolved)
    (hacyc : S.IsAcyclic) (limit : Nat) :
    ∀ {depth : Nat} {path : List Label} {l : Label} {e : TripleExpr}, S.tripleExpr? l = some e →
      path.Nodup → (∀ p ∈ path, Relation.TransGen S.Contains p l) →
      path.length + depth = S.tripleExprs.size → ∀ s,
      Meets s (resolve S limit depth path l) (CopyOf atom S e s) F := by
  intro depth
  induction depth with
  | zero =>
    intro path l e hl hnd hpath hsize
    -- A path of all labels has no room for one more.
    have hsub : ∀ x ∈ l :: path, x ∈ S.tripleExprs.keys := by
      rintro x hx
      rw [← Table.get?_isSome_iff]
      rcases List.mem_cons.1 hx with rfl | hx
      · exact Option.isSome_iff_exists.2 ⟨e, hl⟩
      · obtain ⟨y, ⟨e', he', _⟩, _⟩ := Relation.TransGen.head'_iff.1 (hpath x hx)
        exact Option.isSome_iff_exists.2 ⟨e', he'⟩
    have hnd' : (l :: path).Nodup := List.nodup_cons.2 ⟨fun h => hacyc l (hpath l h), hnd⟩
    have hlen := (hnd'.subperm hsub).length_le
    rw [List.length_cons] at hlen
    simp only [Table.keys, List.length_map, Table.size] at hlen hsize
    omega
  | succ depth ih =>
    intro path l e hl hnd hpath hsize s
    have hmem : l ∉ path := fun h => hacyc l (hpath l h)
    have hstep : resolve S limit (depth + 1) path l =
        expr limit (resolve S limit depth (l :: path)) e := by
      have hcont : path.contains l = false := by simpa using hmem
      rw [resolve.eq_def]
      simp only [hcont, hl, Bool.false_eq_true, if_false]
    rw [hstep]
    refine expr_meets hcopy hatom hF (fun l' hl' s' => ?_) s
    obtain ⟨e', he'⟩ := hres l e hl l' hl'
    refine (ih he' (List.nodup_cons.2 ⟨hmem, hnd⟩) (fun p hp => ?_) (by simp; omega) s').imp
      fun f t hf => ⟨e', he', hf⟩
    have hedge : Relation.TransGen S.Contains l l' := .single ⟨e, hl, hl'⟩
    rcases List.mem_cons.1 hp with rfl | hp
    · exact hedge
    · exact (hpath p hp).trans hedge

/-- Where a reference is resolved at all, it is replaced by a copy of what it refers to. Nothing is
assumed of the schema here: a reference into a cycle runs out of depth, and ends in a fault. -/
theorem resolve_copies (hcopy : ∀ m id a v, atom (m.copy id) a v = atom m a v)
    (hatom : ∀ m a v, 0 ∉ atom m a v) (limit : Nat) :
    ∀ (depth : Nat) (path : List Label) (l : Label) (s : Normalizing),
      Meets s (resolve S limit depth path l) (CopyOfLabel atom S l s) fun _ => True := by
  intro depth
  induction depth with
  | zero =>
    intro path l s
    rw [resolve.eq_def]
    simp only
    split
    · exact .throw trivial
    · cases S.tripleExpr? l <;> exact .throw trivial
  | succ depth ih =>
    intro path l s
    rw [resolve.eq_def]
    simp only
    split
    · exact .throw trivial
    · cases hl : S.tripleExpr? l with
      | none => exact .throw trivial
      | some e =>
        exact (expr_meets hcopy hatom (fun _ => trivial) (fun l' _ => ih (l :: path) l') s).imp
          fun f t hf => ⟨e, hl, hf⟩

end

end Normalize

end Shex
