import Mathlib.Data.List.Forall2
import Shex.Proofs.Counting
import Shex.Sorbe.Normalize

/-!
# Repetitions that are written out

Normalization writes a repeated group out: as copies of the group, each made anew, of which the last
may be under a cardinality of its own. What the copies of an expression have to do with it is
`Normalize.Copies`: their constraints, and how many nodes they take from the budget. The
group that is made of them denotes the repetition (`Normalize.unroll_meets`), for any way to make
one copy, so the recursion of normalization is not yet needed here.
-/

open scoped Pointwise

namespace Shex

/-- A fault that says that a bound was not kept. -/
def ValidationFault.IsLimit (f : ValidationFault) : Prop := ∃ l, f = .limit l

/-- A fault that says that the bound on normalized expressions was not kept. -/
def ValidationFault.IsExpansion (f : ValidationFault) : Prop := ∃ n, f = .limit (.expansion n)

/-- Running out of the budget for expansions is exceeding a limit. -/
theorem ValidationFault.IsExpansion.isLimit {f : ValidationFault} (h : f.IsExpansion) :
    f.IsLimit := by
  obtain ⟨n, rfl⟩ := h
  exact ⟨_, rfl⟩

namespace Normalize

open TripleExpr

section
variable {α β : Type} {F : ValidationFault → Prop} {s : Normalizing}

/-- From the state `s` the computation gives a result and a state that meet `Q`, or a fault that
meets `F`. -/
def Meets (s : Normalizing) (x : Normalize α) (Q : α → Normalizing → Prop)
    (F : ValidationFault → Prop) : Prop :=
  match x.run s with
  | .ok (a, t) => Q a t
  | .error f => F f

namespace Meets

variable {x : Normalize α} {f : α → Normalize β} {P Q : α → Normalizing → Prop}
  {R : β → Normalizing → Prop}

/-- A result on the spot, in the state that is there. -/
protected theorem pure {a : α} (h : Q a s) : Meets s (pure a) Q F := h

/-- A fault on the spot. -/
protected theorem throw {e : ValidationFault} (h : F e) : Meets s (throw e : Normalize α) Q F := h

/-- What the first computation leaves, result and state, is what the second starts from. -/
protected theorem bind (hx : Meets s x P F) (hf : ∀ a t, P a t → Meets t (f a) R F) :
    Meets s (x >>= f) R F := by
  unfold Meets at hx ⊢
  rw [StateT.run_bind]
  rcases hr : x.run s with e | ⟨a, t⟩
  · rw [hr] at hx
    exact hx
  · rw [hr] at hx
    exact hf a t hx

/-- A weaker conclusion about results and states. Faults keep theirs. -/
theorem imp (h : Meets s x P F) (hPQ : ∀ a t, P a t → Q a t) : Meets s x Q F := by
  unfold Meets at h ⊢
  rcases hr : x.run s with e | ⟨a, t⟩
  · rw [hr] at h
    exact h
  · rw [hr] at h
    exact hPQ a t h

end Meets

/-- How the state of normalization moves on: identities are used up, and as long as there are no
semantic actions, none are recorded. -/
structure Advances (A : Prop) (s t : Normalizing) : Prop where
  next_le : s.next.index ≤ t.next.index
  annotated : A → s.annotated = [] → t.annotated = []

/-- Doing nothing is no move. -/
theorem Advances.refl {A : Prop} (s : Normalizing) : Advances A s s := ⟨Nat.le_refl _, fun _ h => h⟩

/-- Moves follow each other. -/
theorem Advances.trans {A : Prop} {s t u : Normalizing} (h : Advances A s t)
    (h' : Advances A t u) : Advances A s u :=
  ⟨Nat.le_trans h.next_le h'.next_le, fun ha hs => h'.annotated ha (h.annotated ha hs)⟩

/-- A stronger condition for there being no actions promises less. -/
theorem Advances.imp {A B : Prop} {s t : Normalizing} (h : Advances A s t) (hBA : B → A) :
    Advances B s t := ⟨h.next_le, fun hb => h.annotated (hBA hb)⟩

/-- A node is taken from the budget, or the budget is exceeded. Identities and records stay as they
are, and of the budget nothing is said: what it bounds is said separately, of the size of the
result. -/
theorem reserve_meets (hF : ∀ n, F (.limit (.expansion n))) (limit : Nat) :
    Meets s (reserve limit) (fun _ t => t.next = s.next ∧ t.annotated = s.annotated) F := by
  obtain ⟨next, remaining, annotated⟩ := s
  cases remaining with
  | zero => exact hF _
  | succ n => exact ⟨rfl, rfl⟩

/-- A copy takes the next identity and nothing else. It never fails. -/
theorem copy_meets (m : TripleMark) (make : TripleMark → TripleExpr) :
    Meets s (copy m make) (fun f t => f = make (m.copy s.next) ∧ t.next = s.next.next ∧
      t.annotated = s.annotated) F := ⟨rfl, rfl, rfl⟩

/-- Recording the actions of a node uses no identity, and adds nothing if there are none. -/
theorem record_meets (source : Mark) (e : TripleExpr) :
    Meets s (record source e) (fun _ t => t.next = s.next ∧ Advances (source.actions = []) s t)
      F := by
  refine ⟨rfl, Nat.le_refl _, fun ha hs => ?_⟩
  simp [Annotated.record, ha, hs]

end

/-! ### Copies -/

/-- The expressions of a list are countable copies with constraints of their own, under identities
from `lo` up to `hi`. `src` says what the constraints are copies of, and `E` that nothing copied has
the empty cardinality. -/
structure Copies (src : Mark → Arc → Option ShapeExpr → Prop) (E : Prop) (lo hi : Nat)
    (fs : List TripleExpr) : Prop where
  countable : allCountable fs = true
  nodup : ((constraintsIn fs).map TripleConstraint.id).Nodup
  fresh : ∀ c ∈ constraintsIn fs, lo ≤ c.id.index ∧ c.id.index < hi
  sources : ∀ c ∈ constraintsIn fs, src c.mark.source c.arc c.value
  complete : ∀ m a v, src m a v →
    ∃ c ∈ constraintsIn fs, c.mark.source = m ∧ c.arc = a ∧ c.value = v
  avoids : E → allAvoidEmpty fs = true

namespace Copies

variable {src src' : Mark → Arc → Option ShapeExpr → Prop} {E E' : Prop} {lo hi lo' hi' : Nat}
  {f : TripleExpr} {fs : List TripleExpr}

/-- Of nothing no copies are needed. -/
theorem nil : Copies (fun _ _ _ => False) True lo hi [] := by
  constructor <;> simp [allCountable, constraintsIn, allAvoidEmpty]

/-- Copies may be said to lie in a larger range of identities. -/
theorem widen (h : Copies src E lo hi fs) (hlo : lo' ≤ lo) (hhi : hi ≤ hi') :
    Copies src E lo' hi' fs :=
  { h with fresh := fun c hc => ⟨by have := h.fresh c hc; omega, by have := h.fresh c hc; omega⟩ }

/-- The sources and the condition may be stated in other words. -/
theorem congr (h : Copies src E lo hi fs) (hsrc : ∀ m a v, src m a v ↔ src' m a v) (hE : E' → E) :
    Copies src' E' lo hi fs :=
  { h with
    sources := fun c hc => (hsrc _ _ _).1 (h.sources c hc)
    complete := fun m a v hm => h.complete m a v ((hsrc m a v).2 hm)
    avoids := fun he => h.avoids (hE he) }

/-- Copies of one expression come before copies of others. Only that no constraint is in both has to
be shown; where copies are made one after the other it follows from their ranges of identities. -/
theorem cons (hf : Copies src E lo hi [f]) (hfs : Copies src' E' lo hi fs)
    (hne : ∀ c ∈ constraintsIn [f], ∀ d ∈ constraintsIn fs, c.id ≠ d.id) :
    Copies (fun m a v => src m a v ∨ src' m a v) (E ∧ E') lo hi (f :: fs) := by
  have happ : constraintsIn (f :: fs) = constraintsIn [f] ++ constraintsIn fs := by
    simp [constraintsIn]
  constructor
  · have := hf.countable
    have := hfs.countable
    simp_all [allCountable]
  · rw [happ, List.map_append, List.nodup_append]
    refine ⟨hf.nodup, hfs.nodup, fun x hx y hy => ?_⟩
    obtain ⟨c, hc, rfl⟩ := List.mem_map.1 hx
    obtain ⟨d, hd, rfl⟩ := List.mem_map.1 hy
    exact hne c hc d hd
  · rw [happ, List.forall_mem_append]
    exact ⟨hf.fresh, hfs.fresh⟩
  · rw [happ, List.forall_mem_append]
    exact ⟨fun c hc => .inl (hf.sources c hc), fun c hc => .inr (hfs.sources c hc)⟩
  · rw [happ]
    rintro m a v (h | h)
    · obtain ⟨c, hc, heq⟩ := hf.complete m a v h
      exact ⟨c, List.mem_append_left _ hc, heq⟩
    · obtain ⟨c, hc, heq⟩ := hfs.complete m a v h
      exact ⟨c, List.mem_append_right _ hc, heq⟩
  · rintro ⟨he, he'⟩
    have := hf.avoids he
    have := hfs.avoids he'
    simp_all [allAvoidEmpty]

/-- A node over the copies has their constraints, and so all that is known of these. -/
theorem node (h : Copies src E lo hi fs) (hc : f.isCountable = true)
    (hcs : f.constraints = constraintsIn fs) (hf : E' → f.avoidsEmpty = true) :
    Copies src E' lo hi [f] := by
  have happ : constraintsIn [f] = constraintsIn fs := by simp [constraintsIn, hcs]
  constructor
  · simp [allCountable, hc]
  · rw [happ]
    exact h.nodup
  · rw [happ]
    exact h.fresh
  · rw [happ]
    exact h.sources
  · rw [happ]
    exact h.complete
  · intro he
    simp [allAvoidEmpty, hf he]

end Copies

/-! ### Repetitions that are written out -/

section
variable {α : Type} {atom : AtomLanguage α} {L : BagLanguage α} {F : ValidationFault → Prop}
  {src : Mark → Arc → Option ShapeExpr → Prop} {E A : Prop}

/-- Every expression of a list denotes the bags of a language. -/
def AllDenote (atom : AtomLanguage α) (L : BagLanguage α) (fs : List TripleExpr) : Prop :=
  ∀ f ∈ fs, ∀ target, f.language atom target = L

/-- One copy was made. -/
structure Copied (atom : AtomLanguage α) (L : BagLanguage α)
    (src : Mark → Arc → Option ShapeExpr → Prop) (E A : Prop) (s : Normalizing) (f : TripleExpr)
    (t : Normalizing) : Prop where
  copies : Copies src E s.next.index t.next.index [f]
  language : ∀ target, f.language atom target = L
  advances : Advances A s t

/-- Several copies of one expression were made, from a state with the identity `lo`. -/
structure CopiedOften (atom : AtomLanguage α) (L : BagLanguage α)
    (src : Mark → Arc → Option ShapeExpr → Prop) (E : Prop) (lo n : Nat) (fs : List TripleExpr)
    (t : Normalizing) : Prop where
  copies : Copies src E lo t.next.index fs
  language : AllDenote atom L fs
  length : fs.length = n
  lo_le : lo ≤ t.next.index

/-- A group of `n` expressions with the same bags has the `n`-fold sums of them. -/
theorem languageOfAll_of_allDenote {fs : List TripleExpr} (h : AllDenote atom L fs)
    {target : Label → BagLanguage α} : languageOfAll atom target fs = L.times fs.length := by
  induction fs with
  | nil => rfl
  | cons f fs ih =>
    rw [languageOfAll, h f (by simp), ih fun g hg => h g (by simp [hg]), List.length_cons,
      BagLanguage.times_succ]

/-- Further copies are put in front of those made before. Their identities are later ones, so the
constraints of all of them together still have identities of their own. -/
theorem replicate_meets {make : Normalize TripleExpr}
    (hmake : ∀ s, Meets s make (Copied atom L src E A s) F) {lo : Nat} :
    ∀ {n k : Nat} {acc : List TripleExpr} {s : Normalizing},
      CopiedOften atom L src E lo k acc s →
      Meets s (replicate make n acc)
        (fun fs t => CopiedOften atom L src E lo (n + k) fs t ∧ Advances A s t) F
  | 0, k, acc, s, hacc => Meets.pure ⟨by rwa [Nat.zero_add], .refl s⟩
  | n + 1, k, acc, s, hacc => by
    rw [replicate]
    refine (hmake s).bind fun f t hf => ?_
    have hle := hf.advances.next_le
    have hcons : CopiedOften atom L src E lo (k + 1) (f :: acc) t := by
      constructor
      · refine ((hf.copies.widen hacc.lo_le (Nat.le_refl _)).cons
          (hacc.copies.widen (Nat.le_refl _) hle) fun c hc d hd => ?_).congr
            (fun m a v => or_self_iff) fun h => ⟨h, h⟩
        have h1 := (hf.copies.fresh c hc).1
        have h2 := (hacc.copies.fresh d hd).2
        intro h
        rw [h] at h1
        omega
      · exact List.forall_mem_cons.2 ⟨hf.language, hacc.language⟩
      · rw [List.length_cons, hacc.length]
      · exact Nat.le_trans hacc.lo_le hle
    refine (replicate_meets hmake (n := n) hcons).imp fun fs u h => ⟨?_, hf.advances.trans h.2⟩
    have := h.1
    rwa [show n + (k + 1) = n + 1 + k by omega] at this

/-- Every expression of a list is put under a cardinality. The nodes that are made for it have no
actions, so that nothing is recorded for them. -/
theorem wrapAll_meets (m : TripleMark) (c : Cardinality) :
    ∀ {es : List TripleExpr} {s : Normalizing},
      Meets s (wrapAll m c es)
        (fun ws t => List.Forall₂ (fun e w => ∃ m', w = .repeated m' e c) es ws ∧ Advances True s t)
        F
  | [], s => Meets.pure ⟨.nil, .refl s⟩
  | e :: es, s => by
    rw [wrapAll]
    refine (copy_meets m _).bind fun w t ⟨hw, hnext, hann⟩ => ?_
    refine (@wrapAll_meets m c es t).bind fun ws u ⟨hws, hadv⟩ => Meets.pure ?_
    refine ⟨.cons ⟨_, hw⟩ hws, Advances.trans ⟨?_, fun _ => by rw [hann]; exact id⟩ hadv⟩
    rw [hnext]
    exact Nat.le_succ _

end

/-- What wrapped expressions have in common with the expressions. -/
theorem constraintsIn_wrapped {c : Cardinality} {es ws : List TripleExpr}
    (h : List.Forall₂ (fun e w => ∃ m', w = .repeated m' e c) es ws) :
    constraintsIn ws = constraintsIn es := by
  induction h with
  | nil => rfl
  | cons h _ ih =>
    obtain ⟨m', rfl⟩ := h
    rw [constraintsIn, constraintsIn, ih, constraints]

/-- When a cardinality keeps its body countable: over a constraint always, otherwise for `?`, `*`,
`+` and the empty one, except for `+` over what matches the empty bag. -/
theorem isCountable_repeated {m : TripleMark} {f : TripleExpr} {c : Cardinality}
    (hf : f.isCountable = true)
    (hc : f.isConstraint = true ∨
      (c.isStandard || c.isEmpty) = true ∧ ¬ (c = .plus ∧ f.matchesEmpty = true)) :
    (repeated m f c).isCountable = true := by
  rw [isCountable, Bool.or_eq_true]
  refine hc.imp_right fun ⟨h, hplus⟩ => ?_
  have hne : ¬ (c = .plus) ∨ f.matchesEmpty = false :=
    (Classical.em (c = .plus)).symm.imp_right fun hc => by simpa [hc] using hplus
  rw [h, hf]
  simpa using hne

section
variable {α : Type} {atom : AtomLanguage α} {L : BagLanguage α} {F : ValidationFault → Prop}
  {src : Mark → Arc → Option ShapeExpr → Prop} {E A : Prop} {lo hi : Nat} {f : TripleExpr}

/-- A copy under a cardinality is a copy. -/
theorem Copies.repeated (h : Copies src E lo hi [f]) (m : TripleMark) {c : Cardinality}
    (hc : f.isConstraint = true ∨
      (c.isStandard || c.isEmpty) = true ∧ ¬ (c = .plus ∧ f.matchesEmpty = true)) :
    Copies src (c ≠ .empty ∧ E) lo hi [.repeated m f c] := by
  have hf : f.isCountable = true := by simpa [allCountable] using h.countable
  refine h.node (isCountable_repeated hf hc) ?_ fun ⟨hne, he⟩ => ?_
  · simp [constraints, constraintsIn]
  · have := h.avoids he
    simp_all [allAvoidEmpty, avoidsEmpty, Cardinality.isEmpty]

/-- What is wrapped is countable if what it is made of is. A `+` needs that what is under it does
not match the empty bag. -/
theorem allCountable_wrapped {c : Cardinality} {es ws : List TripleExpr}
    (h : List.Forall₂ (fun e w => ∃ m', w = .repeated m' e c) es ws)
    (hes : allCountable es = true) (hc : c.isStandard = true)
    (hplus : ∀ e ∈ es, ¬ (c = .plus ∧ e.matchesEmpty = true)) : allCountable ws = true := by
  induction h with
  | nil => rfl
  | cons h _ ih =>
    obtain ⟨m', rfl⟩ := h
    rw [allCountable, Bool.and_eq_true] at hes ⊢
    refine ⟨isCountable_repeated hes.1 (.inr ⟨?_, hplus _ (by simp)⟩),
      ih hes.2 fun e he => hplus e (by simp [he])⟩
    rw [hc, Bool.true_or]

/-- Wrapping in a cardinality that is not the empty one brings in no empty cardinality. -/
theorem allAvoidEmpty_wrapped {c : Cardinality} {es ws : List TripleExpr}
    (h : List.Forall₂ (fun e w => ∃ m', w = .repeated m' e c) es ws)
    (hes : allAvoidEmpty es = true) (hc : c ≠ .empty) : allAvoidEmpty ws = true := by
  induction h with
  | nil => rfl
  | cons h _ ih =>
    obtain ⟨m', rfl⟩ := h
    rw [allAvoidEmpty, Bool.and_eq_true] at hes ⊢
    refine ⟨?_, ih hes.2⟩
    rw [avoidsEmpty, hes.1]
    simpa [Cardinality.isEmpty] using hc

/-- Wrapped expressions have the bags of the repetition. -/
theorem allDenote_wrapped {c : Cardinality} {es ws : List TripleExpr}
    (h : List.Forall₂ (fun e w => ∃ m', w = .repeated m' e c) es ws) (hes : AllDenote atom L es) :
    AllDenote atom (L.repeated c) ws := by
  induction h with
  | nil => exact fun _ h => absurd h List.not_mem_nil
  | cons h _ ih =>
    obtain ⟨m', rfl⟩ := h
    refine List.forall_mem_cons.2 ⟨fun target => ?_, ih fun e he => hes e (by simp [he])⟩
    rw [language_repeated, hes _ (by simp)]

/-- The check of a list is the check of its elements, so that the parts of a list can be checked
apart. -/
theorem allCountable_eq_all (es : List TripleExpr) : allCountable es = es.all isCountable := by
  induction es with
  | nil => rfl
  | cons e es ih => rw [allCountable, ih, List.all_cons]

/-- The same for the absence of empty cardinalities. -/
theorem allAvoidEmpty_eq_all (es : List TripleExpr) : allAvoidEmpty es = es.all avoidsEmpty := by
  induction es with
  | nil => rfl
  | cons e es ih => rw [allAvoidEmpty, ih, List.all_cons]

/-- The constraints of a list, element by element, so that a list can be taken apart. -/
theorem constraintsIn_eq_flatMap (es : List TripleExpr) :
    constraintsIn es = es.flatMap constraints := by
  induction es with
  | nil => rfl
  | cons e es ih => rw [constraintsIn, ih, List.flatMap_cons]

/-- The order of copies does not matter. They are made last one first, and the group has them the
other way. -/
theorem Copies.reverse {fs : List TripleExpr} (h : Copies src E lo hi fs) :
    Copies src E lo hi fs.reverse := by
  have hperm : (constraintsIn fs.reverse).Perm (constraintsIn fs) := by
    rw [constraintsIn_eq_flatMap, constraintsIn_eq_flatMap]
    exact (List.reverse_perm fs).flatMap_right _
  constructor
  · rw [allCountable_eq_all, List.all_reverse, ← allCountable_eq_all]
    exact h.countable
  · exact (hperm.map _).nodup_iff.2 h.nodup
  · exact fun c hc => h.fresh c (hperm.mem_iff.1 hc)
  · exact fun c hc => h.sources c (hperm.mem_iff.1 hc)
  · intro m a v hm
    obtain ⟨c, hc, heq⟩ := h.complete m a v hm
    exact ⟨c, hperm.mem_iff.2 hc, heq⟩
  · rw [allAvoidEmpty_eq_all, List.all_reverse, ← allAvoidEmpty_eq_all]
    exact h.avoids

/-- A group of copies, the last of them under a cardinality of their own, is a copy. The constraints
are the same ones in the same order. -/
theorem Copies.group {fs ws : List TripleExpr} {k : Nat} {c : Cardinality}
    (h : Copies src E lo hi fs) (hws : List.Forall₂ (fun e w => ∃ m', w = .repeated m' e c)
      (fs.drop k) ws) (hstd : c.isStandard = true) (hne : c ≠ .empty)
    (hplus : ∀ e ∈ fs, ¬ (c = .plus ∧ e.matchesEmpty = true)) (m : TripleMark) :
    Copies src E lo hi [.eachOf m (fs.take k ++ ws)] := by
  have hcount := h.countable
  rw [allCountable_eq_all, ← List.take_append_drop k fs, List.all_append,
    Bool.and_eq_true] at hcount
  refine h.node ?_ ?_ fun he => ?_
  · rw [isCountable, allCountable_eq_all, List.all_append, hcount.1, Bool.true_and,
      ← allCountable_eq_all]
    exact allCountable_wrapped hws (by rw [allCountable_eq_all]; exact hcount.2) hstd
      fun e he => hplus e (List.mem_of_mem_drop he)
  · rw [constraints, constraintsIn_eq_flatMap, List.flatMap_append, ← constraintsIn_eq_flatMap ws,
      constraintsIn_wrapped hws, constraintsIn_eq_flatMap, ← List.flatMap_append,
      List.take_append_drop, constraintsIn_eq_flatMap]
  · have := h.avoids he
    rw [allAvoidEmpty_eq_all, ← List.take_append_drop k fs, List.all_append,
      Bool.and_eq_true] at this
    rw [avoidsEmpty, allAvoidEmpty_eq_all, List.all_append, this.1, Bool.true_and,
      ← allAvoidEmpty_eq_all]
    exact allAvoidEmpty_wrapped hws (by rw [allAvoidEmpty_eq_all]; exact this.2) hne

/-- A copy matches the empty bag if the language has it. -/
theorem matchesEmpty_of_language (hatom : ∀ m a v, 0 ∉ atom m a v) (hf : f.isCountable = true)
    (hL : ∀ target, f.language atom target = L) : f.matchesEmpty = true ↔ 0 ∈ L := by
  rw [← hL fun _ => ∅]
  exact matchesEmpty_iff hatom (refs_of_isCountable hf)

/-- A repetition that can be counted as it stands, up to `+` on what matches the empty bag, for
which `*` denotes the same. -/
theorem keep_meets (hatom : ∀ m a v, 0 ∉ atom m a v) {s t : Normalizing} {first : TripleExpr}
    (h : Copied atom L src E A s first t) (m : TripleMark) {c : Cardinality}
    (hc : (first.isConstraint || c.isEmpty || c.isStandard) = true) :
    Meets t (copy m (.repeated · first (if c = .plus && first.matchesEmpty then .star else c)))
      (Copied atom (L.repeated c) src (c ≠ .empty ∧ E) A s) F := by
  have hf : first.isCountable = true := by simpa [allCountable] using h.copies.countable
  have hempty := matchesEmpty_of_language hatom hf h.language
  refine (copy_meets m _).imp fun f u ⟨hfe, hnext, hann⟩ => ?_
  have hadv : Advances A t u :=
    ⟨by rw [hnext]; exact Nat.le_succ _, fun _ ht => by rw [hann, ht]⟩
  subst hfe
  by_cases hp : c = .plus ∧ first.matchesEmpty = true
  · obtain ⟨rfl, hm⟩ := hp
    rw [if_pos (by simp [hm])]
    refine ⟨?_, fun target => ?_, h.advances.trans hadv⟩
    · exact ((h.copies.repeated _ (.inr ⟨rfl, fun h => absurd h.1 (by decide)⟩)).widen
        (Nat.le_refl _) hadv.next_le).congr (fun _ _ _ => Iff.rfl) fun he => ⟨by decide, he.2⟩
    · rw [language_repeated, h.language, BagLanguage.repeated_plus_eq_star (hempty.1 hm)]
  · rw [if_neg (by simpa using hp)]
    refine ⟨?_, fun target => ?_, h.advances.trans hadv⟩
    · refine (h.copies.repeated _ ?_).widen (Nat.le_refl _) hadv.next_le
      rw [Bool.or_assoc, Bool.or_eq_true, Bool.or_comm] at hc
      exact hc.imp_right fun h => ⟨h, hp⟩
    · rw [language_repeated, h.language]

/-- A repetition that has to be written out is made of at least one copy: `{0}` is a standard
cardinality, and without a greatest count there is always the last copy. -/
theorem copies_pos {c : Cardinality} (hne : c ≠ .empty) (hstd : c.isStandard = false) :
    1 ≤ (copies c).1 + (copies c).2 := by
  unfold copies
  cases hmax : c.max with
  | none => exact Nat.le_add_left 1 _
  | some m =>
    have hle := Cardinality.min_le_max hne hmax
    by_contra hlt
    obtain ⟨hmin, hm⟩ : c.min.toNat = 0 ∧ m.toNat = 0 := by
      simp only at hlt
      omega
    have hzero : c = .zero := by
      rw [← c.ofBounds_min_max, hmax, Cardinality.eq_zero_iff_toNat.2 hmin,
        Cardinality.eq_zero_iff_toNat.2 hm]
      rfl
    rw [hzero] at hstd
    cases hstd

/-- The group of copies denotes what the repetition denotes: as many as there have to be, and then
optional ones up to the greatest count, or one that may be repeated. -/
theorem times_copies {c : Cardinality} (hne : c ≠ .empty) (hstd : c.isStandard = false) :
    L.times (copies c).1 + (L.repeated (if c.max.isSome then .optional else .plus)).times
      (copies c).2 = L.repeated c := by
  unfold copies
  cases hmax : c.max with
  | some m => exact BagLanguage.times_add_optional hne hmax
  | none =>
    have hmin : 1 ≤ c.min.toNat := by
      by_contra hlt
      have hstar : c = .star := by
        rw [← c.ofBounds_min_max, hmax,
          Cardinality.eq_zero_iff_toNat.2 (show c.min.toNat = 0 by omega)]
        rfl
      rw [hstar] at hstd
      cases hstd
    simp only [Option.isSome_none, Bool.false_eq_true, if_false, BagLanguage.times_one]
    exact BagLanguage.times_add_plus hmax hmin

/-- Copies are made, some of them put under a cardinality, and joined in a group. The first of them
is at hand already, since it had to be seen whether it can be kept. -/
theorem writeOut_meets (hatom : ∀ m a v, 0 ∉ atom m a v) {make : Normalize TripleExpr}
    (hmake : ∀ s, Meets s make (Copied atom L src E A s) F) {s t : Normalizing} {first : TripleExpr}
    (hfirst : Copied atom L src E A s first t) (m : TripleMark) {plain tail : Nat}
    (hpos : 1 ≤ plain + tail) {inner : Cardinality} (hstd : inner.isStandard = true)
    (hne : inner ≠ .empty) (hplus : inner = .plus → 0 ∉ L) :
    Meets t
      (do
        let pieces := (← replicate make (plain + tail - 1) [first]).reverse
        let wrapped ← wrapAll m inner (pieces.drop plain)
        copy m (.eachOf · (pieces.take plain ++ wrapped)))
      (Copied atom (L.times plain + (L.repeated inner).times tail) src E A s) F := by
  have hone : CopiedOften atom L src E s.next.index 1 [first] t :=
    ⟨hfirst.copies, by simpa [AllDenote] using hfirst.language, rfl, hfirst.advances.next_le⟩
  refine (replicate_meets hmake (n := plain + tail - 1) hone).bind fun fs u ⟨hfs, hu⟩ => ?_
  have hlen : fs.reverse.length = plain + tail := by
    rw [List.length_reverse, hfs.length]
    omega
  have hden : AllDenote atom L fs.reverse := fun f hf => hfs.language f (List.mem_reverse.1 hf)
  have hcopies := hfs.copies.reverse
  generalize fs.reverse = pieces at hlen hden hcopies
  refine (wrapAll_meets m inner).bind fun ws v ⟨hws, hv⟩ => ?_
  refine (copy_meets m _).imp fun f w ⟨hf, hnext, hann⟩ => ?_
  have hw : Advances A v w := ⟨by rw [hnext]; exact Nat.le_succ _, fun _ h => by rw [hann, h]⟩
  have hvw := (hv.imp fun _ => trivial).trans hw
  subst hf
  refine ⟨?_, fun target => ?_, hfirst.advances.trans (hu.trans hvw)⟩
  · have hnot : ∀ e ∈ pieces, ¬ (inner = .plus ∧ e.matchesEmpty = true) := by
      rintro e he ⟨hi, hm⟩
      have hcount : pieces.all isCountable = true := by
        rw [← allCountable_eq_all]
        exact hcopies.countable
      have he' := List.all_eq_true.1 hcount e he
      exact hplus hi ((matchesEmpty_of_language hatom he' (hden e he)).1 hm)
    exact (hcopies.group hws hstd hne hnot _).widen (Nat.le_refl _) hvw.next_le
  · have hplain : AllDenote atom L (pieces.take plain) := fun f hf =>
      hden f (List.mem_of_mem_take hf)
    have hwrapped := allDenote_wrapped hws fun f hf => hden f (List.mem_of_mem_drop hf)
    rw [language_eachOf, languageOfAll_append, languageOfAll_of_allDenote hplain,
      languageOfAll_of_allDenote hwrapped, List.length_take, ← hws.length_eq, List.length_drop,
      hlen]
    congr 2 <;> omega

/-- A repetition is written out or kept, and denotes what it did. The cases are those of the
definition: kept, once, and written out with or without a greatest count. -/
theorem unroll_meets (hatom : ∀ m a v, 0 ∉ atom m a v) (hF : ∀ n, F (.limit (.expansion n)))
    {make : Normalize TripleExpr} (hmake : ∀ s, Meets s make (Copied atom L src E A s) F)
    (limit : Nat) (m : TripleMark) (c : Cardinality) (s : Normalizing) :
    Meets s (unroll limit m make c) (Copied atom (L.repeated c) src (c ≠ .empty ∧ E) A s) F := by
  unfold unroll
  refine (hmake s).bind fun first t hfirst => ?_
  by_cases hkeep : (first.isConstraint || c.isEmpty || c.isStandard) = true
  · rw [if_pos hkeep]
    exact keep_meets hatom hfirst m hkeep
  rw [if_neg hkeep]
  simp only [Bool.or_eq_true, not_or, Bool.not_eq_true, Cardinality.isEmpty_iff] at hkeep
  obtain ⟨⟨_, hne⟩, hstd⟩ := hkeep
  have hne : c ≠ .empty := fun h => by simp [h] at hne
  by_cases hone : c = .one
  · rw [if_pos hone, hone]
    exact Meets.pure ⟨hfirst.copies.congr (fun _ _ _ => Iff.rfl) fun h => h.2,
      by rw [BagLanguage.repeated_one]; exact hfirst.language, hfirst.advances⟩
  rw [if_neg hone]
  have hpos := copies_pos hne hstd
  have htimes := times_copies (L := L) hne hstd
  generalize copies c = k at hpos htimes
  obtain ⟨plain, tail⟩ := k
  have hempty := matchesEmpty_of_language hatom
    (by simpa [allCountable] using hfirst.copies.countable) hfirst.language
  refine Meets.bind (P := fun _ u => u = t) rfl fun n u hu => ?_
  subst hu
  split
  · exact Meets.throw (hF _)
  · have hinner : ∀ inner : Cardinality, inner.isStandard = true → inner ≠ .empty →
        (inner = .plus → 0 ∉ L) →
        L.times plain + (L.repeated inner).times tail = L.repeated c →
        Meets u
          (do
            let pieces := (← replicate make (plain + tail - 1) [first]).reverse
            let wrapped ← wrapAll m inner (pieces.drop plain)
            copy m (.eachOf · (pieces.take plain ++ wrapped)))
          (Copied atom (L.repeated c) src (c ≠ .empty ∧ E) A s) F := by
      intro inner hi hi' hplus heq
      refine (writeOut_meets hatom hmake hfirst m hpos hi hi' hplus).imp fun f v h => ?_
      rw [heq] at h
      exact ⟨h.copies.congr (fun _ _ _ => Iff.rfl) fun h => h.2, h.language, h.advances⟩
    cases hmax : c.max with
    | some _ =>
      exact hinner .optional rfl (by decide) (fun h => absurd h (by decide))
        (by simpa [hmax] using htimes)
    | none =>
      simp only [hmax, Option.isSome_none, Bool.false_eq_true, if_false] at htimes
      cases hm : first.matchesEmpty with
      | true =>
        rw [BagLanguage.repeated_plus_eq_star (hempty.1 hm)] at htimes
        exact hinner .star rfl (by decide) (fun h => absurd h (by decide)) htimes
      | false =>
        exact hinner .plus rfl (by decide) (fun _ h => by simp [hempty.2 h] at hm) htimes

end

end Normalize

end Shex
