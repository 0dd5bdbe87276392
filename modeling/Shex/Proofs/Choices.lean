import Shex.Proofs.Combinations
import Shex.Proofs.Counting

/-!
# Choices for edges

What matching looks for, said without a search. Each edge has options: the constraints that accept
it, in the order of the expression, and last to leave it out. A choice takes one option for each
edge, and the choices are ordered lexicographically. `Form.Yields` says which outcome the first
choice that is approved leads to, and that without any the node is unmatched
(`Form.Yields.unmatched_iff`).

An edge that is accepted by no constraint but may be left out is not among the choices that the
search goes through. In the statements it has one choice, like every edge that the form concerns.
-/

namespace Shex

/-- The reasons why a node does not conform. -/
def Verdict.reasons : Verdict → List Diagnostic
  | .conforms => []
  | .fails reasons => reasons

namespace TripleConstraint

/-- Whether a node meets the value expression of a constraint, if it has one. -/
def admits (V : Term → ShapeExpr → Verdict) (t : Term) (c : TripleConstraint) : Bool :=
  c.value.all fun v => V t v = .conforms

/-- Why a node does not meet the value expression of a constraint. -/
def complaints (V : Term → ShapeExpr → Verdict) (t : Term) (c : TripleConstraint) :
    List Diagnostic :=
  c.value.elim [] fun v => (V t v).reasons

/-- The test of a value expression by verdicts says what accepting says by propositions. -/
theorem admits_iff {V : Term → ShapeExpr → Verdict} {t : Term} {c : TripleConstraint} :
    c.admits V t = true ↔ c.Accepts (fun t v => V t v = .conforms) t := by
  simp [admits, Accepts, Option.all_eq_true]

end TripleConstraint

/-- The triples given to the constraints of an annotated node. -/
def Annotated.triplesOf (a : Annotated) (matched : List (Edge × ExprId)) : List Triple :=
  (matched.filter fun x => a.constraints.contains x.2).map (·.1.triple)

/-- The edges that are given a constraint by a choice for each edge. -/
def matchedBy (chosen : List (Edge × Option ExprId)) : List (Edge × ExprId) :=
  chosen.filterMap fun (e, c) => c.map (e, ·)

namespace Form

section
variable (V : Term → ShapeExpr → Verdict) (A : List SemanticAction → List Triple → Bool)
  (extra : List Iri) (f : Form)

/-- The constraints with the arc of an edge. -/
def candidates (e : Edge) : List TripleConstraint := f.constraints.filter (·.arc = e.arc)

/-- The constraints that an edge can be given to, in the order of the expression. -/
def accepting (e : Edge) : List ExprId :=
  ((f.candidates e).filter (·.admits V e.opposite)).map (·.id)

/-- What may be chosen for an edge, in the order in which it is tried. -/
def options (e : Edge) : List (Option ExprId) :=
  (f.accepting V e).map some ++ if extra.contains e.predicate then [none] else []

/-- Why no constraint accepts an edge. -/
def complaints (e : Edge) : List Diagnostic :=
  (f.candidates e).foldl (fun ds c => addNew ds (c.complaints V e.opposite)) []

/-- The place of a choice among all: that of the constraint in the expression, and behind the
constraints if the edge is left out. -/
def place : Option ExprId → Nat
  | some id => f.expr.constraintIds.idxOf id
  | none => f.expr.constraintIds.length

/-- The places of a choice for each edge. Lists of places are ordered lexicographically. -/
def places (chosen : List (Edge × Option ExprId)) : List Nat := chosen.map fun c => f.place c.2

/-- A choice for each edge that the form concerns. -/
def IsChoice (edges : List Edge) (chosen : List (Edge × Option ExprId)) : Prop :=
  List.Forall₂ (fun e c => c.1 = e ∧ f.Allows (fun t v => V t v = .conforms) extra e c.2)
    (edges.filter f.concerns) chosen

/-- Whether nothing may be chosen for an edge that the form concerns. -/
def IsStuck (e : Edge) : Prop :=
  f.concerns e = true ∧ ∀ o, ¬ f.Allows (fun t v => V t v = .conforms) extra e o

/-- The bag of the given constraints makes up the expression once, and the actions of every
annotated node accept the triples given to its constraints. -/
structure Approves (matched : List (Edge × ExprId)) : Prop where
  bag : ∃ i, f.expr.interval (matched.map Prod.snd) = .ok i ∧ i.contains 1 = true
  actions : ∀ a ∈ f.annotated, A a.source.actions (a.triplesOf matched) = true

/-- The outcome of matching, and the number of choices that are tried. -/
inductive Yields (edges : List Edge) : Matching → Nat → Prop
  /-- There are edges for which nothing may be chosen. -/
  | stuck {failures : List MatchFailure} (hne : failures ≠ [])
      (h : ∀ m, m ∈ failures ↔
        ∃ e ∈ edges, f.IsStuck V extra e ∧ m = .unmatched e (f.complaints V e)) :
      Yields edges (.failed failures) 0
  /-- The first choice that is approved. -/
  | found {a : Assignment} {chosen : List (Edge × Option ExprId)}
      (hchoice : f.IsChoice V extra edges chosen) (happroved : f.Approves A (matchedBy chosen))
      (hfirst : ∀ chosen', f.IsChoice V extra edges chosen' →
        f.places chosen' < f.places chosen → ¬ f.Approves A (matchedBy chosen'))
      (hmatched : a.matched = matchedBy chosen)
      (hall : (a.matched.map Prod.fst ++ a.extras).Perm (edges.filter f.concerns)) :
      Yields edges (.matched a)
        {chosen' | f.IsChoice V extra edges chosen' ∧ ¬ f.places chosen < f.places chosen'}.ncard
  /-- No choice is approved. -/
  | exhausted (hfree : ∀ e ∈ edges, ¬ f.IsStuck V extra e)
      (hnone : ∀ chosen, f.IsChoice V extra edges chosen → ¬ f.Approves A (matchedBy chosen))
      {n : Nat}
      (hn : n = ((edges.filter f.concerns).map fun e =>
        {o | f.Allows (fun t v => V t v = .conforms) extra e o}.ncard).prod) :
      Yields edges (.failed [.noAssignment n]) n

end

/-! ## The choices for an edge -/

section
variable {V : Term → ShapeExpr → Verdict} {extra : List Iri} {f : Form} {e : Edge}

/-- The listed constraints are those that the edge may be given to. -/
theorem mem_accepting_iff {id : ExprId} :
    id ∈ f.accepting V e ↔ f.Allows (fun t v => V t v = .conforms) extra e (some id) := by
  simp only [accepting, candidates, List.mem_map, List.mem_filter, decide_eq_true_iff,
    TripleConstraint.admits_iff, Allows, and_assoc]

/-- What is listed for an edge is what is allowed for it, leaving it out included. -/
theorem mem_options_iff {o : Option ExprId} :
    o ∈ f.options V extra e ↔ f.Allows (fun t v => V t v = .conforms) extra e o := by
  cases o with
  | none => simp [options, Allows]
  | some id => simp [options, ← @mem_accepting_iff V extra f e id]

/-- The choices for an edge are listed in the order of their places: the constraints in the order of
the expression, then leaving it out. So the first combination that is approved is the least one. -/
theorem options_ascending (hnd : f.expr.constraintIds.Nodup) :
    (f.options V extra e).Pairwise fun o o' => f.place o < f.place o' := by
  have hids : f.expr.constraintIds.Pairwise fun id id' =>
      f.place (some id) < f.place (some id') := by
    rw [List.pairwise_iff_getElem]
    intro i j hi hj hij
    rwa [place, place, hnd.idxOf_getElem, hnd.idxOf_getElem]
  have hsub : (f.accepting V e).Sublist f.expr.constraintIds := by
    rw [accepting, candidates, TripleExpr.constraintIds]
    exact (List.filter_sublist.trans List.filter_sublist).map _
  rw [options, List.pairwise_append]
  refine ⟨(hids.sublist hsub).map _ fun _ _ h => h, by split <;> simp, ?_⟩
  intro o ho o' ho'
  obtain ⟨id, hid, rfl⟩ := List.mem_map.1 ho
  obtain rfl : o' = none := by
    split at ho' <;> simp at ho'
    exact ho'
  exact List.idxOf_lt_length_of_mem (hsub.subset hid)

/-- Nothing is tried twice for an edge, since the constraints of a form are told apart by their
identities. -/
theorem options_nodup (hnd : f.expr.constraintIds.Nodup) : (f.options V extra e).Nodup :=
  (options_ascending hnd).imp fun h => ne_of_apply_ne f.place (Nat.ne_of_lt h)

/-- The number of choices for an edge. -/
theorem length_options (hnd : f.expr.constraintIds.Nodup) :
    (f.options V extra e).length =
      {o | f.Allows (fun t v => V t v = .conforms) extra e o}.ncard := by
  have hset : {o | f.Allows (fun t v => V t v = .conforms) extra e o} =
      ↑(f.options V extra e).toFinset := by
    ext o
    simp [mem_options_iff]
  rw [hset, Set.ncard_coe_finset, List.toFinset_card_of_nodup (options_nodup hnd)]

end

end Form

/-! ## Computations that only return -/

section
variable {m : Type → Type} [Monad m] [LawfulMonad m] {α β : Type}

/-- A computation does nothing but return a value that satisfies `Q`. -/
def Returns (x : m α) (Q : α → Prop) : Prop := ∃ a, x = pure a ∧ Q a

namespace Returns

omit [LawfulMonad m] in
/-- Returning a value is nothing but returning it. -/
theorem pure {a : α} {Q : α → Prop} (h : Q a) : Returns (Pure.pure a : m α) Q := ⟨a, rfl, h⟩

/-- Two computations that only return, one after the other. -/
theorem bind {x : m α} {g : α → m β} {P : α → Prop} {Q : β → Prop} (hx : Returns x P)
    (hg : ∀ a, P a → Returns (g a) Q) : Returns (x >>= g) Q := by
  obtain ⟨a, rfl, ha⟩ := hx
  rw [pure_bind]
  exact hg a ha

/-- What one step of a loop establishes for one more element holds of all elements in the end. -/
theorem foldlM {g : β → α → m β} (P : List α → β → Prop) {as done : List α} {b : β}
    (hg : ∀ a ∈ as, ∀ done b, P done b → Returns (g b a) (P (done ++ [a]))) (hb : P done b) :
    Returns (as.foldlM g b) (P (done ++ as)) := by
  induction as generalizing done b with
  | nil => exact .pure (by rwa [List.append_nil])
  | cons a as ih =>
    rw [List.forall_mem_cons] at hg
    rw [List.foldlM_cons]
    refine (hg.1 done b hb).bind fun b' hb' => ?_
    have := ih hg.2 hb'
    rwa [List.append_assoc, List.singleton_append] at this

end Returns

end

/-! ## The choices for all edges -/

namespace Form

section
variable {V : Term → ShapeExpr → Verdict} {extra : List Iri} {f : Form} {edges : List Edge}
  {chosen : List (Edge × Option ExprId)}

/-- The edges that the form concerns, each with its choices. -/
def choices (V : Term → ShapeExpr → Verdict) (extra : List Iri) (f : Form) (edges : List Edge) :
    List (Edge × List (Option ExprId)) :=
  (edges.filter f.concerns).map fun e => (e, f.options V extra e)

/-- The combinations that are gone through are the choices for all edges that the form concerns. -/
theorem mem_combinations_choices :
    chosen ∈ combinations (f.choices V extra edges) ↔ f.IsChoice V extra edges chosen := by
  rw [mem_combinations_iff, Combination, choices, List.forall₂_map_left_iff, IsChoice]
  simp only [mem_options_iff]

/-- The choices for all edges are tried in ascending order. -/
theorem combinations_ascending (hnd : f.expr.constraintIds.Nodup) :
    (combinations (f.choices V extra edges)).Pairwise fun c c' => f.places c < f.places c' := by
  refine pairwise_combinations f.place fun t ht => ?_
  obtain ⟨e, -, rfl⟩ := List.mem_map.1 ht
  exact options_ascending hnd

/-- There are as many choices as the product of the numbers of options says. The options of one edge
are counted as a set, so the count does not depend on how they are listed. -/
theorem length_combinations_choices (hnd : f.expr.constraintIds.Nodup) :
    (combinations (f.choices V extra edges)).length =
      ((edges.filter f.concerns).map fun e =>
        {o | f.Allows (fun t v => V t v = .conforms) extra e o}.ncard).prod := by
  rw [length_combinations, choices, List.map_map]
  exact congrArg List.prod (List.map_congr_left fun e _ => length_options hnd)

/-- An edge that some constraint accepts is one that the form concerns. -/
theorem concerns_of_accepting {e : Edge} (h : f.accepting V e ≠ []) : f.concerns e = true := by
  obtain ⟨id, hid⟩ := List.exists_mem_of_ne_nil _ h
  obtain ⟨c, hc, harc, -⟩ := (@mem_accepting_iff V [] f e id).1 hid
  exact concerns_iff.2 ⟨c, hc, harc⟩

/-- Nothing may be chosen for an edge that no constraint accepts and that no extra predicate lets
out. -/
theorem isStuck_iff {e : Edge} :
    f.IsStuck V extra e ↔
      f.concerns e = true ∧ f.accepting V e = [] ∧ e.predicate ∉ extra := by
  refine and_congr_right fun _ => ?_
  simp only [← mem_options_iff, ← List.eq_nil_iff_forall_not_mem, options, List.append_eq_nil_iff,
    List.map_eq_nil_iff]
  refine and_congr_right fun _ => ?_
  split <;> simp_all

/-- No constraint accepts an edge if the node at its other end fails every constraint with its
arc. -/
theorem accepting_eq_nil_iff {e : Edge} :
    f.accepting V e = [] ↔ ∀ c ∈ f.constraints, c.arc = e.arc →
      ∃ v, c.value = some v ∧ V e.opposite v ≠ .conforms := by
  rw [accepting, candidates, List.map_eq_nil_iff, List.filter_filter, List.filter_eq_nil_iff]
  refine forall₂_congr fun c _ => ?_
  rcases hv : c.value with _ | v <;> simp [TripleConstraint.admits, hv, imp_not_comm]

/-- A choice is about the edges that the form concerns, in their order. -/
theorem IsChoice.map_fst (h : f.IsChoice V extra edges chosen) :
    chosen.map Prod.fst = edges.filter f.concerns := by
  unfold IsChoice at h
  generalize edges.filter f.concerns = es at h
  induction h with
  | nil => rfl
  | cons hc _ ih => rw [List.map_cons, ih, hc.1]

/-- Every part of a choice is allowed for its edge. -/
theorem IsChoice.allows (h : f.IsChoice V extra edges chosen) {c : Edge × Option ExprId}
    (hc : c ∈ chosen) : f.Allows (fun t v => V t v = .conforms) extra c.1 c.2 := by
  obtain ⟨t, ht, he, ho⟩ := (mem_combinations_iff.1 (mem_combinations_choices.2 h)).mem hc
  obtain ⟨e, -, rfl⟩ := List.mem_map.1 ht
  rw [he]
  exact mem_options_iff.1 ho

/-- An edge for which something is chosen is not stuck. -/
theorem IsChoice.not_isStuck (h : f.IsChoice V extra edges chosen) {e : Edge} (he : e ∈ edges) :
    ¬ f.IsStuck V extra e := by
  rintro ⟨hconcerns, hno⟩
  have hmem : e ∈ chosen.map Prod.fst := h.map_fst ▸ List.mem_filter.2 ⟨he, hconcerns⟩
  obtain ⟨c, hc, rfl⟩ := List.mem_map.1 hmem
  exact hno c.2 (h.allows hc)

/-- Only edges that are stuck are told to be unmatched. Where every edge has a choice and none of
the choices is approved, the failure names no edge but the number of choices. -/
theorem Yields.unmatched_iff {A : List SemanticAction → List Triple → Bool} {result : Matching}
    {n : Nat} (h : f.Yields V A extra edges result n) :
    (∃ failures e reasons, result = .failed failures ∧ .unmatched e reasons ∈ failures) ↔
      ∃ e ∈ edges, f.IsStuck V extra e := by
  cases h with
  | stuck hne h =>
    constructor
    · rintro ⟨_, e, reasons, heq, hmem⟩
      cases heq
      obtain ⟨e', he', hstuck, -⟩ := (h _).1 hmem
      exact ⟨e', he', hstuck⟩
    · rintro ⟨e, he, hstuck⟩
      exact ⟨_, e, _, rfl, (h _).2 ⟨e, he, hstuck, rfl⟩⟩
  | found hchoice =>
    constructor
    · rintro ⟨_, _, _, heq, _⟩
      cases heq
    · rintro ⟨e, he, hstuck⟩
      exact absurd hstuck (hchoice.not_isStuck he)
  | exhausted hfree =>
    constructor
    · rintro ⟨_, _, _, heq, hmem⟩
      cases heq
      cases List.mem_singleton.1 hmem
    · rintro ⟨e, he, hstuck⟩
      exact absurd hstuck (hfree e he)

end

end Form

end Shex
