import Shex.Proofs.Choices

/-!
# The first assignment

For a referee whose answers depend on nothing but the question, matching is a function of its
arguments (`findAssignment_ends`). Either some edges have no choice, and they are the reasons why
there is no assignment; or the choices for the edges are tried in lexicographic order, the
constraints of an edge in the order of the expression and to leave the edge out last, until the bag
of one matches and the semantic actions accept it (`findAssignment_exact`).

The search goes through fewer edges than `Form.Yields` has choices for, since edges that can only be
left out are put aside before; `map_filter_combinations` says that this makes no difference.
-/

namespace Shex

/-! ## Sorting the edges -/

section
variable {m : Type → Type} [Monad m] [LawfulMonad m] {r : Referee m}
  {V : Term → ShapeExpr → Verdict} {A : List SemanticAction → List Triple → Bool}
  {extra : List Iri} {f : Form} {edges : List Edge}

/-- The verdicts in a table are those of `V`. -/
def Verdicts.Are (V : Term → ShapeExpr → Verdict) (f : Form) (vs : Verdicts) : Prop :=
  ∀ v ∈ f.expr.values, ∀ t d, vs.get? (t, v.id) = some d → d = V t v

/-- What the constraints `done` said about an edge to the node `t`. -/
structure Candidacy.Lists (V : Term → ShapeExpr → Verdict) (f : Form) (t : Term)
    (done : List TripleConstraint) (k : Candidacy) : Prop where
  verdicts : k.verdicts.Are V f
  accepting : k.accepting = (done.filter (·.admits V t)).map (·.id)
  reasons : k.reasons = done.foldl (fun ds c => addNew ds (c.complaints V t)) []

/-- What sorting has found out about the edges `done`. -/
structure Sorting.Lists (V : Term → ShapeExpr → Verdict) (extra : List Iri) (f : Form)
    (done : List Edge) (s : Sorting) : Prop where
  verdicts : s.verdicts.Are V f
  choices : s.choices = (done.filter fun e => !(f.accepting V e).isEmpty).map fun e =>
    (e, f.options V extra e)
  extras : s.extras = done.filter fun e =>
    f.concerns e && (f.accepting V e).isEmpty && extra.contains e.predicate
  failures : s.failures = (done.filter fun e =>
    f.concerns e && (f.accepting V e).isEmpty && !extra.contains e.predicate).map fun e =>
      .unmatched e (f.complaints V e)

variable (hV : ∀ t e, r.verdict t e = pure (V t e)) (hcoh : f.IsCoherent)

include hV hcoh

/-- A verdict from the table is that of the referee: the table is filled by asking, and a value
expression is known by its identity. -/
theorem judge_returns {t : Term} {v : ShapeExpr} (hv : v ∈ f.expr.values) {vs : Verdicts}
    (hvs : vs.Are V f) : Returns (r.judge vs t v) fun p => p.1 = V t v ∧ p.2.Are V f := by
  unfold Referee.judge
  split
  · rename_i d hd
    exact .pure ⟨hvs v hv t d hd, hvs⟩
  · rw [hV, pure_bind]
    refine .pure ⟨rfl, fun v' hv' t' d' hget => ?_⟩
    by_cases hkey : (t, v.id) = (t', v'.id)
    · obtain ⟨rfl, hid⟩ := Prod.mk.injEq .. ▸ hkey
      obtain rfl := hcoh v hv v' hv' hid
      rw [Table.get?_insert_self] at hget
      exact (Option.some.inj hget).symm
    · rw [Table.get?_insert_of_ne _ hkey] at hget
      exact hvs v' hv' t' d' hget

/-- One more constraint is asked. It joins those that accept the edge, or its reasons join the
others unless they are among them already. -/
theorem ask_returns {t : Term} {c : TripleConstraint} (hc : c ∈ f.constraints)
    {done : List TripleConstraint} {k : Candidacy} (hk : k.Lists V f t done) :
    Returns (k.ask r t c) (Candidacy.Lists V f t (done ++ [c])) := by
  unfold Candidacy.ask
  split
  · rename_i hnone
    refine .pure ⟨hk.verdicts, ?_, ?_⟩
    · simp [hk.accepting, TripleConstraint.admits, hnone]
    · simp [hk.reasons, TripleConstraint.complaints, hnone, addNew]
  · rename_i v hv
    refine (judge_returns hV hcoh (Form.mem_values hc hv) hk.verdicts).bind fun p hp => ?_
    obtain ⟨d, vs⟩ := p
    obtain ⟨rfl, hvs⟩ := hp
    split
    · rename_i heq
      obtain ⟨hd, rfl⟩ := Prod.mk.injEq .. ▸ heq
      refine .pure ⟨hvs, ?_, ?_⟩
      · simp [hk.accepting, TripleConstraint.admits, hv, hd]
      · simp [hk.reasons, TripleConstraint.complaints, hv, hd, Verdict.reasons, addNew]
    · rename_i reasons _ heq
      obtain ⟨hd, rfl⟩ := Prod.mk.injEq .. ▸ heq
      refine .pure ⟨hvs, ?_, ?_⟩
      · simp [hk.accepting, TripleConstraint.admits, hv, hd]
      · simp [hk.reasons, TripleConstraint.complaints, hv, hd, Verdict.reasons]

/-- One edge is sorted: into the choices with its options, among the extra ones without a choice,
or, where neither is possible, among the failures with the reasons collected for it. An edge that
the form does not concern is dropped. -/
theorem place_returns {done : List Edge} {s : Sorting} (hs : s.Lists V extra f done) (e : Edge) :
    Returns (s.place r f.constraints extra e) (Sorting.Lists V extra f (done ++ [e])) := by
  unfold Sorting.place
  split
  · rename_i hnil
    have hcandidates : f.candidates e = [] := hnil
    have haccepting : f.accepting V e = [] := by simp [Form.accepting, hcandidates]
    have hconcerns : f.concerns e = false := by
      rw [Bool.eq_false_iff, Ne, Form.concerns_iff]
      rintro ⟨c, hc, harc⟩
      rw [List.filter_eq_nil_iff] at hnil
      exact hnil c hc (by simpa using harc)
    refine .pure ⟨hs.verdicts, ?_, ?_, ?_⟩
    · simp [hs.choices, haccepting]
    · simp [hs.extras, hconcerns]
    · simp [hs.failures, hconcerns]
  · rename_i cs hcons
    have hmem : ∀ c ∈ f.candidates e, c ∈ f.constraints := fun c hc => (List.mem_filter.1 hc).1
    have hconcerns : f.concerns e = true := by
      obtain ⟨c, hc⟩ := List.exists_mem_of_ne_nil _ hcons
      obtain ⟨hmem, harc⟩ := List.mem_filter.1 hc
      exact Form.concerns_iff.2 ⟨c, hmem, by simpa using harc⟩
    have hasked : Returns
        ((f.candidates e).foldlM (Candidacy.ask r e.opposite) ⟨[], [], s.verdicts⟩)
        (Candidacy.Lists V f e.opposite ([] ++ f.candidates e)) :=
      Returns.foldlM (Candidacy.Lists V f e.opposite)
        (fun c hc _ _ hk => ask_returns hV hcoh (hmem c hc) hk) ⟨hs.verdicts, rfl, rfl⟩
    refine hasked.bind fun k hk => ?_
    have hk_accepting : k.accepting = f.accepting V e := hk.accepting
    have hk_reasons : k.reasons = f.complaints V e := hk.reasons
    rw [hk_accepting, hk_reasons]
    by_cases hempty : f.accepting V e = []
    · rw [if_pos (by simp [hempty])]
      by_cases hextra : e.predicate ∈ extra
      · rw [if_pos (by simpa using hextra)]
        refine .pure ⟨hk.verdicts, ?_, ?_, ?_⟩ <;>
          simp [hs.choices, hs.extras, hs.failures, hconcerns, hempty, hextra]
      · rw [if_neg (by simpa using hextra)]
        refine .pure ⟨hk.verdicts, ?_, ?_, ?_⟩ <;>
          simp [hs.choices, hs.extras, hs.failures, hconcerns, hempty, hextra]
    · rw [if_neg (by simpa using hempty)]
      refine .pure ⟨hk.verdicts, ?_, ?_, ?_⟩ <;>
        simp [hs.choices, hs.extras, hs.failures, hconcerns, hempty, Form.options]

/-- All edges are sorted. -/
theorem sort_returns :
    Returns (edges.foldlM (Sorting.place r f.constraints extra) ⟨[], [], [], .empty⟩)
      (Sorting.Lists V extra f edges) := by
  have hnone : Sorting.Lists V extra f [] ⟨[], [], [], .empty⟩ := by
    refine ⟨?_, rfl, rfl, rfl⟩
    intro v _ t d hd
    cases hd
  exact Returns.foldlM (Sorting.Lists V extra f)
    (fun e _ done s hs => place_returns hV hcoh hs e) hnone

end

/-! ## Trying a choice -/

section
variable {m : Type → Type} [Monad m] [LawfulMonad m] {r : Referee m}
  {A : List SemanticAction → List Triple → Bool} {f : Form}

/-- Where every node is answered at once, so is the whole assignment. -/
theorem acceptsAll_eq (hA : ∀ as ts, r.accepts as ts = pure (A as ts))
    (matched : List (Edge × ExprId)) (as : List Annotated) :
    r.acceptsAll matched as = pure (as.all fun a => A a.source.actions (a.triplesOf matched)) := by
  induction as with
  | nil => rfl
  | cons a as ih =>
    rw [Referee.acceptsAll, hA, pure_bind, ih, List.all_cons]
    change (if A a.source.actions (a.triplesOf matched) = true then _ else _) = _
    cases A a.source.actions (a.triplesOf matched) <;> rfl

/-- The bag of a choice: the constraints that are given, in the order of the edges. -/
theorem map_snd_matchedBy (chosen : List (Edge × Option ExprId)) :
    (matchedBy chosen).map Prod.snd = chosen.filterMap Prod.snd := by
  rw [matchedBy, List.map_filterMap]
  refine congrArg (List.filterMap · chosen) (funext fun c => ?_)
  obtain ⟨e, _ | id⟩ := c <;> rfl

variable [MonadExceptOf ValidationFault m]

open Classical in
/-- To try a choice is to tick and to tell whether it is approved: whether the bag of the given
constraints makes up the expression once, and whether the actions of every annotated node accept. -/
theorem accept_eq (hA : ∀ as ts, r.accepts as ts = pure (A as ts))
    {chosen : List (Edge × Option ExprId)}
    (htotal : ∃ i, f.expr.interval (chosen.filterMap Prod.snd) = .ok i) (extras : List Edge) :
    r.accept f extras chosen = (do
      r.tick
      return if f.Approves A (matchedBy chosen) then some (.ofChoices extras chosen)
        else none) := by
  have hmatched : (Assignment.ofChoices extras chosen).matched = matchedBy chosen := rfl
  obtain ⟨i, hi⟩ := htotal
  have hbag : f.expr.matchesBag (chosen.filterMap Prod.snd) = .ok (i.contains 1) := by
    rw [TripleExpr.matchesBag, hi]
    rfl
  have hiff : f.Approves A (matchedBy chosen) ↔ i.contains 1 = true ∧
      (f.annotated.all fun a => A a.source.actions (a.triplesOf (matchedBy chosen))) = true := by
    rw [List.all_eq_true]
    constructor
    · rintro ⟨⟨j, hj, hone⟩, hacts⟩
      rw [map_snd_matchedBy, hi] at hj
      exact ⟨Except.ok.inj hj ▸ hone, hacts⟩
    · rintro ⟨hone, hacts⟩
      exact ⟨⟨i, by rw [map_snd_matchedBy, hi], hone⟩, hacts⟩
  unfold Referee.accept
  refine congrArg _ (funext fun _ => ?_)
  rw [hbag]
  cases hone : i.contains 1 with
  | false => simp [hiff, hone]
  | true =>
    simp only [acceptsAll_eq hA, pure_bind, hmatched, hiff, hone, true_and]
    split <;> simp_all

end

/-! ## The outcome -/

section
variable {V : Term → ShapeExpr → Verdict} {extra : List Iri} {f : Form} {edges : List Edge}
  {s : Sorting}

/-- Whether an edge is among those that the search chooses for. -/
def Form.isOpen (V : Term → ShapeExpr → Verdict) (f : Form) (e : Edge) : Bool :=
  !(f.accepting V e).isEmpty

/-- Edges that are left out contribute nothing to what is matched. -/
theorem matchedBy_filter {keep : Edge → Bool} {chosen : List (Edge × Option ExprId)}
    (h : ∀ c ∈ chosen, keep c.1 = false → c.2 = none) :
    matchedBy (chosen.filter fun c => keep c.1) = matchedBy chosen := by
  rw [matchedBy, matchedBy, List.filterMap_filter]
  refine List.filterMap_congr fun c hc => ?_
  cases hkeep : keep c.1 with
  | true => rfl
  | false =>
    obtain ⟨e, o⟩ := c
    obtain rfl : o = none := h _ hc hkeep
    rfl

/-- The assignment of a choice holds every edge once: those that were given a constraint are
matched, and those that were left out are extra. -/
theorem ofChoices_perm (extras : List Edge) (chosen : List (Edge × Option ExprId)) :
    ((Assignment.ofChoices extras chosen).matched.map Prod.fst ++
      (Assignment.ofChoices extras chosen).extras).Perm (chosen.map Prod.fst ++ extras) := by
  induction chosen with
  | nil => simp [Assignment.ofChoices]
  | cons c chosen ih =>
    obtain ⟨e, _ | id⟩ := c
    · simp only [Assignment.ofChoices] at ih ⊢
      simp only [List.filterMap_cons, Option.map_none, Option.isNone_none, if_true, List.map_cons]
      rw [← List.append_assoc, List.cons_append]
      refine List.perm_middle.trans ?_
      rw [List.append_assoc]
      exact ih.cons e
    · exact ih.cons e

/-- The failures are the edges that have no choice. -/
theorem Sorting.Lists.mem_failures_iff (hs : s.Lists V extra f edges) {mf : MatchFailure} :
    mf ∈ s.failures ↔
      ∃ e ∈ edges, f.IsStuck V extra e ∧ mf = .unmatched e (f.complaints V e) := by
  simp only [hs.failures, List.mem_map, List.mem_filter, Form.isStuck_iff, Bool.and_eq_true,
    List.isEmpty_iff, Bool.not_eq_true', Bool.eq_false_iff, Ne, List.contains_iff_mem, and_assoc,
    eq_comm (a := mf)]

/-- If sorting told no failure, no edge is stuck. -/
theorem Sorting.Lists.not_isStuck (hs : s.Lists V extra f edges) (hfail : s.failures = [])
    {e : Edge} (he : e ∈ edges) : ¬ f.IsStuck V extra e := fun h =>
  List.not_mem_nil (hfail ▸ hs.mem_failures_iff.2 ⟨e, he, h, rfl⟩)

/-- Without failures, the search goes through the choices, those left aside that are without
alternative. -/
theorem Sorting.Lists.combinations_eq (hs : s.Lists V extra f edges) (hfail : s.failures = []) :
    (combinations (f.choices V extra edges)).map (List.filter fun c => f.isOpen V c.1) =
      combinations s.choices := by
  rw [map_filter_combinations]
  · congr 1
    rw [hs.choices, Form.choices, List.filter_map, List.filter_filter]
    refine congrArg (List.map _) (List.filter_congr fun e _ => ?_)
    rw [Bool.eq_iff_iff]
    simp only [Function.comp_apply, Form.isOpen, Bool.and_eq_true, and_iff_left_iff_imp]
    intro h
    exact Form.concerns_of_accepting (by simpa using h)
  · -- an edge that no constraint accepts is no failure, so it may be left out, and nothing else
    intro t ht hclosed
    obtain ⟨e, he, rfl⟩ := List.mem_map.1 ht
    obtain ⟨hedge, hconcerns⟩ := List.mem_filter.1 he
    have hempty : f.accepting V e = [] := by simpa [Form.isOpen] using hclosed
    have hextra : e.predicate ∈ extra := by
      by_contra hnot
      exact hs.not_isStuck hfail hedge (Form.isStuck_iff.2 ⟨hconcerns, hempty, hnot⟩)
    exact ⟨none, by simp [Form.options, hempty, hextra]⟩

/-- An edge that no constraint accepts is left out in every choice. -/
theorem Form.IsChoice.none_of_not_isOpen {chosen : List (Edge × Option ExprId)}
    (h : f.IsChoice V extra edges chosen) {c : Edge × Option ExprId} (hc : c ∈ chosen)
    (hclosed : f.isOpen V c.1 = false) : c.2 = none := by
  obtain ⟨e, _ | id⟩ := c
  · rfl
  · have hid : id ∈ f.accepting V e := Form.mem_accepting_iff.2 (h.allows hc)
    have hempty : f.accepting V e = [] := by simpa [Form.isOpen] using hclosed
    rw [hempty] at hid
    cases hid

/-- The assignment of a choice, and the edges that were left aside, are all edges that the form
concerns. -/
theorem Sorting.Lists.ofChoices_perm (hs : s.Lists V extra f edges) (hfail : s.failures = [])
    {chosen : List (Edge × Option ExprId)} (h : f.IsChoice V extra edges chosen) :
    ((Assignment.ofChoices s.extras (chosen.filter fun c => f.isOpen V c.1)).matched.map Prod.fst ++
      (Assignment.ofChoices s.extras (chosen.filter fun c => f.isOpen V c.1)).extras).Perm
        (edges.filter f.concerns) := by
  refine (Shex.ofChoices_perm _ _).trans ?_
  have hopen : (chosen.filter fun c => f.isOpen V c.1).map Prod.fst =
      (edges.filter f.concerns).filter (f.isOpen V) := by
    rw [← h.map_fst, List.filter_map]
    rfl
  have hclosed : s.extras = (edges.filter f.concerns).filter fun e => !f.isOpen V e := by
    rw [hs.extras, List.filter_filter]
    refine List.filter_congr fun e he => ?_
    have hfree := hs.not_isStuck hfail he
    rw [Form.isStuck_iff] at hfree
    rw [Bool.eq_iff_iff]
    simp only [Form.isOpen, Bool.and_eq_true, List.isEmpty_iff, List.contains_iff_mem, Bool.not_not]
    tauto
  rw [hopen, hclosed]
  exact List.filter_append_perm _ _

end

section
variable {m : Type → Type} [Monad m] [LawfulMonad m] [MonadExceptOf ValidationFault m]
  {r : Referee m} {V : Term → ShapeExpr → Verdict}
  {A : List SemanticAction → List Triple → Bool} {extra : List Iri} {f : Form} {edges : List Edge}
  {s : Sorting}

open Classical in
/-- What an attempt tells about a choice. -/
noncomputable def Sorting.answer (A : List SemanticAction → List Triple → Bool)
    (V : Term → ShapeExpr → Verdict) (f : Form) (s : Sorting)
    (chosen : List (Edge × Option ExprId)) : Option Assignment :=
  if f.Approves A (matchedBy chosen) then
    some (.ofChoices s.extras (chosen.filter fun c => f.isOpen V c.1))
  else none

/-- The search tries the choices one after the other. -/
theorem search_eq (hA : ∀ as ts, r.accepts as ts = pure (A as ts))
    (htotal : ∀ chosen, f.IsChoice V extra edges chosen →
      ∃ i, f.expr.interval (chosen.filterMap Prod.snd) = .ok i)
    (hs : s.Lists V extra f edges) (hfail : s.failures = []) :
    searchChoices (r.accept f s.extras) s.choices [] 0 =
      tryEach (fun chosen tried =>
          return (tried + 1, ← r.accept f s.extras (chosen.filter fun c => f.isOpen V c.1)))
        (combinations (f.choices V extra edges)) 0 ∧
    ∀ chosen ∈ combinations (f.choices V extra edges),
      r.accept f s.extras (chosen.filter fun c => f.isOpen V c.1) =
        (do r.tick; return s.answer A V f chosen) := by
  constructor
  · rw [searchChoices_eq, ← hs.combinations_eq hfail, tryEach_map]
    rfl
  · intro chosen hchosen
    have hchoice := Form.mem_combinations_choices.1 hchosen
    have hmatched := matchedBy_filter fun c hc => hchoice.none_of_not_isOpen hc
    rw [accept_eq hA, hmatched]
    · rfl
    · rw [← map_snd_matchedBy, hmatched, map_snd_matchedBy]
      exact htotal chosen hchoice

/-- A list has a first element with a property, or none with it. -/
theorem exists_first_or_forall_not {β : Type} (P : β → Prop) (bs : List β) :
    (∃ before b after, bs = before ++ b :: after ∧ P b ∧ ∀ b' ∈ before, ¬ P b') ∨
      ∀ b ∈ bs, ¬ P b := by
  classical
  cases h : bs.find? fun b => P b with
  | none => exact .inr (by simpa using h)
  | some b =>
    obtain ⟨hb, before, after, rfl, hbefore⟩ := List.find?_eq_some_iff_append.1 h
    exact .inl ⟨before, b, after, rfl, by simpa using hb, by simpa using hbefore⟩

/-- The ways in which matching ends: with failures, with the first choice that is approved, or after
all choices. -/
inductive Sorting.Ends (A : List SemanticAction → List Triple → Bool)
    (V : Term → ShapeExpr → Verdict) (extra : List Iri) (f : Form) (edges : List Edge)
    (s : Sorting) : Matching → Nat → Prop
  | stuck (hfail : s.failures ≠ []) : s.Ends A V extra f edges (.failed s.failures) 0
  | found (hfail : s.failures = []) {before after : List (List (Edge × Option ExprId))}
      {chosen : List (Edge × Option ExprId)}
      (hsplit : combinations (f.choices V extra edges) = before ++ chosen :: after)
      (happroved : f.Approves A (matchedBy chosen))
      (hbefore : ∀ c ∈ before, ¬ f.Approves A (matchedBy c)) :
      s.Ends A V extra f edges
        (.matched (.ofChoices s.extras (chosen.filter fun c => f.isOpen V c.1)))
        (before.length + 1)
  | exhausted (hfail : s.failures = [])
      (hnone : ∀ c ∈ combinations (f.choices V extra edges), ¬ f.Approves A (matchedBy c)) :
      s.Ends A V extra f edges
        (.failed [.noAssignment (combinations (f.choices V extra edges)).length])
        (combinations (f.choices V extra edges)).length

/-- Matching ticks once for each choice that it tries. -/
theorem findAssignment_ends (hV : ∀ t e, r.verdict t e = pure (V t e))
    (hA : ∀ as ts, r.accepts as ts = pure (A as ts)) (hcoh : f.IsCoherent)
    (htotal : ∀ chosen, f.IsChoice V extra edges chosen →
      ∃ i, f.expr.interval (chosen.filterMap Prod.snd) = .ok i) :
    ∃ (s : Sorting) (result : Matching) (n : Nat), s.Lists V extra f edges ∧
      s.Ends A V extra f edges result n ∧
      findAssignment r f extra edges = (do r.ticks n; return result) := by
  obtain ⟨s, hsort, hs⟩ :=
    (sort_returns hV hcoh : Returns (edges.foldlM (Sorting.place r f.constraints extra) _) _)
  unfold findAssignment
  rw [hsort, pure_bind]
  by_cases hfail : s.failures = []
  · rw [if_neg (by simp [hfail])]
    obtain ⟨hsearch, haccept⟩ := search_eq hA htotal hs hfail
    rw [hsearch]
    rcases exists_first_or_forall_not (fun c => f.Approves A (matchedBy c))
      (combinations (f.choices V extra edges)) with ⟨before, c, after, hsplit, hc, hbefore⟩ | hnone
    · refine ⟨s, _, _, hs, .found hfail hsplit hc hbefore, ?_⟩
      rw [hsplit] at haccept ⊢
      rw [tryEach_of_hit (b := c) (fun b hb => haccept b ?_)
        (fun b hb => if_neg (hbefore b hb)) (if_pos hc)]
      · simp only [bind_assoc, pure_bind]
      · rcases List.mem_append.1 hb with hb | hb
        · exact List.mem_append_left _ hb
        · simp [List.mem_singleton.1 hb]
    · refine ⟨s, _, _, hs, .exhausted hfail hnone, ?_⟩
      rw [tryEach_of_miss haccept fun c hc => if_neg (hnone c hc)]
      simp only [bind_assoc, pure_bind, Nat.zero_add]
  · rw [if_pos (by simpa using hfail)]
    exact ⟨s, _, _, hs, .stuck hfail, by simp [Referee.ticks]⟩

/-- The first choice that is approved is the outcome. -/
theorem Sorting.Lists.found (hs : s.Lists V extra f edges) (hfail : s.failures = [])
    (hnd : f.expr.constraintIds.Nodup) {before after : List (List (Edge × Option ExprId))}
    {chosen : List (Edge × Option ExprId)}
    (hsplit : combinations (f.choices V extra edges) = before ++ chosen :: after)
    (happroved : f.Approves A (matchedBy chosen))
    (hbefore : ∀ b ∈ before, ¬ f.Approves A (matchedBy b)) :
    f.Yields V A extra edges
      (.matched (.ofChoices s.extras (chosen.filter fun c => f.isOpen V c.1)))
      (before.length + 1) := by
  have hmem : ∀ c, f.IsChoice V extra edges c ↔ c ∈ before ++ chosen :: after := fun c => by
    rw [← hsplit, Form.mem_combinations_choices]
  have hascending : (combinations (f.choices V extra edges)).Pairwise fun c c' =>
      f.places c < f.places c' := Form.combinations_ascending hnd
  rw [hsplit] at hascending
  have hchoice : f.IsChoice V extra edges chosen := (hmem chosen).2 (by simp)
  have hcount : {c | f.IsChoice V extra edges c ∧ ¬ f.places chosen < f.places c}.ncard =
      before.length + 1 := by
    simp only [hmem]
    exact ncard_not_after (R := fun c c' => f.places c < f.places c') (fun _ => List.lt_irrefl _)
      (fun _ _ _ => List.lt_trans) hascending
  rw [← hcount]
  refine .found hchoice happroved (fun c hc hlt => ?_) ?_ (hs.ofChoices_perm hfail hchoice)
  · -- a choice with lesser places stands before the first one that is approved
    rcases List.mem_append.1 ((hmem c).1 hc) with hc | hc
    · exact hbefore c hc
    rcases List.mem_cons.1 hc with rfl | hc
    · exact absurd hlt (List.lt_irrefl _)
    · have hgt := List.rel_of_pairwise_cons (List.pairwise_append.1 hascending).2.1 hc
      exact absurd (List.lt_trans hlt hgt) (List.lt_irrefl _)
  · exact matchedBy_filter fun c hc => hchoice.none_of_not_isOpen hc

/-- If no choice is approved, all of them were tried. -/
theorem Sorting.Lists.exhausted (hs : s.Lists V extra f edges) (hfail : s.failures = [])
    (hnd : f.expr.constraintIds.Nodup)
    (hnone : ∀ c ∈ combinations (f.choices V extra edges), ¬ f.Approves A (matchedBy c)) :
    f.Yields V A extra edges
      (.failed [.noAssignment (combinations (f.choices V extra edges)).length])
      (combinations (f.choices V extra edges)).length :=
  .exhausted (fun _ he => hs.not_isStuck hfail he)
    (fun c hc => hnone c (Form.mem_combinations_choices.2 hc))
    (Form.length_combinations_choices hnd)

/-- An end of matching is an outcome that is told without the lists of the search. -/
theorem Sorting.Ends.yields {result : Matching} {n : Nat} (h : s.Ends A V extra f edges result n)
    (hs : s.Lists V extra f edges) (hnd : f.expr.constraintIds.Nodup) :
    f.Yields V A extra edges result n := by
  cases h with
  | stuck hfail => exact .stuck hfail fun _ => hs.mem_failures_iff
  | found hfail hsplit happroved hbefore => exact hs.found hfail hnd hsplit happroved hbefore
  | exhausted hfail hnone => exact hs.exhausted hfail hnd hnone

/-- The search is exhaustive, in order and exact: there are unmatched edges if and only if some edge
has constraints with its arc, none of which accepts it, and is not extra; otherwise the outcome is
the first choice that is approved, or the number of all choices. There is one tick for each choice
that is tried. -/
theorem findAssignment_exact (hV : ∀ t e, r.verdict t e = pure (V t e))
    (hA : ∀ as ts, r.accepts as ts = pure (A as ts)) (hcoh : f.IsCoherent)
    (hsorbe : f.expr.isSorbe = true) (extra : List Iri) (edges : List Edge) :
    ∃ result n, findAssignment r f extra edges = (do r.ticks n; return result) ∧
      f.Yields V A extra edges result n ∧
      ((∃ failures e reasons, result = .failed failures ∧ .unmatched e reasons ∈ failures) ↔
        ∃ e ∈ edges, (∃ c ∈ f.constraints, c.arc = e.arc) ∧
          (∀ c ∈ f.constraints, c.arc = e.arc →
            ∃ v, c.value = some v ∧ V e.opposite v ≠ .conforms) ∧
          e.predicate ∉ extra) := by
  rw [TripleExpr.isSorbe, Bool.and_eq_true, decide_eq_true_iff] at hsorbe
  have htotal : ∀ chosen, f.IsChoice V extra edges chosen →
      ∃ i, f.expr.interval (chosen.filterMap Prod.snd) = .ok i :=
    fun _ _ => TripleExpr.interval_total _ hsorbe.1
  obtain ⟨s, result, n, hs, hends, heq⟩ := findAssignment_ends hV hA hcoh htotal
  have hyields := hends.yields hs hsorbe.2
  refine ⟨result, n, heq, hyields, ?_⟩
  rw [hyields.unmatched_iff]
  refine exists_congr fun e => and_congr_right fun _ => ?_
  rw [Form.isStuck_iff, Form.concerns_iff, Form.accepting_eq_nil_iff]

end

/-- Two constraints with one arc, the first of which has a semantic action. -/
def guardedPair : Form :=
  .ofSorbe (.eachOf (.written ⟨⟨0⟩, []⟩)
    [.constraint (.written ⟨⟨1⟩, [⟨⟨"act"⟩, none⟩]⟩) ⟨⟨"p"⟩, false⟩ none,
      .constraint (.written ⟨⟨2⟩, []⟩) ⟨⟨"p"⟩, false⟩ none])

/-- An edge under `p` to a node. -/
def edgeTo (name : String) : Edge := ⟨⟨.iri ⟨"s"⟩, ⟨"p"⟩, .resource (.iri ⟨name⟩)⟩, false⟩

/-- Accepts triples if none of them goes to the node `a`. -/
def avoidsA (_ : List SemanticAction) (triples : List Triple) : Bool :=
  triples.all fun t => t.object ≠ (edgeTo "a").triple.object

/-- A referee that counts the assignments. -/
def countingReferee : Referee (StateT Nat (Except ValidationFault)) where
  verdict _ _ := return .conforms
  accepts as ts := return avoidsA as ts
  tick := modify (· + 1)

/-- As many ticks, as many counts. -/
theorem countingReferee_ticks (n k : Nat) :
    (countingReferee.ticks n).run k = .ok ((), k + n) := by
  induction n generalizing k with
  | zero => rfl
  | succ n ih =>
    rw [Referee.ticks, StateT.run_bind]
    exact (ih (k + 1)).trans (by rw [Nat.add_assoc, Nat.add_comm 1])

/-- The third choice is the first that is approved: the bag of the first does not match, and the
action rejects the second. -/
theorem guardedPair_third :
    guardedPair.IsCoherent ∧ guardedPair.expr.isSorbe = true ∧
      guardedPair.Yields (fun _ _ => .conforms) avoidsA [] [edgeTo "a", edgeTo "b"]
        (.matched ⟨[(edgeTo "a", ⟨2⟩), (edgeTo "b", ⟨1⟩)], []⟩) 3 := by
  have hvalues : guardedPair.expr.values = [] := by decide
  have hcoh : guardedPair.IsCoherent := fun v hv => absurd (hvalues ▸ hv) List.not_mem_nil
  have hsorbe : guardedPair.expr.isSorbe = true := by decide
  refine ⟨hcoh, hsorbe, ?_⟩
  obtain ⟨result, n, heq, hyields, -⟩ := findAssignment_exact (r := countingReferee)
    (V := fun _ _ => .conforms) (A := avoidsA) (fun _ _ => rfl) (fun _ _ => rfl) hcoh hsorbe []
    [edgeTo "a", edgeTo "b"]
  have hrun : (findAssignment countingReferee guardedPair [] [edgeTo "a", edgeTo "b"]).run 0 =
      .ok (.matched ⟨[(edgeTo "a", ⟨2⟩), (edgeTo "b", ⟨1⟩)], []⟩, 3) := by rfl
  rw [heq, StateT.run_bind, countingReferee_ticks] at hrun
  obtain ⟨rfl, hn⟩ := Prod.mk.inj (Except.ok.inj hrun)
  obtain rfl : n = 3 := (Nat.zero_add n).symm.trans hn
  exact hyields

end Shex
