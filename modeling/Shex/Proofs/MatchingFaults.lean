import Shex.Proofs.Assumptions
import Shex.Proofs.Hiding

/-!
# Faults of checks and of matching

Faults are told apart: those that say that the schema has a flaw (`ValidationFault.IsStructural`),
the one that says that evaluations were nested too deep, and all others
(`ValidationFault.IsOrdinary`). Semantic actions and the patterns of an accepted schema only bring
ordinary faults, and matching brings those of the questions that it asks
(`findAssignment_faults`).
-/

namespace Shex

open Run

namespace ValidationFault

/-- A fault that says that the schema has a flaw: a label that is not declared, an expression that
cannot be matched, or a state that should not come about. -/
def IsStructural : ValidationFault → Prop
  | danglingReference _ | malformed _ | internal _ => True
  | _ => False

/-- A fault that neither says that the schema has a flaw nor that evaluations were nested too
deep. -/
def IsOrdinary (f : ValidationFault) : Prop := ¬ f.IsStructural ∧ ∀ n, f ≠ .limit (.depth n)

/-- Running out of the budget for expansions is an ordinary fault. -/
theorem isOrdinary_expansion {f : ValidationFault} (h : f.IsExpansion) : f.IsOrdinary := by
  obtain ⟨n, rfl⟩ := h
  exact ⟨id, nofun⟩

end ValidationFault

/-! ### Semantic actions and patterns -/

/-- Semantic actions end in no fault but that of a handler, and a fault of a handler is a message,
never one of the faults of the schema. -/
theorem Handlers.run_eq_error {σ : Type} {hs : Handlers σ} {ts : List Triple}
    {f : ValidationFault} :
    ∀ {acts : List SemanticAction} {world : σ}, (hs.run ts acts world).1 = .error f → f.IsOrdinary
  | [], world, h => by cases h
  | a :: rest, world, h => by
    rw [run] at h
    cases hhandler : hs.get? a.name with
    | none =>
      rw [hhandler] at h
      exact run_eq_error h
    | some handler =>
      rw [hhandler] at h
      rcases hanswer : handler a.code ts world with ⟨answer, world'⟩
      simp only [bind, StateT.bind, hanswer] at h
      match answer, h with
      | .error message, h =>
        cases h
        exact ⟨id, nofun⟩
      | .ok false, h => cases h
      | .ok true, h => exact run_eq_error h

/-- A facet whose pattern is accepted ends in no fault but that of a pattern that is too long: what
compiles once compiles again. -/
theorem StringFacet.failure?_eq_error {R : Readers} {byteLimit : Nat} {facet : StringFacet}
    {t : Term} {f : ValidationFault} (hcheck : Schema.checkPattern R facet = .ok ())
    (h : facet.failure? R byteLimit t = .error f) : f.IsOrdinary := by
  unfold failure? at h
  cases ht : t.text? with
  | none =>
    rw [ht] at h
    cases h
  | some text =>
    rw [ht] at h
    cases facet with
    | length | minLength | maxLength => cases h
    | pattern p flags =>
      simp only [complaint?, compile] at h
      by_cases hlong : p.utf8ByteSize > byteLimit
      · rw [if_pos hlong] at h
        cases h
        exact ⟨id, nofun⟩
      · have hok : R.checkPattern p flags = .ok () := by
          rw [Schema.checkPattern] at hcheck
          cases hp : R.checkPattern p flags with
          | ok => rfl
          | error flaw =>
            rw [hp] at hcheck
            cases hcheck
        obtain ⟨r, hr⟩ := R.compiles hok
        rw [if_neg hlong, hr] at h
        cases h

/-- A computation fails for an element of a list, after it gave results for those before it. -/
def FailsFirst {α β ε : Type} (f : α → Except ε β) (as : List α) (a : α) (e : ε) : Prop :=
  ∃ before after, as = before ++ a :: after ∧ (∀ b ∈ before, ∃ y, f b = .ok y) ∧ f a = .error e

namespace FailsFirst

variable {α β ε : Type} {f : α → Except ε β} {as : List α} {a b : α} {e : ε}

/-- The element that fails first fails. -/
theorem eq_error (h : FailsFirst f as a e) : f a = .error e := h.choose_spec.choose_spec.2.2

/-- The element that fails first is in the list. -/
theorem mem (h : FailsFirst f as a e) : a ∈ as := by
  obtain ⟨before, after, rfl, -⟩ := h
  simp

/-- The first element fails. -/
theorem head (h : f a = .error e) : FailsFirst f (a :: as) a e := ⟨[], as, rfl, by simp, h⟩

/-- The first element does not fail, and one of the others does. -/
theorem tail {y : β} (hb : f b = .ok y) (h : FailsFirst f as a e) : FailsFirst f (b :: as) a e := by
  obtain ⟨before, after, rfl, hbefore, ha⟩ := h
  exact ⟨b :: before, after, rfl, List.forall_mem_cons.2 ⟨⟨y, hb⟩, hbefore⟩, ha⟩

/-- If the computation fails for the head, then with that fault. -/
theorem head_eq {e' : ε} (hb : f b = .error e') (h : FailsFirst f (b :: as) a e) : e = e' := by
  obtain ⟨before, after, heq, hbefore, ha⟩ := h
  cases before with
  | nil =>
    cases heq
    exact Except.error.inj (ha.symm.trans hb)
  | cons c before =>
    cases heq
    obtain ⟨y, hy⟩ := hbefore b (by simp)
    cases hb.symm.trans hy

/-- If the computation gives a result for the head, then it fails in the rest. -/
theorem of_tail {y : β} (hb : f b = .ok y) (h : FailsFirst f (b :: as) a e) :
    FailsFirst f as a e := by
  obtain ⟨before, after, heq, hbefore, ha⟩ := h
  cases before with
  | nil =>
    cases heq
    cases ha.symm.trans hb
  | cons c before =>
    cases heq
    exact ⟨before, after, rfl, fun x hx => hbefore x (by simp [hx]), ha⟩

end FailsFirst

/-- A loop that collects results ends with the fault of the element that fails first, and all before
it have results. -/
theorem mapM_eq_error {α β ε : Type} {f : α → Except ε β} {e : ε} :
    ∀ {as : List α}, as.mapM f = .error e → ∃ a, FailsFirst f as a e
  | [], h => by cases h
  | a :: as, h => by
    rw [List.mapM_cons] at h
    cases ha : f a with
    | error e' =>
      rw [ha] at h
      cases h
      exact ⟨a, .head ha⟩
    | ok b =>
      rw [ha] at h
      cases has : as.mapM f with
      | error e' =>
        rw [has] at h
        cases h
        obtain ⟨a', ha'⟩ := mapM_eq_error has
        exact ⟨a', .tail ha ha'⟩
      | ok bs =>
        rw [has] at h
        cases h

/-- A loop of checks ends with a fault exactly if some element fails first with it. Stated as an
equivalence, since the order of checks decides which of several faults is reported. -/
theorem forM_eq_error_iff {α ε : Type} {f : α → Except ε Unit} {e : ε} :
    ∀ {as : List α}, as.forM f = .error e ↔ ∃ a, FailsFirst f as a e
  | [] => ⟨nofun, fun ⟨_, h⟩ => absurd h.mem List.not_mem_nil⟩
  | a :: as => by
    change (f a >>= fun _ => as.forM f) = .error e ↔ _
    cases ha : f a with
    | error e' =>
      constructor
      · rintro ⟨⟩
        exact ⟨a, .head ha⟩
      · rintro ⟨b, h⟩
        obtain rfl : e = e' := h.head_eq ha
        rfl
    | ok y =>
      change as.forM f = .error e ↔ _
      rw [forM_eq_error_iff]
      exact exists_congr fun b => ⟨.tail ha, fun h => h.of_tail ha⟩

/-- A node constraint of an accepted schema ends in no fault but that of a pattern that is too
long. -/
theorem NodeConstraint.failures_eq_error {s : Schema} {R : Readers} (hacc : s.analyze R = .ok ())
    {m : Mark} {c : NodeConstraint} (hx : s.Has (.nodeConstraint m c)) {byteLimit : Nat} {t : Term}
    {f : ValidationFault} (h : c.failures R byteLimit t = .error f) : f.IsOrdinary := by
  have hfacets : ∀ facet ∈ c.stringFacets, Schema.checkPattern R facet = .ok () :=
    Schema.forM_eq_ok_iff.1 (Schema.checkNodePatterns_of_has hacc hx)
  unfold failures at h
  cases hs : c.stringFacets.mapM (·.failure? R byteLimit t) with
  | error fault =>
    rw [hs] at h
    cases h
    obtain ⟨facet, hfails⟩ := mapM_eq_error hs
    exact StringFacet.failure?_eq_error (hfacets facet hfails.mem) hfails.eq_error
  | ok strings =>
    rw [hs] at h
    cases h

/-! ### Matching -/

section
variable {σ : Type} {I : RunState σ → Prop} {F : ValidationFault → Prop} {r : Referee (Run σ)}
  {f : Form}

/-- A question brings the faults of the referee. -/
theorem Referee.judge_faults {vs : Verdicts} {t : Term} {e : ShapeExpr}
    (h : Meets I (r.verdict t e) (fun _ => True) F) :
    Meets I (r.judge vs t e) (fun _ => True) F := by
  unfold judge
  split
  · exact Meets.pure trivial
  · exact h.bind fun _ _ => Meets.pure trivial

/-- A constraint that is asked is added to those that accept, or not. -/
theorem Candidacy.ask_faults {t : Term} {k : Candidacy} {c : TripleConstraint}
    (h : ∀ v, c.value = some v → Meets I (r.verdict t v) (fun _ => True) F) :
    Meets I (k.ask r t c) (fun k' => ∀ id ∈ k'.accepting, id ∈ k.accepting ∨ id = c.id) F := by
  unfold ask
  split
  · exact Meets.pure (by simp)
  · rename_i v hv
    refine (Referee.judge_faults (h v hv)).bind fun a _ => ?_
    obtain ⟨_ | reasons, vs⟩ := a
    · exact Meets.pure (by simp)
    · exact Meets.pure fun id hid => .inl hid

/-- Whatever the verdicts are, only constraints of the form are choices for edges, and every edge
that the form concerns has choices or an extra predicate, if there is no failure. -/
structure Sorting.IsRegular (extra : List Iri) (f : Form) (done : List Edge) (s : Sorting) :
    Prop where
  choices : ∀ p ∈ s.choices, ∀ id, some id ∈ p.2 → id ∈ f.expr.constraintIds
  covered : s.failures = [] → ∀ e ∈ done, f.concerns e = true →
    (∃ p ∈ s.choices, p.1 = e ∧ (none ∈ p.2 → e.predicate ∈ extra)) ∨ e.predicate ∈ extra

/-- One more edge is dealt with: it gets choices, or none as the form does not concern it or its
predicate is extra. -/
theorem Sorting.IsRegular.concat {extra : List Iri} {done : List Edge} {s s' : Sorting} {e : Edge}
    (hs : s.IsRegular extra f done) {more : List (Edge × List (Option ExprId))}
    (hchoices : s'.choices = s.choices ++ more)
    (hmore : ∀ p ∈ more, ∀ id, some id ∈ p.2 → id ∈ f.expr.constraintIds)
    (hfailures : s'.failures = [] → s.failures = [])
    (he : s'.failures = [] → f.concerns e = true →
      (∃ p ∈ more, p.1 = e ∧ (none ∈ p.2 → e.predicate ∈ extra)) ∨ e.predicate ∈ extra) :
    s'.IsRegular extra f (done ++ [e]) := by
  constructor
  · rw [hchoices]
    intro p hp
    rcases List.mem_append.1 hp with hp | hp
    · exact hs.choices p hp
    · exact hmore p hp
  · rw [hchoices]
    intro hnone x hx hconcerns
    rcases List.mem_append.1 hx with hx | hx
    · refine (hs.covered (hfailures hnone) x hx hconcerns).imp_left ?_
      rintro ⟨p, hp, hrest⟩
      exact ⟨p, List.mem_append_left _ hp, hrest⟩
    · obtain rfl := List.mem_singleton.1 hx
      refine (he hnone hconcerns).imp_left ?_
      rintro ⟨p, hp, hrest⟩
      exact ⟨p, List.mem_append_right _ hp, hrest⟩

/-- The constraints with the arc of an edge are asked, and the edge gets choices among them.
Whatever the verdicts are, it is never given to a constraint with another arc. -/
theorem Sorting.place_faults {extra : List Iri} {done : List Edge} {s : Sorting}
    (hs : s.IsRegular extra f done) {e : Edge}
    (h : ∀ c ∈ f.constraints, c.arc = e.arc → ∀ v, c.value = some v →
      Meets I (r.verdict e.opposite v) (fun _ => True) F) :
    Meets I (s.place r f.constraints extra e) (Sorting.IsRegular extra f (done ++ [e])) F := by
  have hask : Meets I
      ((f.constraints.filter (·.arc = e.arc)).foldlM (Candidacy.ask r e.opposite)
        ⟨[], [], s.verdicts⟩)
      (fun k => ∀ id ∈ k.accepting, id ∈ f.expr.constraintIds) F := by
    refine Meets.foldlM (fun _ (k : Candidacy) => ∀ id ∈ k.accepting, id ∈ f.expr.constraintIds)
      (d := []) (fun c hc d k hk => ?_) (by simp)
    obtain ⟨hcf, harc⟩ : c ∈ f.constraints ∧ c.arc = e.arc := by simpa using hc
    refine (Candidacy.ask_faults (h c hcf harc)).imp fun k' hk' id hid => ?_
    rcases hk' id hid with hid | rfl
    · exact hk id hid
    · exact List.mem_map.2 ⟨c, hcf, rfl⟩
  have hextra : extra.contains e.predicate = true ↔ e.predicate ∈ extra := List.contains_iff_mem
  have hnone := List.append_nil s.choices
  unfold place
  split
  · -- No constraint has the arc.
    rename_i hnil
    refine Meets.pure (hs.concat hnone.symm (by simp) id fun _ hconcerns => ?_)
    obtain ⟨c, hc, harc⟩ := Form.concerns_iff.1 hconcerns
    have hfound : c ∈ f.constraints.filter (·.arc = e.arc) := List.mem_filter.2 ⟨hc, by simpa⟩
    rw [hnil] at hfound
    cases hfound
  refine hask.bind fun k hk => ?_
  dsimp only
  split
  · -- No constraint accepts the edge.
    split
    · rename_i hx
      exact Meets.pure (hs.concat hnone.symm (by simp) id fun _ _ => .inr (hextra.1 hx))
    · exact Meets.pure (hs.concat hnone.symm (by simp) (by simp) (by simp))
  · -- It gets those that accept, and can be left out if its predicate is extra.
    refine Meets.pure (hs.concat rfl (List.forall_mem_singleton.2 fun id hid => hk id ?_) id
      fun _ _ => .inl ⟨_, List.mem_singleton_self _, rfl, fun hleft => ?_⟩)
    · rcases List.mem_append.1 hid with hid | hid
      · simpa using hid
      · split at hid <;> simp at hid
    · simpa using hleft

/-- The actions of an assignment bring the faults of the referee. -/
theorem Referee.acceptsAll_faults (hacc : ∀ acts ts, Meets I (r.accepts acts ts) (fun _ => True) F)
    (matched : List (Edge × ExprId)) :
    ∀ as : List Annotated, Meets I (r.acceptsAll matched as) (fun _ => True) F
  | [] => Meets.pure trivial
  | a :: as => by
    rw [acceptsAll]
    refine (hacc _ _).bind fun b _ => ?_
    split
    · exact acceptsAll_faults hacc matched as
    · exact Meets.pure trivial

/-- What is accepted is the assignment of the combination, and the only faults on the way are those
of counting and of actions, since the form can be counted. -/
theorem Referee.accept_faults (hacc : ∀ acts ts, Meets I (r.accepts acts ts) (fun _ => True) F)
    (htick : Meets I r.tick (fun _ => True) F) (hbag : ∀ b, ∃ m, f.expr.matchesBag b = .ok m)
    (extras : List Edge) (chosen : List (Edge × Option ExprId)) :
    Meets I (r.accept f extras chosen)
      (Tells (fun a => a = Assignment.ofChoices extras chosen) True) F := by
  unfold accept
  refine htick.bind fun _ _ => ?_
  obtain ⟨m, hm⟩ := hbag (chosen.filterMap Prod.snd)
  rw [hm]
  cases m with
  | false => exact Meets.pure trivial
  | true =>
    refine (acceptsAll_faults hacc _ _).bind fun b _ => ?_
    split
    · exact Meets.pure rfl
    · exact Meets.pure trivial

/-- Whatever the verdicts are, edges are matched with constraints of the form, and every edge that
the form concerns is matched or has an extra predicate. -/
structure Assignment.IsRegular (extra : List Iri) (f : Form) (edges : List Edge) (a : Assignment) :
    Prop where
  matched : ∀ x ∈ a.matched, x.2 ∈ f.expr.constraintIds
  covered : ∀ e ∈ edges, f.concerns e = true →
    (∃ id, (e, id) ∈ a.matched) ∨ e.predicate ∈ extra

/-- A combination of regular choices makes a regular assignment: matched edges are given to
constraints with their arcs, and nothing else is lost or made up. -/
theorem Sorting.IsRegular.ofChoices {extra : List Iri} {edges : List Edge} {s : Sorting}
    (hs : s.IsRegular extra f edges) (hnone : s.failures = [])
    {chosen : List (Edge × Option ExprId)} (hchosen : Combination s.choices chosen) :
    (Assignment.ofChoices s.extras chosen).IsRegular extra f edges := by
  constructor
  · intro x hx
    obtain ⟨c, hc, hx⟩ := List.mem_filterMap.1 hx
    obtain ⟨id, hid, rfl⟩ := Option.map_eq_some_iff.1 hx
    obtain ⟨t, ht, -, hopt⟩ := hchosen.mem hc
    exact hs.choices t ht id (hid ▸ hopt)
  · intro e he hconcerns
    rcases hs.covered hnone e he hconcerns with ⟨p, hp, rfl, hleft⟩ | hextra
    · obtain ⟨⟨e', o⟩, hc, he', hopt⟩ := hchosen.exists_of_mem hp
      obtain rfl : e' = p.1 := he'
      cases o with
      | none => exact .inr (hleft hopt)
      | some id => exact .inl ⟨id, List.mem_filterMap.2 ⟨(p.1, some id), hc, rfl⟩⟩
    · exact .inr hextra

/-- Matching brings no faults of its own, and finds regular assignments. So the fault about an
assignment that does not match its form never comes up. -/
theorem findAssignment_faults {extra : List Iri} {edges : List Edge}
    (hacc : ∀ acts ts, Meets I (r.accepts acts ts) (fun _ => True) F)
    (htick : Meets I r.tick (fun _ => True) F) (hbag : ∀ b, ∃ m, f.expr.matchesBag b = .ok m)
    (h : ∀ e ∈ edges, ∀ c ∈ f.constraints, c.arc = e.arc → ∀ v, c.value = some v →
      Meets I (r.verdict e.opposite v) (fun _ => True) F) :
    Meets I (findAssignment r f extra edges)
      (fun m => ∀ a, m = .matched a → a.IsRegular extra f edges) F := by
  have hsort : Meets I (edges.foldlM (Sorting.place r f.constraints extra) ⟨[], [], [], .empty⟩)
      (Sorting.IsRegular extra f edges) F :=
    Meets.foldlM (fun done => Sorting.IsRegular extra f done) (d := [])
      (fun e he _ s hs => Sorting.place_faults hs (h e he)) ⟨by simp, by simp⟩
  unfold findAssignment
  refine hsort.bind fun s hs => ?_
  split
  · exact Meets.pure nofun
  · rename_i hnone
    refine (searchChoices_meets (fun chosen a => a = Assignment.ofChoices s.extras chosen)
      (fun _ => True) fun chosen _ => Referee.accept_faults hacc htick hbag s.extras chosen).bind
      fun p hp => ?_
    obtain ⟨n, _ | a⟩ := p
    · exact Meets.pure nofun
    · obtain ⟨chosen, hchosen, rfl⟩ := hp
      refine Meets.pure fun a' ha' => ?_
      cases ha'
      exact hs.ofChoices (by simpa using hnone) hchosen

end

end Shex
