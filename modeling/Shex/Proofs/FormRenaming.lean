import Mathlib.Logic.Relator
import Shex.Matching.Assignment
import Shex.Proofs.RunLogic

/-!
# Matching does not depend on identities

The constraints of a form have identities of its own, and two forms of one expression may differ in
them. `Form.Alike I P f g` says that they differ in nothing else: `I` relates the identities in `f`
to those in `g`, and `P` holds of the value expressions. Matching then takes the same course with
both, and finds assignments that differ in nothing else either (`findAssignment_simulates`).
-/

namespace Shex

open Run

variable {I : ExprId → ExprId → Prop} {P : ShapeExpr → Prop}

/-! ### Forms that differ in identities -/

/-- Two constraints of forms that come from the same constraint of a schema. -/
structure TripleConstraint.Alike (I : ExprId → ExprId → Prop) (P : ShapeExpr → Prop)
    (c d : TripleConstraint) : Prop where
  id : I c.id d.id
  source : c.mark.source = d.mark.source
  arc : c.arc = d.arc
  value : c.value = d.value
  holds : ∀ v, c.value = some v → P v

/-- Two entries with the same actions for corresponding constraints. -/
structure Annotated.Alike (I : ExprId → ExprId → Prop) (a b : Annotated) : Prop where
  actions : a.source.actions = b.source.actions
  constraints : ∀ i j, I i j → (i ∈ a.constraints ↔ j ∈ b.constraints)

/-- Two forms that differ in the identities of their constraints only. -/
structure Form.Alike (I : ExprId → ExprId → Prop) (P : ShapeExpr → Prop) (f g : Form) : Prop where
  unique : Relator.BiUnique I
  constraints : List.Forall₂ (TripleConstraint.Alike I P) f.constraints g.constraints
  matchesBag : ∀ b b' : Bag, List.Forall₂ I b b' → f.expr.matchesBag b = g.expr.matchesBag b'
  annotated : List.Forall₂ (Annotated.Alike I) f.annotated g.annotated

namespace Form

variable {f g : Form}

/-- A form differs in nothing from itself. -/
theorem Alike.refl (h : ∀ c ∈ f.constraints, ∀ v, c.value = some v → P v) : f.Alike Eq P f where
  unique := ⟨fun _ _ _ h h' => h.trans h'.symm, fun _ _ _ h h' => h.symm.trans h'⟩
  constraints := List.forall₂_same.2 fun c hc => ⟨rfl, rfl, rfl, rfl, h c hc⟩
  matchesBag b b' hb := by
    rw [List.forall₂_eq_eq_eq] at hb
    rw [hb]
  annotated := List.forall₂_same.2 fun a _ => ⟨rfl, by rintro i _ rfl; rfl⟩

/-- Forms whose constraints have the same arcs have the same predicates, in the same order and with
repetitions taken out in the same places. -/
theorem predicates_congr (h : List.Forall₂ (fun c d => c.arc = d.arc) f.constraints g.constraints)
    (inverse : Bool) : f.predicates inverse = g.predicates inverse := by
  unfold Form.predicates
  generalize f.constraints = cs at h
  generalize g.constraints = ds at h
  induction h with
  | nil => rfl
  | cons hc _ ih =>
    rw [List.filter_cons, List.filter_cons, hc]
    split
    · rw [List.map_cons, List.map_cons, ih, hc]
    · exact ih

/-- Forms that are alike look for the same predicates. -/
theorem Alike.predicates (h : f.Alike I P g) (inverse : Bool) :
    f.predicates inverse = g.predicates inverse :=
  predicates_congr (h.constraints.imp fun _ _ hc => hc.arc) inverse

/-- Corresponding identities are those of corresponding constraints. That identities correspond one
to one is what makes the search stop at the same place on both sides. -/
theorem Alike.constraint? (h : f.Alike I P g) {i j : ExprId} (hij : I i j) :
    Option.Rel (TripleConstraint.Alike I P) (f.constraint? i) (g.constraint? j) := by
  have hcs := h.constraints
  unfold Form.constraint?
  generalize f.constraints = cs at hcs
  generalize g.constraints = ds at hcs
  induction hcs with
  | nil => exact .none
  | @cons c d cs ds hc _ ih =>
    have hid : c.id = i ↔ d.id = j := Relator.rel_eq h.unique hc.id hij
    rw [List.find?_cons, List.find?_cons]
    by_cases hci : c.id = i
    · simp only [hci, hid.1 hci, decide_true]
      exact .some hc
    · simp only [hci, mt hid.2 hci, decide_false]
      exact ih

end Form

/-! ### Matching -/

/-- Corresponding choices for the same edge. -/
def SameChoice {α β : Type} (A : α → β → Prop) (x : Edge × α) (y : Edge × β) : Prop :=
  x.1 = y.1 ∧ A x.2 y.2

/-- Assignments of the same edges to corresponding constraints. -/
structure Assignment.Alike (I : ExprId → ExprId → Prop) (a b : Assignment) : Prop where
  matched : List.Forall₂ (SameChoice I) a.matched b.matched
  extras : a.extras = b.extras

/-- The same edges are assigned. -/
theorem Assignment.Alike.triples {a b : Assignment} (h : a.Alike I b) : a.triples = b.triples := by
  rw [Assignment.triples, Assignment.triples, ← List.forall₂_eq_eq_eq, List.forall₂_map_left_iff,
    List.forall₂_map_right_iff]
  exact h.matched.imp fun _ _ hxy => congrArg Edge.triple hxy.1

/-- The same outcome of matching, up to identities. -/
inductive Matching.Alike (I : ExprId → ExprId → Prop) : Matching → Matching → Prop
  | matched {a b : Assignment} (h : a.Alike I b) : Matching.Alike I (.matched a) (.matched b)
  | failed (failures : List MatchFailure) : Matching.Alike I (.failed failures) (.failed failures)

/-- The same answers so far, for corresponding constraints. -/
structure Candidacy.Alike (I : ExprId → ExprId → Prop) (k k' : Candidacy) : Prop where
  accepting : List.Forall₂ I k.accepting k'.accepting
  reasons : k.reasons = k'.reasons
  verdicts : k.verdicts = k'.verdicts

/-- The same edges were sorted in the same way. -/
structure Sorting.Alike (I : ExprId → ExprId → Prop) (s s' : Sorting) : Prop where
  choices : List.Forall₂ (SameChoice (List.Forall₂ (Option.Rel I))) s.choices s'.choices
  extras : s.extras = s'.extras
  failures : s.failures = s'.failures
  verdicts : s.verdicts = s'.verdicts

/-- Corresponding combinations of choices make corresponding assignments: an edge is given a
constraint on both sides, or left out on both. -/
theorem Assignment.ofChoices_alike (extras : List Edge) {xs ys : List (Edge × Option ExprId)}
    (h : List.Forall₂ (SameChoice (Option.Rel I)) xs ys) :
    (Assignment.ofChoices extras xs).Alike I (.ofChoices extras ys) := by
  constructor
  · unfold Assignment.ofChoices
    induction h with
    | nil => exact .nil
    | @cons x y xs ys hxy _ ih =>
      obtain ⟨e, _ | i⟩ := x <;> obtain ⟨_, _ | j⟩ := y <;> obtain ⟨rfl, hij⟩ := hxy <;> cases hij
      · exact ih
      · rename_i hij
        exact .cons ⟨rfl, hij⟩ ih
  · change extras ++ _ = extras ++ _
    congr 1
    induction h with
    | nil => rfl
    | @cons x y xs ys hxy _ ih =>
      obtain ⟨e, _ | i⟩ := x <;> obtain ⟨_, _ | j⟩ := y <;> obtain ⟨rfl, hij⟩ := hxy <;> cases hij
      · exact congrArg (e :: ·) ih
      · exact ih

/-- The bags of corresponding combinations correspond. -/
theorem forall₂_bag_of_choices {xs ys : List (Edge × Option ExprId)}
    (h : List.Forall₂ (SameChoice (Option.Rel I)) xs ys) :
    List.Forall₂ I (xs.filterMap Prod.snd) (ys.filterMap Prod.snd) := by
  induction h with
  | nil => exact .nil
  | @cons x y xs ys hxy _ ih =>
    obtain ⟨e, _ | i⟩ := x <;> obtain ⟨_, _ | j⟩ := y <;> obtain ⟨rfl, hij⟩ := hxy <;> cases hij
    · exact ih
    · rename_i hij
      exact .cons hij ih

/-- The same triples belong to corresponding constraints. This is all that handlers get to see of an
assignment, so they cannot tell the forms apart. -/
theorem map_triple_filter {xs ys : List (Edge × ExprId)} {a b : Annotated}
    (h : List.Forall₂ (SameChoice I) xs ys) (hab : a.Alike I b) :
    (xs.filter fun x => a.constraints.contains x.2).map (·.1.triple) =
      (ys.filter fun y => b.constraints.contains y.2).map (·.1.triple) := by
  induction h with
  | nil => rfl
  | @cons x y xs ys hxy _ ih =>
    have hmem : a.constraints.contains x.2 = b.constraints.contains y.2 := by
      rw [Bool.eq_iff_iff, List.contains_iff_mem, List.contains_iff_mem]
      exact hab.constraints _ _ hxy.2
    rw [List.filter_cons, List.filter_cons, hmem]
    split
    · rw [List.map_cons, List.map_cons, ih, hxy.1]
    · exact ih

section
variable {σ : Type} {R : RunState σ → RunState σ → Prop} {F : ValidationFault → Prop}

/-- Where a referee answers, another one gives the same answer, for value expressions with `P`. -/
structure Referee.Mirrors (R : RunState σ → RunState σ → Prop) (F : ValidationFault → Prop)
    (P : ShapeExpr → Prop) (r r' : Referee (Run σ)) : Prop where
  verdict : ∀ t e, P e → Simulates R Eq F (r.verdict t e) (r'.verdict t e)
  accepts : ∀ acts ts, Simulates R Eq F (r.accepts acts ts) (r'.accepts acts ts)
  tick : Simulates R Eq F r.tick r'.tick

variable {r r' : Referee (Run σ)} {f g : Form}

/-- A question is answered from the same record, or asked of both referees. -/
theorem Referee.Mirrors.judge (h : Referee.Mirrors R F P r r') {vs : Verdicts} {t : Term}
    {e : ShapeExpr} (he : P e) : Simulates R Eq F (r.judge vs t e) (r'.judge vs t e) := by
  unfold Referee.judge
  split
  · exact Simulates.pure rfl
  · refine (h.verdict t e he).bind fun v v' hv => ?_
    subst hv
    exact Simulates.pure rfl

/-- Corresponding candidates are asked for the same edge, and about the same value expression, so
the verdicts that are kept are the same. -/
theorem Candidacy.ask_simulates (h : Referee.Mirrors R F P r r') (t : Term) {k k' : Candidacy}
    (hk : k.Alike I k') {c d : TripleConstraint} (hc : c.Alike I P d) :
    Simulates R (Candidacy.Alike I) F (k.ask r t c) (k'.ask r' t d) := by
  have haccept : List.Forall₂ I (k.accepting ++ [c.id]) (k'.accepting ++ [d.id]) :=
    List.rel_append hk.accepting (.cons hc.id .nil)
  unfold ask
  rw [← hc.value]
  cases hv : c.value with
  | none => exact Simulates.pure ⟨haccept, hk.reasons, hk.verdicts⟩
  | some v =>
    dsimp only
    rw [← hk.verdicts]
    refine (h.judge (hc.holds v hv)).bind fun a b hab => ?_
    subst hab
    obtain ⟨_ | reasons, verdicts⟩ := a
    · exact Simulates.pure ⟨haccept, hk.reasons, rfl⟩
    · exact Simulates.pure ⟨hk.accepting, congrArg (addNew · reasons) hk.reasons, rfl⟩

/-- Candidates correspond one to one, in their order, so an edge gets corresponding choices. If none
accepts it, the reasons are the same, since those name no identities. -/
theorem Sorting.place_simulates (h : Referee.Mirrors R F P r r')
    {cs ds : List TripleConstraint} (hcs : List.Forall₂ (TripleConstraint.Alike I P) cs ds)
    (extra : List Iri) {s s' : Sorting} (hs : s.Alike I s') (e : Edge) :
    Simulates R (Sorting.Alike I) F (s.place r cs extra e) (s'.place r' ds extra e) := by
  have hfilter : List.Forall₂ (TripleConstraint.Alike I P) (cs.filter (·.arc = e.arc))
      (ds.filter (·.arc = e.arc)) := List.rel_filter (fun c d hc => by simp only [hc.arc]) hcs
  unfold place
  generalize cs.filter (·.arc = e.arc) = cs' at hfilter
  generalize ds.filter (·.arc = e.arc) = ds' at hfilter
  cases hfilter with
  | nil => exact Simulates.pure hs
  | @cons c d cs ds hc hcs =>
    have hstart : (⟨[], [], s.verdicts⟩ : Candidacy).Alike I ⟨[], [], s'.verdicts⟩ :=
      ⟨.nil, rfl, hs.verdicts⟩
    refine (Simulates.foldlM (List.Forall₂.cons hc hcs) (fun k k' c d hk hc =>
      Candidacy.ask_simulates h e.opposite hk hc) hstart).bind fun k k' hk => ?_
    have hempty : k.accepting.isEmpty = k'.accepting.isEmpty := by
      rw [Bool.eq_iff_iff, List.isEmpty_iff_length_eq_zero, hk.accepting.length_eq,
        List.isEmpty_iff_length_eq_zero]
    dsimp only
    rw [← hempty]
    split
    · split
      · exact Simulates.pure
          ⟨hs.choices, congrArg (· ++ [e]) hs.extras, hs.failures, hk.verdicts⟩
      · refine Simulates.pure ⟨hs.choices, hs.extras, ?_, hk.verdicts⟩
        rw [hs.failures, hk.reasons]
    · refine Simulates.pure ⟨?_, hs.extras, hs.failures, hk.verdicts⟩
      refine List.rel_append hs.choices (.cons ⟨rfl, ?_⟩ .nil)
      have hsome : List.Forall₂ (Option.Rel I) (k.accepting.map some) (k'.accepting.map some) :=
        List.rel_map (fun _ _ => .some) hk.accepting
      refine List.rel_append hsome ?_
      split
      · exact .cons .none .nil
      · exact .nil

/-- The same triples are given to the actions of a node, since corresponding edges are assigned. The
nodes themselves may differ in identity, but not in their actions. -/
theorem Referee.Mirrors.acceptsAll (h : Referee.Mirrors R F P r r') {xs ys : List (Edge × ExprId)}
    (hxs : List.Forall₂ (SameChoice I) xs ys) {as bs : List Annotated}
    (has : List.Forall₂ (Annotated.Alike I) as bs) :
    Simulates R Eq F (r.acceptsAll xs as) (r'.acceptsAll ys bs) := by
  induction has with
  | nil => exact Simulates.pure rfl
  | @cons a b as bs hab _ ih =>
    rw [Referee.acceptsAll, Referee.acceptsAll]
    rw [map_triple_filter hxs hab, hab.actions]
    refine (h.accepts _ _).bind fun v v' hv => ?_
    subst hv
    split
    · exact ih
    · exact Simulates.pure rfl

/-- A combination is counted on both sides, and corresponds to the same bag up to identities, of
which the interval is the same. -/
theorem Referee.Mirrors.accept (h : Referee.Mirrors R F P r r') (hf : f.Alike I P g)
    (extras : List Edge) {xs ys : List (Edge × Option ExprId)}
    (hxs : List.Forall₂ (SameChoice (Option.Rel I)) xs ys) :
    Simulates R (Option.Rel (Assignment.Alike I)) F (r.accept f extras xs)
      (r'.accept g extras ys) := by
  have hbag := hf.matchesBag _ _ (forall₂_bag_of_choices hxs)
  have hassign := Assignment.ofChoices_alike extras hxs
  unfold Referee.accept
  refine h.tick.bind fun _ _ _ => ?_
  rw [hbag]
  split
  · exact Simulates.throw
  · exact Simulates.pure .none
  · refine (h.acceptsAll hassign.matched hf.annotated).bind fun v v' hv => ?_
    subst hv
    split
    · exact Simulates.pure (.some hassign)
    · exact Simulates.pure .none

variable {α β β' γ γ' : Type} {B : β → β' → Prop} {C : γ → γ' → Prop}

/-- As many combinations were tried, with corresponding results. -/
def SameSearch (C : γ → γ' → Prop) (x : Nat × Option γ) (y : Nat × Option γ') : Prop :=
  x.1 = y.1 ∧ Option.Rel C x.2 y.2

/-- Corresponding alternatives are tried in the same order, by induction on their number. -/
theorem tryEach_simulates {attempt : β → Nat → Run σ (Nat × Option γ)}
    {attempt' : β' → Nat → Run σ (Nat × Option γ')}
    (hattempt : ∀ b b' n, B b b' → Simulates R (SameSearch C) F (attempt b n) (attempt' b' n))
    {bs : List β} {bs' : List β'} (hbs : List.Forall₂ B bs bs') (tried : Nat) :
    Simulates R (SameSearch C) F (tryEach attempt bs tried) (tryEach attempt' bs' tried) := by
  induction hbs generalizing tried with
  | nil => exact Simulates.pure ⟨rfl, .none⟩
  | cons hb _ ih =>
    rw [tryEach, tryEach]
    refine (hattempt _ _ tried hb).bind fun x y hxy => ?_
    obtain ⟨n, _ | c⟩ := x <;> obtain ⟨n', _ | c'⟩ := y <;> obtain ⟨rfl, hc⟩ := hxy <;> cases hc
    · exact ih n
    · rename_i hc
      exact Simulates.pure ⟨rfl, .some hc⟩

/-- The search goes through corresponding combinations, by induction on what is still to be
chosen. -/
theorem searchChoices_simulates {accept : List (Edge × β) → Run σ (Option γ)}
    {accept' : List (Edge × β') → Run σ (Option γ')}
    (haccept : ∀ xs ys, List.Forall₂ (SameChoice B) xs ys →
      Simulates R (Option.Rel C) F (accept xs) (accept' ys))
    {things : List (Edge × List β)} {things' : List (Edge × List β')}
    (hthings : List.Forall₂ (SameChoice (List.Forall₂ B)) things things')
    {chosen : List (Edge × β)} {chosen' : List (Edge × β')}
    (hchosen : List.Forall₂ (SameChoice B) chosen chosen') (tried : Nat) :
    Simulates R (SameSearch C) F (searchChoices accept things chosen tried)
      (searchChoices accept' things' chosen' tried) := by
  induction hthings generalizing chosen chosen' tried with
  | nil =>
    rw [searchChoices, searchChoices]
    refine (haccept _ _ (List.rel_reverse hchosen)).bind fun o o' ho => ?_
    exact Simulates.pure ⟨rfl, ho⟩
  | @cons x y _ _ hxy _ ih =>
    obtain ⟨a, options⟩ := x
    obtain ⟨_, options'⟩ := y
    obtain ⟨rfl, hoptions⟩ := hxy
    rw [searchChoices, searchChoices]
    refine tryEach_simulates (fun b b' n hb => ?_) hoptions tried
    exact ih (.cons ⟨rfl, hb⟩ hchosen) n

/-- Matching takes the same course with forms that differ in identities only: it asks the same
questions in the same order, counts the same combinations, and ends with corresponding assignments
or the same failures. -/
theorem findAssignment_simulates (h : Referee.Mirrors R F P r r') (hf : f.Alike I P g)
    (extra : List Iri) (edges : List Edge) :
    Simulates R (Matching.Alike I) F (findAssignment r f extra edges)
      (findAssignment r' g extra edges) := by
  have hstart : (⟨[], [], [], .empty⟩ : Sorting).Alike I ⟨[], [], [], .empty⟩ :=
    ⟨.nil, rfl, rfl, rfl⟩
  have hedges : List.Forall₂ Eq edges edges := List.forall₂_same.2 fun _ _ => rfl
  unfold findAssignment
  refine (Simulates.foldlM hedges (fun s s' e e' hs he => by
    subst he
    exact Sorting.place_simulates h hf.constraints extra hs e) hstart).bind fun s s' hs => ?_
  rw [← hs.failures]
  split
  · exact Simulates.pure (.failed _)
  · rw [← hs.extras]
    have hsearch := searchChoices_simulates (fun _ _ => h.accept hf s.extras) hs.choices .nil 0
    refine hsearch.bind fun x y hxy => ?_
    obtain ⟨n, _ | a⟩ := x <;> obtain ⟨_, _ | b⟩ := y <;> obtain ⟨rfl, hab⟩ := hxy <;> cases hab
    · exact Simulates.pure (.failed _)
    · rename_i hab
      exact Simulates.pure (.matched hab)

end

end Shex
