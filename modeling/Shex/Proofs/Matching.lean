import Mathlib.Data.List.Forall2
import Shex.Proofs.RunLogic

/-!
# What matching finds

`findAssignment` asks its referee for verdicts, sorts the edges of a neighbourhood and searches
through the choices. Here this is reduced to a condition without search, `Form.Fits`: every edge
that has a constraint with its arc can be given one that accepts it, or be left out if its predicate
is extra, such that the bag of the given constraints matches the expression. The main statement is
`findAssignment_meets`, for a referee whose verdicts are those of a relation between nodes and
expressions.
-/

namespace Shex

open Run

/-! ## The search -/

section
variable {σ α β γ : Type} {I : RunState σ → Prop} {F : ValidationFault → Prop}

/-- A choice for each of several things. -/
def Combination (things : List (α × List β)) (chosen : List (α × β)) : Prop :=
  List.Forall₂ (fun t c => c.1 = t.1 ∧ c.2 ∈ t.2) things chosen

/-- What an attempt tells: a success meets `hit`, and a failure proves `miss`. -/
def Tells (hit : γ → Prop) (miss : Prop) : Option γ → Prop
  | some c => hit c
  | none => miss

/-- Trying alternatives ends with the first success, or proves that there is none, by induction on
the alternatives. -/
theorem tryEach_meets {attempt : β → Nat → Run σ (Nat × Option γ)} {hit : β → γ → Prop}
    {miss : β → Prop} :
    ∀ {bs : List β} {tried : Nat},
      (∀ b ∈ bs, ∀ n, Meets I (attempt b n) (fun r => Tells (hit b) (miss b) r.2) F) →
      Meets I (tryEach attempt bs tried)
        (fun r => Tells (fun c => ∃ b ∈ bs, hit b c) (∀ b ∈ bs, miss b) r.2) F
  | [], _, _ => Meets.pure (by simp [Tells])
  | b :: bs, tried, h => by
    rw [tryEach]
    refine (h b (by simp) tried).bind fun r hr => ?_
    obtain ⟨n, _ | c⟩ := r
    · refine (tryEach_meets fun b hb => h b (List.mem_cons_of_mem _ hb)).imp fun r' hr' => ?_
      obtain ⟨n', _ | c⟩ := r'
      · exact List.forall_mem_cons.2 ⟨hr, hr'⟩
      · obtain ⟨b', hb', hc⟩ := hr'
        exact ⟨b', List.mem_cons_of_mem _ hb', hc⟩
    · exact Meets.pure ⟨b, by simp, hr⟩

/-- The search finds a combination that is accepted, and if it finds none there is none. The
induction is on what is still to be chosen, and `before` has what was chosen so far, which the
attempts are told. -/
theorem searchChoices_meets {accept : List (α × β) → Run σ (Option γ)}
    (hit : List (α × β) → γ → Prop) (miss : List (α × β) → Prop) :
    ∀ {things : List (α × List β)} {before : List (α × β)} {tried : Nat},
      (∀ chosen, Combination things chosen → Meets I (accept (before.reverse ++ chosen))
        (Tells (hit (before.reverse ++ chosen)) (miss (before.reverse ++ chosen))) F) →
      Meets I (searchChoices accept things before tried)
        (fun r => Tells
          (fun c => ∃ chosen, Combination things chosen ∧ hit (before.reverse ++ chosen) c)
          (∀ chosen, Combination things chosen → miss (before.reverse ++ chosen)) r.2) F
  | [], before, tried, h => by
    rw [searchChoices]
    have hnone := h [] List.Forall₂.nil
    rw [List.append_nil] at hnone
    refine hnone.bind fun r hr => Meets.pure ?_
    cases r with
    | none =>
      intro chosen hc
      cases hc
      rwa [List.append_nil]
    | some c => exact ⟨[], List.Forall₂.nil, by rwa [List.append_nil]⟩
  | (a, options) :: rest, before, tried, h => by
    rw [searchChoices]
    have hstep : ∀ b ∈ options, ∀ n, Meets I (searchChoices accept rest ((a, b) :: before) n)
        (fun r => Tells
          (fun c => ∃ chosen, Combination rest chosen ∧
            hit (before.reverse ++ (a, b) :: chosen) c)
          (∀ chosen, Combination rest chosen → miss (before.reverse ++ (a, b) :: chosen))
          r.2) F := by
      intro b hb n
      have := @searchChoices_meets accept hit miss rest ((a, b) :: before) n fun chosen hc => by
        simpa using h ((a, b) :: chosen) (List.Forall₂.cons ⟨rfl, hb⟩ hc)
      simpa using this
    refine (tryEach_meets hstep).imp fun r hr => ?_
    obtain ⟨n, _ | c⟩ := r
    · intro chosen hc
      cases hc with
      | @cons _ x _ xs hx hxs =>
        obtain ⟨a', b⟩ := x
        obtain rfl : a' = a := hx.1
        exact hr b hx.2 xs hxs
    · obtain ⟨b, hb, chosen, hc, hhit⟩ := hr
      exact ⟨(a, b) :: chosen, List.Forall₂.cons ⟨rfl, hb⟩ hc, hhit⟩

end

/-! ## What matching decides -/

/-- A node meets the value expression of a constraint, if it has one. -/
def TripleConstraint.Accepts (V : Term → ShapeExpr → Prop) (t : Term) (c : TripleConstraint) :
    Prop :=
  ∀ v, c.value = some v → V t v

namespace Form

/-- Whether some constraint has the arc of an edge. -/
def concerns (f : Form) (e : Edge) : Bool := f.constraints.any (·.arc = e.arc)

/-- What may be chosen for an edge: a constraint with its arc that accepts it, or to leave it out if
its predicate is extra. -/
def Allows (V : Term → ShapeExpr → Prop) (extra : List Iri) (f : Form) (e : Edge) :
    Option ExprId → Prop
  | some id => ∃ c ∈ f.constraints, c.arc = e.arc ∧ c.Accepts V e.opposite ∧ c.id = id
  | none => e.predicate ∈ extra

/-- The edges that a form concerns can be divided among its constraints, with extra ones left out,
such that the bag of constraints matches. -/
def Fits (V : Term → ShapeExpr → Prop) (extra : List Iri) (f : Form) (edges : List Edge) : Prop :=
  ∃ chosen : List (Option ExprId),
    List.Forall₂ (f.Allows V extra) (edges.filter f.concerns) chosen ∧
      f.expr.matchesBag (chosen.filterMap id) = .ok true

/-- No two value expressions have one identity. -/
def IsCoherent (f : Form) : Prop :=
  ∀ v ∈ f.expr.values, ∀ v' ∈ f.expr.values, v.id = v'.id → v = v'

/-- The value expression of a constraint of the form is one of those that the form asks for. -/
theorem mem_values {f : Form} {c : TripleConstraint} (hc : c ∈ f.constraints) {v : ShapeExpr}
    (hv : c.value = some v) : v ∈ f.expr.values :=
  List.mem_filterMap.2 ⟨c, hc, hv⟩

/-- A form concerns an edge if it has a constraint with its arc. -/
theorem concerns_iff {f : Form} {e : Edge} :
    f.concerns e = true ↔ ∃ c ∈ f.constraints, c.arc = e.arc := by
  simp [concerns]

variable {V W : Term → ShapeExpr → Prop} {extra : List Iri} {f : Form}

/-- More nodes that meet value expressions allow more choices. -/
theorem Allows.mono {e : Edge} {o : Option ExprId}
    (h : ∀ v ∈ f.expr.values, V e.opposite v → W e.opposite v) (ho : f.Allows V extra e o) :
    f.Allows W extra e o := by
  cases o with
  | none => exact ho
  | some id =>
    obtain ⟨c, hc, harc, hacc, hid⟩ := ho
    exact ⟨c, hc, harc, fun v hv => h v (mem_values hc hv) (hacc v hv), hid⟩

/-- More nodes that meet value expressions make more neighbourhoods match, with the same edges given
to the same constraints. -/
theorem Fits.mono {edges : List Edge}
    (h : ∀ e ∈ edges, ∀ v ∈ f.expr.values, V e.opposite v → W e.opposite v)
    (hf : f.Fits V extra edges) : f.Fits W extra edges := by
  obtain ⟨chosen, hch, hbag⟩ := hf
  refine ⟨chosen, ?_, hbag⟩
  have hmem : ∀ e ∈ edges.filter f.concerns, e ∈ edges := fun e he => (List.mem_filter.1 he).1
  generalize edges.filter f.concerns = es at hch hmem
  clear hbag
  induction hch with
  | nil => exact .nil
  | @cons e o es os ho _ ih =>
    exact .cons (ho.mono (h e (hmem e (by simp)))) (ih fun e he => hmem e (by simp [he]))

end Form

/-! ## Asking the constraints -/

section
variable {σ : Type} {I : RunState σ → Prop} {F : ValidationFault → Prop} {r : Referee (Run σ)}
  {V : Term → ShapeExpr → Prop} {extra : List Iri} {f : Form}

/-- The answers in a table are those of `V`. -/
def Agree (V : Term → ShapeExpr → Prop) (f : Form) (vs : Verdicts) : Prop :=
  ∀ v ∈ f.expr.values, ∀ t d, vs.get? (t, v.id) = some d → (d = .conforms ↔ V t v)

/-- A verdict that is taken from the table is the one that the referee would give. The table is
asked by identity, so this needs value expressions that are told apart by their identities. -/
theorem judge_meets (hcoh : f.IsCoherent) {t : Term} {v : ShapeExpr} (hv : v ∈ f.expr.values)
    {vs : Verdicts} (hvs : Agree V f vs)
    (hr : Meets I (r.verdict t v) (fun d => d = .conforms ↔ V t v) F) :
    Meets I (r.judge vs t v) (fun p => (p.1 = .conforms ↔ V t v) ∧ Agree V f p.2) F := by
  unfold Referee.judge
  split
  · rename_i d hd
    exact Meets.pure ⟨hvs v hv t d hd, hvs⟩
  · refine hr.bind fun d hd => Meets.pure ⟨hd, fun v' hv' t' d' hget => ?_⟩
    by_cases hkey : (t, v.id) = (t', v'.id)
    · obtain ⟨rfl, hid⟩ := Prod.mk.injEq .. ▸ hkey
      obtain rfl := hcoh v hv v' hv' hid
      rw [Table.get?_insert_self] at hget
      cases hget
      exact hd
    · rw [Table.get?_insert_of_ne _ hkey] at hget
      exact hvs v' hv' t' d' hget

/-- One more constraint is asked. If it has no value expression it accepts without a question;
otherwise the verdict decides, and is kept in the table. -/
theorem ask_meets (hcoh : f.IsCoherent) {t : Term} {c : TripleConstraint} (hc : c ∈ f.constraints)
    {k : Candidacy} (hk : Agree V f k.verdicts)
    (hr : ∀ v, c.value = some v → Meets I (r.verdict t v) (fun d => d = .conforms ↔ V t v) F) :
    Meets I (Candidacy.ask r t k c)
      (fun k' => (∀ id, id ∈ k'.accepting ↔ id ∈ k.accepting ∨ c.Accepts V t ∧ c.id = id) ∧
        Agree V f k'.verdicts) F := by
  unfold Candidacy.ask
  split
  · rename_i hnone
    refine Meets.pure ⟨fun id => ?_, hk⟩
    simp [TripleConstraint.Accepts, hnone, eq_comm]
  · rename_i v hv
    have hacc : c.Accepts V t ↔ V t v := by simp [TripleConstraint.Accepts, hv]
    refine (judge_meets hcoh (Form.mem_values hc hv) hk (hr v hv)).bind fun p hp => ?_
    obtain ⟨d, vs⟩ := p
    cases d with
    | conforms =>
      refine Meets.pure ⟨fun id => ?_, hp.2⟩
      simp [hacc, hp.1.1 rfl, eq_comm]
    | fails reasons =>
      refine Meets.pure ⟨fun id => ?_, hp.2⟩
      have hV : ¬ V t v := fun h => by cases hp.1.2 h
      simp [hacc, hV]

/-- All constraints of a list are asked: those that accept are found, and if none does there are
reasons. -/
theorem askAll_meets (hcoh : f.IsCoherent) {t : Term} {vs : Verdicts} (hvs : Agree V f vs)
    {cs : List TripleConstraint} (hcs : ∀ c ∈ cs, c ∈ f.constraints)
    (hr : ∀ c ∈ cs, ∀ v, c.value = some v →
      Meets I (r.verdict t v) (fun d => d = .conforms ↔ V t v) F) :
    Meets I (cs.foldlM (Candidacy.ask r t) ⟨[], [], vs⟩)
      (fun k => (∀ id, id ∈ k.accepting ↔ ∃ c ∈ cs, c.Accepts V t ∧ c.id = id) ∧
        Agree V f k.verdicts) F := by
  refine Meets.foldlM (fun (done : List TripleConstraint) (k : Candidacy) =>
    (∀ id, id ∈ k.accepting ↔ ∃ c ∈ done, c.Accepts V t ∧ c.id = id) ∧ Agree V f k.verdicts)
    (d := []) ?_ ⟨by simp, hvs⟩
  rintro c hc done k ⟨hk, hagree⟩
  refine (ask_meets hcoh (hcs c hc) hagree (hr c hc)).imp ?_
  rintro k' ⟨hk', hagree'⟩
  refine ⟨fun id => ?_, hagree'⟩
  rw [hk', hk]
  simp [or_and_right, exists_or]

/-! ## Sorting the edges -/

/-- A relation between lists of which the first has one more element at the end. -/
theorem forall₂_concat_iff {α β : Type} {R : α → β → Prop} {a : α} :
    ∀ {as : List α} {cs : List β}, List.Forall₂ R (as ++ [a]) cs ↔
      ∃ bs b, cs = bs ++ [b] ∧ List.Forall₂ R as bs ∧ R a b
  | [], cs => by
    constructor
    · rintro (_ | ⟨h, _ | _⟩)
      exact ⟨[], _, rfl, .nil, h⟩
    · rintro ⟨bs, b, rfl, hbs, hb⟩
      cases hbs
      exact .cons hb .nil
  | x :: as, cs => by
    constructor
    · rintro (_ | ⟨h, htail⟩)
      obtain ⟨bs, b, rfl, hbs, hb⟩ := forall₂_concat_iff.1 htail
      exact ⟨_ :: bs, b, rfl, .cons h hbs, hb⟩
    · rintro ⟨bs, b, rfl, hbs, hb⟩
      cases hbs with
      | cons h htail => exact .cons h (forall₂_concat_iff.2 ⟨_, b, rfl, htail, hb⟩)

/-- What sorting has found out about the edges `done`. -/
structure Sorting.Sorts (V : Term → ShapeExpr → Prop) (extra : List Iri) (f : Form)
    (done : List Edge) (s : Sorting) : Prop where
  agree : Agree V f s.verdicts
  options : ∀ p ∈ s.choices, p.1 ∈ done ∧ ∀ o ∈ p.2, f.Allows V extra p.1 o
  extras : ∀ e ∈ s.extras, e ∈ done ∧ e.predicate ∈ extra
  /-- An edge that was a failure can be given to no constraint and must not be left out. -/
  failed : s.failures ≠ [] →
    ∀ chosen, ¬ List.Forall₂ (f.Allows V extra) (done.filter f.concerns) chosen
  /-- The combinations make the same bags as all that is allowed for the edges. -/
  bags : s.failures = [] → ∀ ids,
    (∃ chosen, Combination s.choices chosen ∧ chosen.filterMap Prod.snd = ids) ↔
      ∃ chosen, List.Forall₂ (f.Allows V extra) (done.filter f.concerns) chosen ∧
        chosen.filterMap id = ids

namespace Sorting.Sorts

variable {done : List Edge} {s : Sorting} {e : Edge}

/-- An edge whose arc has no constraint changes nothing. -/
theorem skip (hs : s.Sorts V extra f done) (he : f.concerns e = false) :
    s.Sorts V extra f (done ++ [e]) := by
  have hfilter : (done ++ [e]).filter f.concerns = done.filter f.concerns := by simp [he]
  constructor
  · exact hs.agree
  · exact fun p hp => ⟨List.mem_append_left _ (hs.options p hp).1, (hs.options p hp).2⟩
  · exact fun x hx => ⟨List.mem_append_left _ (hs.extras x hx).1, (hs.extras x hx).2⟩
  · rw [hfilter]
    exact hs.failed
  · rw [hfilter]
    exact hs.bags

/-- An edge with nothing to be chosen for it is a failure. From then on the edges cannot fit,
whatever is chosen for the others. -/
theorem fail (hs : s.Sorts V extra f done) (he : f.concerns e = true)
    (hno : ∀ o, ¬ f.Allows V extra e o) {vs : Verdicts} (hvs : Agree V f vs) (m : MatchFailure) :
    Sorting.Sorts V extra f (done ++ [e])
      { s with verdicts := vs, failures := s.failures ++ [m] } := by
  constructor
  · exact hvs
  · exact fun p hp => ⟨List.mem_append_left _ (hs.options p hp).1, (hs.options p hp).2⟩
  · exact fun x hx => ⟨List.mem_append_left _ (hs.extras x hx).1, (hs.extras x hx).2⟩
  · intro _ chosen hch
    rw [List.filter_append, List.filter_cons_of_pos he, List.filter_nil, forall₂_concat_iff] at hch
    obtain ⟨_, o, _, _, ho⟩ := hch
    exact hno o ho
  · simp

/-- An edge that can only be left out adds nothing to the bags, so it is put among the extra ones,
and the combinations are those for the other edges. -/
theorem leave (hs : s.Sorts V extra f done) (he : f.concerns e = true)
    (hextra : e.predicate ∈ extra) (hno : ∀ id, ¬ f.Allows V extra e (some id)) {vs : Verdicts}
    (hvs : Agree V f vs) :
    Sorting.Sorts V extra f (done ++ [e]) { s with verdicts := vs, extras := s.extras ++ [e] } := by
  have hfilter : (done ++ [e]).filter f.concerns = done.filter f.concerns ++ [e] := by simp [he]
  constructor
  · exact hvs
  · exact fun p hp => ⟨List.mem_append_left _ (hs.options p hp).1, (hs.options p hp).2⟩
  · intro x hx
    rcases List.mem_append.1 hx with hx | hx
    · exact ⟨List.mem_append_left _ (hs.extras x hx).1, (hs.extras x hx).2⟩
    · obtain rfl := List.mem_singleton.1 hx
      exact ⟨by simp, hextra⟩
  · intro hne chosen hch
    rw [hfilter, forall₂_concat_iff] at hch
    obtain ⟨bs, o, _, hbs, _⟩ := hch
    exact hs.failed hne bs hbs
  · intro hnil ids
    rw [hs.bags hnil, hfilter]
    constructor
    · rintro ⟨chosen, hch, rfl⟩
      exact ⟨chosen ++ [none], forall₂_concat_iff.2 ⟨_, _, rfl, hch, hextra⟩, by simp⟩
    · rintro ⟨_, hch, rfl⟩
      obtain ⟨bs, o, rfl, hbs, ho⟩ := forall₂_concat_iff.1 hch
      cases o with
      | none => exact ⟨bs, hbs, by simp⟩
      | some id => exact absurd ho (hno id)

/-- An edge with choices: the bags that combinations make are those for the edges before, with one
of the options added. -/
theorem choose (hs : s.Sorts V extra f done) (he : f.concerns e = true)
    {options : List (Option ExprId)} (hopt : ∀ o, o ∈ options ↔ f.Allows V extra e o)
    {vs : Verdicts} (hvs : Agree V f vs) :
    Sorting.Sorts V extra f (done ++ [e])
      { s with verdicts := vs, choices := s.choices ++ [(e, options)] } := by
  have hfilter : (done ++ [e]).filter f.concerns = done.filter f.concerns ++ [e] := by simp [he]
  constructor
  · exact hvs
  · intro p hp
    rcases List.mem_append.1 hp with hp | hp
    · exact ⟨List.mem_append_left _ (hs.options p hp).1, (hs.options p hp).2⟩
    · obtain rfl := List.mem_singleton.1 hp
      exact ⟨by simp, fun o ho => (hopt o).1 ho⟩
  · exact fun x hx => ⟨List.mem_append_left _ (hs.extras x hx).1, (hs.extras x hx).2⟩
  · intro hne chosen hch
    rw [hfilter, forall₂_concat_iff] at hch
    obtain ⟨bs, o, _, hbs, _⟩ := hch
    exact hs.failed hne bs hbs
  · intro hnil ids
    rw [hfilter]
    constructor
    · rintro ⟨_, hch, rfl⟩
      obtain ⟨cs, c, rfl, hcs, hc, ho⟩ := forall₂_concat_iff.1 hch
      obtain ⟨bs, hbs, hids⟩ := (hs.bags hnil _).1 ⟨cs, hcs, rfl⟩
      refine ⟨bs ++ [c.2], forall₂_concat_iff.2 ⟨_, _, rfl, hbs, (hopt _).1 ho⟩, ?_⟩
      rw [List.filterMap_append, List.filterMap_append, hids]
      rfl
    · rintro ⟨_, hch, rfl⟩
      obtain ⟨bs, o, rfl, hbs, ho⟩ := forall₂_concat_iff.1 hch
      obtain ⟨cs, hcs, hids⟩ := (hs.bags hnil _).2 ⟨bs, hbs, rfl⟩
      refine ⟨cs ++ [(e, o)], forall₂_concat_iff.2 ⟨_, _, rfl, hcs, rfl, (hopt _).2 ho⟩, ?_⟩
      rw [List.filterMap_append, List.filterMap_append, hids]
      rfl

end Sorting.Sorts

/-- One edge is sorted. The constraints with its arc are asked, and then it has choices, can only be
left out, or is a failure; an edge that the form does not concern changes nothing. -/
theorem place_meets (hcoh : f.IsCoherent) {done : List Edge} {s : Sorting}
    (hs : s.Sorts V extra f done) {e : Edge}
    (hr : ∀ c ∈ f.constraints, c.arc = e.arc → ∀ v, c.value = some v →
      Meets I (r.verdict e.opposite v) (fun d => d = .conforms ↔ V e.opposite v) F) :
    Meets I (s.place r f.constraints extra e) (Sorting.Sorts V extra f (done ++ [e])) F := by
  unfold Sorting.place
  have hmem : ∀ c,
      c ∈ f.constraints.filter (·.arc = e.arc) ↔ c ∈ f.constraints ∧ c.arc = e.arc := by
    simp
  split
  · rename_i hnil
    refine Meets.pure (hs.skip ?_)
    rw [Bool.eq_false_iff, Ne, Form.concerns_iff]
    rintro ⟨c, hc⟩
    exact List.not_mem_nil (hnil ▸ (hmem c).2 hc)
  · rename_i cs hcons
    have he : f.concerns e = true := by
      obtain ⟨c, hc⟩ := List.exists_mem_of_ne_nil _ hcons
      exact Form.concerns_iff.2 ⟨c, (hmem c).1 hc⟩
    refine (askAll_meets hcoh hs.agree (fun c hc => ((hmem c).1 hc).1) fun c hc =>
      hr c ((hmem c).1 hc).1 ((hmem c).1 hc).2).bind fun k ⟨hk, hagree⟩ => ?_
    have hsome : ∀ id, id ∈ k.accepting ↔ f.Allows V extra e (some id) := by
      intro id
      rw [hk]
      constructor
      · rintro ⟨c, hc, hacc, hid⟩
        exact ⟨c, ((hmem c).1 hc).1, ((hmem c).1 hc).2, hacc, hid⟩
      · rintro ⟨c, hc, harc, hacc, hid⟩
        exact ⟨c, (hmem c).2 ⟨hc, harc⟩, hacc, hid⟩
    have hextra : extra.contains e.predicate = true ↔ f.Allows V extra e none :=
      List.contains_iff_mem
    by_cases hempty : k.accepting.isEmpty
    · have hno : ∀ id, ¬ f.Allows V extra e (some id) := by
        intro id h
        rw [← hsome, List.isEmpty_iff.1 hempty] at h
        exact List.not_mem_nil h
      rw [if_pos hempty]
      by_cases hx : extra.contains e.predicate
      · rw [if_pos hx]
        exact Meets.pure (hs.leave he (hextra.1 hx) hno hagree)
      · rw [if_neg hx]
        refine Meets.pure (hs.fail he (fun o ho => ?_) hagree _)
        cases o with
        | none => exact hx (hextra.2 ho)
        | some id => exact hno id ho
    · rw [if_neg hempty]
      refine Meets.pure (hs.choose he (fun o => ?_) hagree)
      cases o with
      | none => simp [← hextra]
      | some id => simp [← hsome]

/-- All edges are sorted, by one step for each of them and the invariant `Sorting.Sorts`. -/
theorem sort_meets (hcoh : f.IsCoherent) {edges : List Edge}
    (hr : ∀ e ∈ edges, ∀ c ∈ f.constraints, c.arc = e.arc → ∀ v, c.value = some v →
      Meets I (r.verdict e.opposite v) (fun d => d = .conforms ↔ V e.opposite v) F) :
    Meets I (edges.foldlM (Sorting.place r f.constraints extra) ⟨[], [], [], .empty⟩)
      (Sorting.Sorts V extra f edges) F := by
  refine Meets.foldlM (fun done => Sorting.Sorts V extra f done) (d := [])
    (fun e he done s hs => place_meets hcoh hs (hr e he)) ?_
  constructor
  · intro v _ t d hd
    cases hd
  · simp
  · simp
  · simp
  · intro _ ids
    constructor
    · rintro ⟨_, ⟨⟩, rfl⟩
      exact ⟨[], .nil, rfl⟩
    · rintro ⟨_, ⟨⟩, rfl⟩
      exact ⟨[], .nil, rfl⟩

/-! ## Matching -/

/-- What is known of an assignment that was found. -/
structure Assignment.IsLawful (V : Term → ShapeExpr → Prop) (extra : List Iri) (f : Form)
    (edges : List Edge) (a : Assignment) : Prop where
  matched : ∀ x ∈ a.matched, x.1 ∈ edges ∧ f.Allows V extra x.1 (some x.2)
  extras : ∀ e ∈ a.extras, e ∈ edges ∧ e.predicate ∈ extra

/-- What a combination has was among the alternatives. -/
theorem Combination.mem {α β : Type} {things : List (α × List β)} {chosen : List (α × β)}
    (h : Combination things chosen) {c : α × β} (hc : c ∈ chosen) :
    ∃ t ∈ things, c.1 = t.1 ∧ c.2 ∈ t.2 := by
  induction h with
  | nil => cases hc
  | @cons t c' ts cs ht _ ih =>
    rcases List.mem_cons.1 hc with rfl | hc
    · exact ⟨t, by simp, ht⟩
    · obtain ⟨t', ht', h'⟩ := ih hc
      exact ⟨t', by simp [ht'], h'⟩

/-- A combination has something for each thing. -/
theorem Combination.exists_of_mem {α β : Type} {things : List (α × List β)}
    {chosen : List (α × β)} (h : Combination things chosen) {t : α × List β} (ht : t ∈ things) :
    ∃ c ∈ chosen, c.1 = t.1 ∧ c.2 ∈ t.2 := by
  induction h with
  | nil => cases ht
  | @cons t' c ts cs hc _ ih =>
    rcases List.mem_cons.1 ht with rfl | ht
    · exact ⟨c, by simp, hc⟩
    · obtain ⟨c', hc', h'⟩ := ih ht
      exact ⟨c', by simp [hc'], h'⟩

/-- The assignment of a combination of choices is lawful: every edge is given to a constraint that
admits it, or is an extra one. -/
theorem Sorting.Sorts.isLawful {s : Sorting} {edges : List Edge} (hs : s.Sorts V extra f edges)
    {chosen : List (Edge × Option ExprId)} (hch : Combination s.choices chosen) :
    (Assignment.ofChoices s.extras chosen).IsLawful V extra f edges := by
  constructor
  · rintro ⟨e, id⟩ hx
    simp only [Assignment.ofChoices, List.mem_filterMap, Option.map_eq_some_iff] at hx
    obtain ⟨c, hc, o, ho, heq⟩ := hx
    cases heq
    obtain ⟨t, ht, he, hopt⟩ := hch.mem hc
    rw [he]
    exact ⟨(hs.options t ht).1, (hs.options t ht).2 _ (ho ▸ hopt)⟩
  · intro e he
    simp only [Assignment.ofChoices, List.mem_append, List.mem_filterMap] at he
    rcases he with he | ⟨⟨e', o⟩, hc, ho⟩
    · exact hs.extras e he
    · obtain ⟨t, ht, he', hopt⟩ := hch.mem hc
      obtain rfl : e' = t.1 := he'
      cases o with
      | some id => simp at ho
      | none =>
        obtain rfl : t.1 = e := by simpa using ho
        exact hs.options t ht |>.imp id fun h => h none hopt

/-- A combination of choices is accepted if its bag matches, for a form without semantic actions.
Otherwise the next combination is tried. -/
theorem accept_meets (hbag : ∀ b, ∃ m, f.expr.matchesBag b = .ok m) (hact : f.annotated = [])
    (htick : Meets I r.tick (fun _ => True) F) (extras : List Edge)
    (chosen : List (Edge × Option ExprId)) :
    Meets I (r.accept f extras chosen)
      (Tells
        (fun a => a = Assignment.ofChoices extras chosen ∧
          f.expr.matchesBag (chosen.filterMap Prod.snd) = .ok true)
        (f.expr.matchesBag (chosen.filterMap Prod.snd) ≠ .ok true)) F := by
  unfold Referee.accept
  refine htick.bind fun _ _ => ?_
  obtain ⟨m, hm⟩ := hbag (chosen.filterMap Prod.snd)
  rw [hm]
  cases m with
  | false => exact Meets.pure (by simp [Tells])
  | true =>
    rw [hact]
    exact (Meets.pure (Q := (· = true)) rfl).bind fun b hb => by
      subst hb
      exact Meets.pure ⟨rfl, rfl⟩

/-- Matching succeeds if the edges fit the form, and fails with a reason if they do not. What it
tells is said of verdicts, as propositions: which assignment is found is left open here. -/
theorem findAssignment_meets (hcoh : f.IsCoherent) (hact : f.annotated = [])
    (hbag : ∀ b, ∃ m, f.expr.matchesBag b = .ok m) (htick : Meets I r.tick (fun _ => True) F)
    {edges : List Edge}
    (hr : ∀ e ∈ edges, ∀ c ∈ f.constraints, c.arc = e.arc → ∀ v, c.value = some v →
      Meets I (r.verdict e.opposite v) (fun d => d = .conforms ↔ V e.opposite v) F) :
    Meets I (findAssignment r f extra edges)
      (fun
        | .matched a => f.Fits V extra edges ∧ a.IsLawful V extra f edges
        | .failed reasons => ¬ f.Fits V extra edges ∧ reasons ≠ []) F := by
  unfold findAssignment
  refine (sort_meets hcoh hr).bind fun s hs => ?_
  by_cases hfail : s.failures = []
  · rw [if_neg (by simp [hfail])]
    refine (searchChoices_meets
      (fun chosen a => a = Assignment.ofChoices s.extras chosen ∧
        f.expr.matchesBag (chosen.filterMap Prod.snd) = .ok true)
      (fun chosen => f.expr.matchesBag (chosen.filterMap Prod.snd) ≠ .ok true)
      fun chosen _ => accept_meets hbag hact htick s.extras chosen).bind fun p hp => ?_
    obtain ⟨n, _ | a⟩ := p
    · refine Meets.pure ⟨?_, by simp⟩
      rintro ⟨chosen, hch, hmatch⟩
      obtain ⟨combo, hcombo, hids⟩ := (hs.bags hfail _).2 ⟨chosen, hch, rfl⟩
      exact hp combo hcombo (by rw [List.reverse_nil, List.nil_append, hids, hmatch])
    · obtain ⟨combo, hcombo, rfl, hmatch⟩ := hp
      obtain ⟨chosen, hch, hids⟩ := (hs.bags hfail _).1 ⟨combo, hcombo, rfl⟩
      exact Meets.pure ⟨⟨chosen, hch, hids ▸ hmatch⟩, hs.isLawful hcombo⟩
  · rw [if_pos (by simpa using hfail)]
    refine Meets.pure ⟨?_, hfail⟩
    rintro ⟨chosen, hch, _⟩
    exact hs.failed hfail chosen hch

end

end Shex
