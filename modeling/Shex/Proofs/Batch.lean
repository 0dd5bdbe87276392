import Shex.Proofs.InStep

/-!
# A run about many pairs is many runs about one

Pairs that are checked in one run share what the run remembers and the state of the handlers. If the
handlers answer by the code and the triples alone and the number of assignments is not limited, this
makes no difference: the entry of a pair, and the fault that its check ends in, are those of a run
about the pair alone (`Validator.validate_batch`).
-/

namespace Shex

open Run

namespace Setting

variable {σ : Type} (st : Setting σ)

/-- What the start actions say in a run that begins with the state `w` of the handlers. -/
def startOutcome (w : σ) : Except ValidationFault Bool :=
  ((st.handlers.run [] st.validator.schema.startActions).run w).1

/-- The entry for a pair in a run that begins with the memo `m`, or the fault that its check ends
in. -/
def entryFrom (m : Memo) (w : σ) (started : Bool) (p : Term × Selector) :
    Except ValidationFault Entry :=
  ((st.check started p.1 p.2).run.run ⟨m, 0, w⟩).1.map (Setting.entry p.1 p.2)

/-- The outcome of a run that begins with the memo `m`, said without a state: the entry of each pair
by itself. -/
def outcomeFrom (m : Memo) (w : σ) (pairs : List (Term × Selector)) :
    Except ValidationFault Report := do
  pairs.forM fun p => resolve st.validator.schema p.2
  let started ← st.startOutcome w
  return ⟨← pairs.mapM (st.entryFrom m w started)⟩

variable {st} {m : Memo} {w : σ}

section
variable (hacc : st.validator.IsAccepted)
  (hhier : st.validator.hierarchy = .ofSchema st.validator.schema)
  (hco : st.validator.schema.IsCoherent) (hpure : st.handlers.IsPure) (hm : st.KnowsUpToIds m)
include hacc hhier hco hpure hm

/-- Whatever happened before, a run that began with the memo `m` goes on as one that begins with
it. -/
theorem mirrors_inStep {F : ValidationFault → Prop} :
    Mirrors (st.InStep st m m) F st.validator.schema.Has st st := by
  refine mirrors_of_offers hhier hco rfl rfl rfl rfl hpure (fun mk h t ht => ?_) fun l _ => ?_
  · cases hf : st.formForFrom m t with
    | error e => exact .inr rfl
    | ok f => exact ⟨f, rfl, Eq, .refl ((hm.isForm ht hf).has hacc ht)⟩
  · cases hp : st.planFrom m l with
    | error e => exact .inr rfl
    | ok p =>
      have hplan := hm.isPlan hhier hp
      exact ⟨p, rfl, Eq, .refl (hplan.has hacc hhier) (hplan.has_conjunct hhier)⟩

variable (hlimits : st.limits.assignments = none)
include hlimits

/-- A pair is checked in the middle of a run as it is in the beginning. -/
theorem check_run (started : Bool) (p : Term × Selector) {s : RunState σ}
    (hs : st.OffersSame m s.memo) :
    ∃ t, (st.check started p.1 p.2).run.run s =
      (((st.check started p.1 p.2).run.run ⟨m, 0, w⟩).1, t) ∧ st.OffersSame m t.memo := by
  have hbegin : st.InStep st m m ⟨m, 0, w⟩ s := ⟨.refl m, hs, fun h => absurd hlimits h⟩
  have h := (mirrors_inStep (F := fun _ => False) hacc hhier hco hpure hm).check started p.1 p.2
  obtain ⟨r, _, t, hr, ht, hafter⟩ := h.ends_alike hbegin fun _ => False.elim
  rw [hr]
  exact ⟨t, ht, hafter.right⟩

/-- Pairs that are checked one after the other are checked each as in the beginning. What a check
leaves behind only offers more of the same, and handlers do not look at the world that others have
left. -/
theorem checkAll_run (started : Bool) : ∀ (pairs : List (Term × Selector)) {s : RunState σ},
    st.OffersSame m s.memo →
      ∃ t, (st.checkAll started pairs).run.run s = (pairs.mapM (st.entryFrom m w started), t) ∧
        st.OffersSame m t.memo
  | [], s, hs => ⟨s, rfl, hs⟩
  | p :: rest, s, hs => by
    obtain ⟨t, hcheck, ht⟩ :=
      check_run (w := w) hacc hhier hco hpure hm hlimits started p hs
    obtain ⟨u, hrest, hu⟩ := checkAll_run started rest ht
    rw [checkAll, run_bind, hcheck, List.mapM_cons, entryFrom]
    cases ((st.check started p.1 p.2).run.run ⟨m, 0, w⟩).1 with
    | error e => exact ⟨t, rfl, ht⟩
    | ok v =>
      dsimp only
      rw [run_bind, hrest]
      cases rest.mapM (st.entryFrom m w started) <;> exact ⟨u, rfl, hu⟩

/-- The outcome of a run, from any memo that offers what `m` does: first the selectors, then the
start actions, then the pairs in order, up to the first fault. -/
theorem run_fst (pairs : List (Term × Selector)) {s : RunState σ} (hs : st.OffersSame m s.memo) :
    ((st.run pairs).run.run s).1 = st.outcomeFrom m w pairs := by
  have hstart : ((st.handlers.run [] st.validator.schema.startActions).run s.world).1 =
      st.startOutcome w := hpure.run [] _ _ _
  unfold Setting.run outcomeFrom
  cases pairs.forM fun p => resolve st.validator.schema p.2 with
  | error e => rfl
  | ok u =>
    dsimp only
    rw [run_bind, runActions_run, hstart]
    cases st.startOutcome w with
    | error e => rfl
    | ok started =>
      have hbegin : st.OffersSame m (RunState.mk s.memo s.assignments
        ((st.handlers.run [] st.validator.schema.startActions).run s.world).2).memo := hs
      obtain ⟨t, hall, -⟩ := checkAll_run (w := w) hacc hhier hco hpure hm hlimits started pairs
        hbegin
      dsimp only
      rw [run_bind, hall]
      simp only [bind, Except.bind]
      cases pairs.mapM (st.entryFrom m w started) <;> rfl

end

/-! ### Outcomes of many pairs and of one -/

/-- The outcome for one pair whose selector names nothing. -/
theorem outcomeFrom_unresolved {p : Term × Selector} {fault : ValidationFault}
    (hp : resolve st.validator.schema p.2 = .error fault) :
    st.outcomeFrom m w [p] = .error fault := by
  have hresolve : [p].forM (fun p => resolve st.validator.schema p.2) = .error fault := by
    change (resolve st.validator.schema p.2 >>= fun _ => pure ()) = _
    rw [hp]
    rfl
  rw [outcomeFrom, hresolve]
  rfl

section
variable {pairs : List (Term × Selector)}
  (hall : ∀ p ∈ pairs, resolve st.validator.schema p.2 = .ok ())
include hall

/-- The outcome where the start actions end in a fault. -/
theorem outcomeFrom_of_startOutcome {e : ValidationFault} (hstart : st.startOutcome w = .error e) :
    st.outcomeFrom m w pairs = .error e := by
  rw [outcomeFrom, Schema.forM_eq_ok_iff.2 hall, hstart]
  rfl

/-- The outcome where the start actions are done. -/
theorem outcomeFrom_eq_map {started : Bool} (hstart : st.startOutcome w = .ok started) :
    st.outcomeFrom m w pairs = (pairs.mapM (st.entryFrom m w started)).map Report.mk := by
  rw [outcomeFrom, Schema.forM_eq_ok_iff.2 hall, hstart]
  rfl

/-- The outcomes for the pairs alone, where the start actions are done. -/
theorem outcomeFrom_singleton {started : Bool} (hstart : st.startOutcome w = .ok started)
    {p : Term × Selector} (hp : p ∈ pairs) :
    st.outcomeFrom m w [p] = (st.entryFrom m w started p).map fun entry => ⟨[entry]⟩ := by
  rw [outcomeFrom_eq_map (by simpa using hall p hp) hstart, List.mapM_cons]
  cases st.entryFrom m w started p <;> rfl

end

/-- Where there is a report, each of its entries is the only one of the report about its pair. A run
about one pair passes the same selectors and start actions, so nothing but the entry is left. -/
theorem entries_of_outcomeFrom {pairs : List (Term × Selector)} {report : Report}
    (h : st.outcomeFrom m w pairs = .ok report) :
    List.Forall₂ (fun p entry => st.outcomeFrom m w [p] = .ok ⟨[entry]⟩) pairs report.entries := by
  cases hresolve : pairs.forM fun p => resolve st.validator.schema p.2 with
  | error e =>
    rw [outcomeFrom, hresolve] at h
    cases h
  | ok u =>
    have hall := Schema.forM_eq_ok_iff.1 hresolve
    cases hstart : st.startOutcome w with
    | error e =>
      rw [outcomeFrom_of_startOutcome hall hstart] at h
      cases h
    | ok started =>
      rw [outcomeFrom_eq_map hall hstart] at h
      cases hes : pairs.mapM (st.entryFrom m w started) with
      | error e =>
        rw [hes] at h
        cases h
      | ok entries =>
        rw [hes] at h
        cases h
        refine List.Forall₂.imp (fun p entry hp => ?_)
          ((List.forall₂_and_left pairs entries).2 ⟨fun _ => id, mapM_eq_ok_iff.1 hes⟩)
        rw [outcomeFrom_singleton hall hstart hp.1, hp.2]
        rfl

/-- A fault comes from the first selector that names nothing, or from the first pair about which
there is no report. -/
theorem fault_of_outcomeFrom {pairs : List (Term × Selector)} (hpairs : pairs ≠ [])
    {fault : ValidationFault} (h : st.outcomeFrom m w pairs = .error fault) :
    (∃ p, FailsFirst (fun p => resolve st.validator.schema p.2) pairs p fault) ∨
      (∀ p ∈ pairs, resolve st.validator.schema p.2 = .ok ()) ∧
        ∃ p, FailsFirst (fun p => st.outcomeFrom m w [p]) pairs p fault := by
  cases hresolve : pairs.forM fun p => resolve st.validator.schema p.2 with
  | error e =>
    rw [outcomeFrom, hresolve] at h
    cases h
    exact .inl (forM_eq_error_iff.1 hresolve)
  | ok u =>
    have hall := Schema.forM_eq_ok_iff.1 hresolve
    refine .inr ⟨hall, ?_⟩
    cases hstart : st.startOutcome w with
    | error e =>
      rw [outcomeFrom_of_startOutcome hall hstart] at h
      cases h
      obtain ⟨p, rest, rfl⟩ := List.exists_cons_of_ne_nil hpairs
      exact ⟨p, .head (outcomeFrom_of_startOutcome (by simpa using hall p) hstart)⟩
    | ok started =>
      rw [outcomeFrom_eq_map hall hstart] at h
      cases hes : pairs.mapM (st.entryFrom m w started) with
      | ok entries =>
        rw [hes] at h
        cases h
      | error e =>
        rw [hes] at h
        cases h
        obtain ⟨p, before, after, rfl, hbefore, hp⟩ := mapM_eq_error hes
        refine ⟨p, before, after, rfl, fun q hq => ?_, ?_⟩
        · obtain ⟨entry, hentry⟩ := hbefore q hq
          have halone := outcomeFrom_singleton (m := m) hall hstart (List.mem_append_left _ hq)
          exact ⟨⟨[entry]⟩, halone.trans (by rw [hentry]; rfl)⟩
        · have halone := outcomeFrom_singleton (m := m) hall hstart (p := p) (by simp)
          exact halone.trans (by rw [hp]; rfl)

end Setting

/-! ### Validators -/

/-- What a validator remembers after further runs under the same limits. -/
inductive Validator.Continues (v : Validator) (limits : Limits) (base : Memo) : Memo → Prop
  | refl : v.Continues limits base base
  | run {σ : Type} {memo : Memo} (h : v.Continues limits base memo) (handlers : Handlers σ)
      (graph : GraphView) (pairs : List (Term × Selector)) (world : σ) :
      v.Continues limits base (v.validate limits handlers graph pairs memo world).2.1

/-- After further runs a validator offers what it did before, by induction on the runs. Each of them
only adds forms and plans, and those that it finds it leaves alone. -/
theorem Setting.offersSame_of_continues {σ : Type} {st : Setting σ}
    (hacc : st.validator.IsAccepted)
    (hhier : st.validator.hierarchy = .ofSchema st.validator.schema)
    (hco : st.validator.schema.IsCoherent) {base memo : Memo} (hbase : st.KnowsUpToIds base)
    (h : st.validator.Continues st.limits base memo) : st.OffersSame base memo := by
  induction h with
  | refl => exact .refl base
  | @run τ memo _ handlers graph pairs world ih =>
    let st' : Setting τ := ⟨st.validator, st.limits, handlers, graph⟩
    have hbefore := hbase.of_offersSame hhier ih
    have hknows : st'.KnowsUpToIds memo := by
      refine ⟨hbefore.forms, fun l p hp => ?_⟩
      obtain ⟨i, hplan⟩ := hbefore.plans l p hp
      exact ⟨i, hplan.parts, hplan.form⟩
    have hacc' : st'.validator.IsAccepted := hacc
    have hafter := offersSame_of_validate hacc' hhier hco hknows pairs world
    exact ih.trans ⟨hafter.forms, hafter.plans⟩

/-- If a selector names nothing, then no handler is called and nothing computed. -/
theorem Validator.validate_of_unresolved {σ : Type} (v : Validator) (limits : Limits)
    (handlers : Handlers σ) (graph : GraphView) (memo : Memo) (world : σ)
    {pairs : List (Term × Selector)} {p : Term × Selector} {fault : ValidationFault}
    (h : FailsFirst (fun p => Setting.resolve v.schema p.2) pairs p fault) :
    v.validate limits handlers graph pairs memo world = (.error fault, memo, world) := by
  unfold validate Setting.run
  rw [forM_eq_error_iff.2 ⟨p, h⟩]
  rfl

/-- A run about many pairs is many runs about one. For a validator that remembers `base`, and for
runs that begin when it remembers no less, with handlers that answer by the code and the triples
alone and without a bound on the number of assignments:

- there is a report if and only if there is one about every pair alone, and then its entries are
  those of these reports;
- otherwise the fault is that of the first selector that names nothing, and no handler was called
  and nothing computed; or all selectors name something, and the fault is that of the first pair
  about which there is no report. -/
theorem Validator.validate_batch {σ : Type} {v : Validator}
    (hv : v.IsBuilt) (hco : v.schema.IsCoherent) {limits : Limits}
    (hlimits : limits.assignments = none) {handlers : Handlers σ} (hpure : handlers.IsPure)
    (graph : GraphView) {base memo : Memo} (hbase : v.MayRemember base)
    (hmemo : v.Continues limits base memo) (world : σ) {pairs : List (Term × Selector)}
    (hpairs : pairs ≠ []) (start : Term × Selector → Memo × σ)
    (hstart : ∀ p, v.Continues limits base (start p).1) :
    let together := (v.validate limits handlers graph pairs memo world).1
    let alone := fun p => (v.validate limits handlers graph [p] (start p).1 (start p).2).1
    ((∃ report, together = .ok report) ↔ ∀ p ∈ pairs, ∃ report, alone p = .ok report) ∧
    (∀ report, together = .ok report →
      List.Forall₂ (fun p entry => alone p = .ok ⟨[entry]⟩) pairs report.entries) ∧
    ∀ fault, together = .error fault →
      (∃ p, FailsFirst (fun p => Setting.resolve v.schema p.2) pairs p fault ∧
        ∀ handlers' : Handlers σ, v.validate limits handlers' graph pairs memo world =
          (.error fault, memo, world)) ∨
      (∀ p ∈ pairs, Setting.resolve v.schema p.2 = .ok ()) ∧
        ∃ p, FailsFirst alone pairs p fault := by
  have hacc := hv.accepted
  have hhier := hv.hierarchy
  let st : Setting σ := ⟨v, limits, handlers, graph⟩
  have hknows : st.KnowsUpToIds base :=
    Setting.knowsUpToIds_of_mayRemember hacc hhier hco hbase
  have houtcome : ∀ {qs : List (Term × Selector)} {m : Memo} {w : σ}, v.Continues limits base m →
      (v.validate limits handlers graph qs m w).1 = st.outcomeFrom base world qs := fun hm =>
    Setting.run_fst hacc hhier hco hpure hknows hlimits _
      (Setting.offersSame_of_continues hacc hhier hco hknows hm)
  intro together alone
  have htogether : together = st.outcomeFrom base world pairs := houtcome hmemo
  have halone : alone = fun p => st.outcomeFrom base world [p] := by
    funext p
    exact houtcome (hstart p)
  rw [htogether, halone]
  refine ⟨⟨fun ⟨report, h⟩ p hp => ?_, fun h => ?_⟩, fun report => Setting.entries_of_outcomeFrom,
    fun fault hfault => ?_⟩
  · have hentries := Setting.entries_of_outcomeFrom h
    obtain ⟨i, hi, rfl⟩ := List.getElem_of_mem hp
    exact ⟨_, hentries.get hi (by rwa [← hentries.length_eq])⟩
  · cases hr : st.outcomeFrom base world pairs with
    | ok report => exact ⟨report, rfl⟩
    | error fault =>
      obtain ⟨p, hp, hfault⟩ : ∃ p ∈ pairs, st.outcomeFrom base world [p] = .error fault := by
        rcases Setting.fault_of_outcomeFrom hpairs hr with ⟨p, hp⟩ | ⟨-, p, hp⟩
        · exact ⟨p, hp.mem, Setting.outcomeFrom_unresolved hp.eq_error⟩
        · exact ⟨p, hp.mem, hp.eq_error⟩
      obtain ⟨report, hreport⟩ := h p hp
      cases hfault.symm.trans hreport
  · rcases Setting.fault_of_outcomeFrom hpairs hfault with ⟨p, hp⟩ | h
    · exact .inl ⟨p, hp, fun handlers' =>
        validate_of_unresolved v limits handlers' graph memo world hp⟩
    · exact .inr h

/-! ### Example -/

/-- `<S> { p . * %act{ %} }` -/
def actedSchema : Schema :=
  Schema.empty.addShape (.iri ⟨"S"⟩) ⟨false, .shape ⟨⟨0⟩, []⟩ .plain (some
    (.repeated (.written ⟨⟨1⟩, [⟨⟨"act"⟩, none⟩]⟩)
      (.constraint (.written ⟨⟨2⟩, []⟩) ⟨⟨"p"⟩, false⟩ none) .star))⟩

/-- A handler that accepts at most one triple, and counts its calls. -/
def atMostOne : Handlers Nat :=
  Table.empty.insert ⟨"act"⟩ fun _ ts calls => (.ok (ts.length ≤ 1), calls + 1)

/-- The handler of the example answers by the triples alone. -/
theorem atMostOne_isPure : atMostOne.IsPure := by
  intro name handler h
  have hmem := (Table.get?_eq_some_iff _).1 h
  obtain ⟨-, rfl⟩ := Prod.mk.inj (List.mem_singleton.1 hmem)
  exact fun _ _ _ _ => rfl

/-- The nodes `n` and `m`, each with `<S>`. -/
def bothNodes : List (Term × Selector) :=
  [(.resource (.iri ⟨"n"⟩), .label (.iri ⟨"S"⟩)), (.resource (.iri ⟨"m"⟩), .label (.iri ⟨"S"⟩))]

/-- The check of pairs about `n p n`, `m p n` and `m p m`. -/
def checkActed (pairs : List (Term × Selector)) (memo : Memo) (calls : Nat) :
    Except ValidationFault Report × Memo × Nat :=
  (settingOf actedSchema []).validator.validate .standard atMostOne
    (Graph.ofList [link "n" "p" "n", link "m" "p" "n", link "m" "p" "m"]).view pairs memo calls

/-- A run about both nodes that begins where another one has ended gives the entries of two runs
that begin with nothing and with another count of calls. -/
theorem both_nodes_alone :
    ∃ report, (checkActed bothNodes (checkActed bothNodes .empty 0).2.1 2).1 = .ok report ∧
      report.entries.map Entry.status = [.conformant, .nonconformant] ∧
      List.Forall₂ (fun p entry => (checkActed [p] .empty 7).1 = .ok ⟨[entry]⟩) bothNodes
        report.entries := by
  have hstatuses : (checkActed bothNodes (checkActed bothNodes .empty 0).2.1 2).1.toOption.map
      (·.entries.map Entry.status) = some [.conformant, .nonconformant] := by decide +kernel
  cases hreport : (checkActed bothNodes (checkActed bothNodes .empty 0).2.1 2).1 with
  | error fault =>
    rw [hreport] at hstatuses
    cases hstatuses
  | ok report =>
    rw [hreport] at hstatuses
    refine ⟨report, rfl, Option.some.inj hstatuses, ?_⟩
    exact ((settingOf actedSchema []).validator.validate_batch ⟨rfl, rfl⟩
      (Schema.isCoherent_of_nodup (by decide) (by decide)) rfl atMostOne_isPure _ .nothing
      (.run .refl _ _ _ _) 2 (by decide) (fun _ => (.empty, 7)) fun _ => .refl).2.1 report hreport

end Shex
