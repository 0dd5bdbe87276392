import Shex.Proofs.Faults
import Shex.Proofs.Recall
import Shex.Proofs.Simulation

/-!
# Runs in step

Two settings that use forms and plans alike, begin with memos that offer alike, and have handlers
whose answers do not depend on their state, mirror each other (`Setting.mirrors_of_offers`).
Whatever its handlers do, a run leaves a memo that offers what the memo offered that it began with
(`Setting.offersSame_of_validate`), and so all that the validators of a schema can leave behind is
right (`Setting.knowsUpToIds_of_mayRemember`).
-/

namespace Shex

open Run

/-! ### Handlers and counts -/

/-- Handlers answer by the code and the triples alone, whatever their state is. -/
def Handlers.IsPure {σ : Type} (hs : Handlers σ) : Prop :=
  ∀ name handler, hs.get? name = some handler → ∀ code ts w w',
    ((handler code ts).run w).1 = ((handler code ts).run w').1

/-- Without handlers there is nothing that could depend on the world. -/
theorem Handlers.isPure_empty {σ : Type} : Handlers.IsPure (.empty : Handlers σ) :=
  fun _ _ h => by cases h

/-- Handlers keep a property of their state, whatever they answer. -/
def Handlers.Keeps {σ : Type} (hs : Handlers σ) (J : σ → Prop) : Prop :=
  ∀ name handler, hs.get? name = some handler → ∀ code ts w, J w → J ((handler code ts).run w).2

/-- What handlers keep is kept by the actions of a node, also if one of them rejects or fails: the
world is then the one that the last handler has left. -/
theorem Handlers.Keeps.run {σ : Type} {hs : Handlers σ} {J : σ → Prop} (h : hs.Keeps J)
    (ts : List Triple) (acts : List SemanticAction) {w : σ} (hw : J w) :
    J ((hs.run ts acts).run w).2 := by
  induction acts generalizing w with
  | nil => exact hw
  | cons a acts ih =>
    rw [Handlers.run]
    cases ha : hs.get? a.name with
    | none => exact ih hw
    | some handler =>
      have hkept := h a.name handler ha a.code ts w hw
      simp only [StateT.run_bind]
      rcases hrun : (handler a.code ts).run w with ⟨_ | accepted, w'⟩
      · rw [hrun] at hkept
        exact hkept
      · rw [hrun] at hkept
        cases accepted with
        | true => exact ih hkept
        | false => exact hkept

/-- The actions of a node are answered alike from any two states of the world, one handler after the
other. -/
theorem Handlers.IsPure.run {σ : Type} {hs : Handlers σ} (h : hs.IsPure) (ts : List Triple)
    (acts : List SemanticAction) (w w' : σ) :
    ((hs.run ts acts).run w).1 = ((hs.run ts acts).run w').1 := by
  induction acts generalizing w w' with
  | nil => rfl
  | cons a acts ih =>
    rw [Handlers.run]
    cases ha : hs.get? a.name with
    | none => exact ih w w'
    | some handler =>
      have hsame := h a.name handler ha a.code ts w w'
      simp only [StateT.run_bind]
      rcases hw : (handler a.code ts).run w with ⟨r, v⟩
      rcases hw' : (handler a.code ts).run w' with ⟨r', v'⟩
      rw [hw, hw'] at hsame
      obtain rfl : r = r' := hsame
      rcases r with message | _ | _
      · rfl
      · rfl
      · exact ih v v'

/-- Whether so many assignments may be tried. -/
def Limits.allow (L : Limits) (n : Nat) : Except ValidationFault Unit :=
  match L.assignments with
  | some limit => if limit < n then .error (.limit (.assignments limit)) else .ok ()
  | none => .ok ()

/-- Without a limit the number does not matter. -/
theorem Limits.allow_congr {L : Limits} {n n' : Nat} (h : L.assignments ≠ none → n = n') :
    L.allow n = L.allow n' := by
  unfold allow
  cases hL : L.assignments with
  | none => rfl
  | some limit => rw [h (by simp [hL])]

namespace Setting

variable {σ : Type} {st st' : Setting σ}

/-- Actions work on the world, and on nothing else of a run. -/
theorem runActions_run (acts : List SemanticAction) (ts : List Triple) (s : RunState σ) :
    (st.runActions acts ts).run.run s = (((st.handlers.run ts acts).run s.world).1,
      { s with world := ((st.handlers.run ts acts).run s.world).2 }) := by
  unfold runActions
  rw [run_get_bind]
  rcases hrun : (st.handlers.run ts acts).run s.world with ⟨_ | _, _⟩
  all_goals
    change st.handlers.run ts acts s.world = _ at hrun
    rw [hrun]
    rfl

/-- Counting works on the number of assignments, and ends with a fault past the limit. The count
goes up in that case too. -/
theorem tick_run (s : RunState σ) :
    st.tick.run.run s =
      (st.limits.allow (s.assignments + 1), { s with assignments := s.assignments + 1 }) := by
  unfold tick Limits.allow
  rw [run_get_bind, run_bind]
  cases st.limits.assignments with
  | none => rfl
  | some limit =>
    change (ExceptT.run (if limit < s.assignments + 1 then throw (.limit (.assignments limit))
      else return : Run σ Unit)).run _ = _
    simp only
    split <;> rfl

/-! ### Runs that use the same forms and plans -/

/-- Two runs offer what they did when they began with the memos `m` and `m'`, and have counted as
many assignments if these are limited. -/
structure InStep (st st' : Setting σ) (m m' : Memo) (s t : RunState σ) : Prop where
  left : st.OffersSame m s.memo
  right : st'.OffersSame m' t.memo
  assignments : st.limits.assignments ≠ none → s.assignments = t.assignments

/-- Two outcomes of a computation about the schema: related results, or a fault that is excused or
the same. -/
def Outcomes {α β : Type} (F : ValidationFault → Prop) (Q : α → β → Prop) :
    Except ValidationFault α → Except ValidationFault β → Prop
  | .ok a, y => ∃ b, y = .ok b ∧ Q a b
  | .error e, y => F e ∨ y = .error e

/-- More faults can be excused. -/
theorem Outcomes.mono {α β : Type} {F F' : ValidationFault → Prop} {Q : α → β → Prop}
    {x : Except ValidationFault α} {y : Except ValidationFault β} (h : Outcomes F Q x y)
    (hF : ∀ e, F e → F' e) : Outcomes F' Q x y := by
  cases x with
  | ok a => exact h
  | error e => exact Or.imp_left (hF e) h

/-- A relation between two runs that lasts when they remember what changes nothing in what the memos
`m` and `m'` offer. -/
structure LastsOnRecall (st st' : Setting σ) (m m' : Memo) (R : RunState σ → RunState σ → Prop) :
    Prop where
  left : ∀ {s t}, R s t → st.OffersSame m s.memo
  right : ∀ {s t}, R s t → st'.OffersSame m' t.memo
  lasts : ∀ {s t n n'}, R s t → st.OffersSame s.memo n → st'.OffersSame t.memo n' →
    R { s with memo := n } { t with memo := n' }

/-- What is remembered later offers the same as what was remembered before, so runs stay in step. -/
theorem lastsOnRecall_inStep (m m' : Memo) : LastsOnRecall st st' m m' (st.InStep st' m m') where
  left h := h.left
  right h := h.right
  lasts h hn hn' := ⟨h.left.trans hn, h.right.trans hn', h.assignments⟩

/-- Two computations that do nothing but give outcomes and remember, such as looking up a form: what
they give is compared memo by memo, and what they remember lasts. -/
theorem simulates_of_outcomes {α β : Type} {R : RunState σ → RunState σ → Prop}
    {F : ValidationFault → Prop} {Q : α → β → Prop} {m m' : Memo}
    (hR : LastsOnRecall st st' m m' R) {x : Run σ α} {y : Run σ β}
    (ox : Memo → Except ValidationFault α) (oy : Memo → Except ValidationFault β)
    (hx : ∀ s : RunState σ, ∃ n, x.run.run s = (ox s.memo, { s with memo := n }) ∧
      st.OffersSame s.memo n)
    (hy : ∀ s : RunState σ, ∃ n, y.run.run s = (oy s.memo, { s with memo := n }) ∧
      st'.OffersSame s.memo n)
    (hox : ∀ n, st.OffersSame m n → ox n = ox m) (hoy : ∀ n, st'.OffersSame m' n → oy n = oy m')
    (h : Outcomes F Q (ox m) (oy m')) : Simulates R Q F x y := by
  intro s t hst
  obtain ⟨n, hxs, hn⟩ := hx s
  obtain ⟨n', hyt, hn'⟩ := hy t
  have hafter : R { s with memo := n } { t with memo := n' } := hR.lasts hst hn hn'
  rw [hox _ (hR.left hst)] at hxs
  rw [hoy _ (hR.right hst)] at hyt
  rw [hxs, hyt]
  cases hr : ox m with
  | error e =>
    rw [hr] at h
    rcases h with h | h
    · exact .inl h
    · rw [h]
      exact .inr ⟨_, rfl, hafter⟩
  | ok a =>
    rw [hr] at h
    obtain ⟨b, hb, hab⟩ := h
    rw [hb]
    exact ⟨b, _, rfl, hab, hafter⟩

/-- Actions that are answered alike keep runs in step: the worlds may differ. -/
theorem runActions_inStep {F : ValidationFault → Prop} {m m' : Memo}
    (hhandlers : st'.handlers = st.handlers) (hpure : st.handlers.IsPure)
    (acts : List SemanticAction) (ts : List Triple) :
    Simulates (st.InStep st' m m') Eq F (st.runActions acts ts) (st'.runActions acts ts) := by
  intro s t hst
  have hsame : ((st'.handlers.run ts acts).run t.world).1 =
      ((st.handlers.run ts acts).run s.world).1 := by
    rw [hhandlers]
    exact hpure.run ts acts _ _
  rw [runActions_run, runActions_run, hsame]
  cases ((st.handlers.run ts acts).run s.world).1 with
  | error e => exact .inr ⟨_, rfl, hst.left, hst.right, hst.assignments⟩
  | ok b => exact ⟨b, _, rfl, rfl, hst.left, hst.right, hst.assignments⟩

/-- Counting keeps runs in step: as long as there is a limit, the counts are the same. -/
theorem tick_inStep {F : ValidationFault → Prop} {m m' : Memo} (hlimits : st'.limits = st.limits) :
    Simulates (st.InStep st' m m') Eq F st.tick st'.tick := by
  intro s t hst
  have hafter : st.InStep st' m m' { s with assignments := s.assignments + 1 }
      { t with assignments := t.assignments + 1 } :=
    ⟨hst.left, hst.right, fun h => congrArg (· + 1) (hst.assignments h)⟩
  rw [tick_run, tick_run, hlimits,
    ← Limits.allow_congr fun h => congrArg (· + 1) (hst.assignments h)]
  cases st.limits.allow (s.assignments + 1) with
  | error e => exact .inr ⟨_, rfl, hafter⟩
  | ok u => exact ⟨u, _, rfl, rfl, hafter⟩

/-- Two settings mirror each other in runs that stay related, if they have the same validator but
for its numbering and use the same forms and plans, up to identities. -/
theorem mirrors_of_lasts {R : RunState σ → RunState σ → Prop} {F : ValidationFault → Prop}
    {m m' : Memo} (hR : LastsOnRecall st st' m m' R)
    (hhier : st.validator.hierarchy = .ofSchema st.validator.schema)
    (hco : st.validator.schema.IsCoherent)
    {ν : Numbering} (hvalidator : st'.validator = st.validator.renumber ν)
    (hgraph : st'.graph = st.graph)
    (hlimits : st'.limits = st.limits)
    (hactions : ∀ acts ts, Simulates R Eq F (st.runActions acts ts) (st'.runActions acts ts))
    (htick : Simulates R Eq F st.tick st'.tick)
    (hforms : ∀ mk h t, st.validator.schema.Has (.shape mk h t) →
      Outcomes F (fun f g => ∃ I, f.Alike I st.validator.schema.Has g) (st.formForFrom m t)
        (st'.formForFrom m' t))
    (hplans : ∀ l, st.validator.hierarchy.hasParents l = true →
      Outcomes F (fun p q => ∃ I, p.Alike F l I st.validator.schema.Has q) (st.planFrom m l)
        (st'.planFrom m' l)) :
    Mirrors R F st.validator.schema.Has st st' := by
  have hschema : st'.validator.schema = st.validator.schema := by rw [hvalidator]; rfl
  have hhierarchy : st'.validator.hierarchy = st.validator.hierarchy := by rw [hvalidator]; rfl
  have hreaders : st'.validator.readers = st.validator.readers := by rw [hvalidator]; rfl
  have hhier' : st'.validator.hierarchy = .ofSchema st'.validator.schema := by
    rw [hhierarchy, hschema, hhier]
  have hco' : st'.validator.schema.IsCoherent := by rwa [hschema]
  refine ⟨Schema.keeps_has _, hschema, hhierarchy, hgraph, fun mk h t ht => ?_, fun l hl => ?_,
    hactions, htick, fun c node => ?_, .inl (by rw [hlimits])⟩
  · have ht' : st'.validator.schema.Has (.shape mk h t) := by rwa [hschema]
    exact simulates_of_outcomes hR (st.formForFrom · t) (st'.formForFrom · t)
      (formFor_run hhier hco ht) (formFor_run hhier' hco' ht') (fun n hn => hn.formForFrom ht)
      (fun n hn => hn.formForFrom ht') (hforms mk h t ht)
  · exact simulates_of_outcomes hR (st.planFrom · l) (st'.planFrom · l) (planOf_run hhier hco l)
      (planOf_run hhier' hco' l) (fun n hn => hn.plans l) (fun n hn => hn.plans l) (hplans l hl)
  · rw [hlimits, hreaders]
    cases NodeConstraint.failures st.validator.readers st.limits.patternLength c node with
    | error e => exact .inr rfl
    | ok fs => rfl

/-- Two settings mirror each other if they have the same validator but for its numbering, use the
same forms and plans, up to identities, and have handlers whose answers do not depend on their
state. -/
theorem mirrors_of_offers {F : ValidationFault → Prop} {m m' : Memo}
    (hhier : st.validator.hierarchy = .ofSchema st.validator.schema)
    (hco : st.validator.schema.IsCoherent)
    {ν : Numbering} (hvalidator : st'.validator = st.validator.renumber ν)
    (hgraph : st'.graph = st.graph)
    (hlimits : st'.limits = st.limits) (hhandlers : st'.handlers = st.handlers)
    (hpure : st.handlers.IsPure)
    (hforms : ∀ mk h t, st.validator.schema.Has (.shape mk h t) →
      Outcomes F (fun f g => ∃ I, f.Alike I st.validator.schema.Has g) (st.formForFrom m t)
        (st'.formForFrom m' t))
    (hplans : ∀ l, st.validator.hierarchy.hasParents l = true →
      Outcomes F (fun p q => ∃ I, p.Alike F l I st.validator.schema.Has q) (st.planFrom m l)
        (st'.planFrom m' l)) :
    Mirrors (st.InStep st' m m') F st.validator.schema.Has st st' :=
  mirrors_of_lasts (lastsOnRecall_inStep m m') hhier hco hvalidator hgraph hlimits
    (runActions_inStep hhandlers hpure) (tick_inStep hlimits) hforms hplans

/-! ### What runs leave -/

/-- A run mirrors itself, offers all the time what it offered in the beginning, and keeps what its
handlers keep. -/
theorem mirrors_self {F : ValidationFault → Prop} {m : Memo} {J : σ → Prop}
    (hkeeps : st.handlers.Keeps J) (hacc : st.validator.IsAccepted)
    (hhier : st.validator.hierarchy = .ofSchema st.validator.schema)
    (hco : st.validator.schema.IsCoherent) (hm : st.KnowsUpToIds m) :
    Mirrors (fun s t => s = t ∧ st.OffersSame m s.memo ∧ J s.world) F st.validator.schema.Has
      st st := by
  refine ⟨Schema.keeps_has _, rfl, rfl, rfl, fun mk h t ht => ?_, fun l hl => ?_, fun acts ts => ?_,
    ?_, fun c node => ?_, .inl rfl⟩
  · have hmeets : Meets (fun s => st.OffersSame m s.memo ∧ J s.world) (st.formFor t)
        (fun f => st.formForFrom m t = .ok f) fun _ => True := by
      intro s ⟨hs, hworld⟩
      obtain ⟨n, hrun, hn⟩ := formFor_run hhier hco ht s
      rw [hrun, hs.formForFrom ht]
      refine ⟨⟨hs.trans hn, hworld⟩, ?_⟩
      cases st.formForFrom m t with
      | error e => trivial
      | ok f => rfl
    refine (Simulates.of_meets hmeets).imp fun f g ⟨hfg, hf⟩ => ?_
    subst hfg
    exact ⟨Eq, .refl ((hm.isForm ht hf).has hacc ht)⟩
  · have hmeets : Meets (fun s => st.OffersSame m s.memo ∧ J s.world) (st.planOf l)
        (fun p => st.planFrom m l = .ok p) fun _ => True := by
      intro s ⟨hs, hworld⟩
      obtain ⟨n, hrun, hn⟩ := planOf_run hhier hco l s
      rw [hrun, hs.plans l]
      refine ⟨⟨hs.trans hn, hworld⟩, ?_⟩
      cases st.planFrom m l with
      | error e => trivial
      | ok p => rfl
    refine (Simulates.of_meets hmeets).imp fun p q ⟨hpq, hp⟩ => ?_
    subst hpq
    have hplan := hm.isPlan hhier hp
    exact ⟨Eq, .refl (hplan.has hacc hhier) (hplan.has_conjunct hhier)⟩
  · have hmeets : Meets (fun s => st.OffersSame m s.memo ∧ J s.world) (st.runActions acts ts)
        (fun _ => True) fun _ => True := by
      intro s ⟨hs, hworld⟩
      rw [runActions_run]
      refine ⟨⟨hs, hkeeps.run ts acts hworld⟩, ?_⟩
      cases ((st.handlers.run ts acts).run s.world).1 <;> trivial
    exact (Simulates.of_meets hmeets).imp fun _ _ h => h.1
  · refine (Simulates.of_meets (tick_meets fun _ _ h => ?_)).imp fun _ _ h => h.1
    exact h
  · cases NodeConstraint.failures st.validator.readers st.limits.patternLength c node with
    | error e => exact .inr rfl
    | ok fs => rfl

/-- A computation that follows itself, step by step, does not leave what it is known to keep. So an
invariant of runs needs no induction of its own: it is a case of mirroring. -/
theorem keeps_of_simulates {α : Type} {K : RunState σ → Prop} {Q : α → α → Prop} {x : Run σ α}
    (h : Simulates (fun s t => s = t ∧ K s) Q (fun _ => False) x x) {s : RunState σ} (hs : K s) :
    K (x.run.run s).2 := by
  have hrun := h s s ⟨rfl, hs⟩
  rcases hr : x.run.run s with ⟨e | a, t⟩
  · rw [hr] at hrun
    rcases hrun with hrun | ⟨_, -, -, ht⟩
    · exact hrun.elim
    · exact ht
  · rw [hr] at hrun
    obtain ⟨-, _, -, -, -, ht⟩ := hrun
    exact ht

section
variable (hacc : st.validator.IsAccepted)
  (hhier : st.validator.hierarchy = .ofSchema st.validator.schema)
  (hco : st.validator.schema.IsCoherent)
include hacc hhier hco

/-- What a run leaves offers what it began with, also if it ends in a fault. -/
theorem offersSame_of_validate {m : Memo} (hm : st.KnowsUpToIds m) (pairs : List (Term × Selector))
    (world : σ) :
    st.OffersSame m
      (st.validator.validate st.limits st.handlers st.graph pairs m world).2.1 :=
  have hkeeps : st.handlers.Keeps fun _ => True := fun _ _ _ _ _ _ _ => trivial
  (keeps_of_simulates ((mirrors_self hkeeps hacc hhier hco hm).run pairs) (s := ⟨m, 0, world⟩)
    ⟨.refl m, trivial⟩).1

/-- What handlers keep of their state is kept by a whole run, also if it ends in a fault. -/
theorem world_of_validate {J : σ → Prop} (hkeeps : st.handlers.Keeps J) {m : Memo}
    (hm : st.KnowsUpToIds m) (pairs : List (Term × Selector)) {world : σ} (hworld : J world) :
    J (st.validator.validate st.limits st.handlers st.graph pairs m world).2.2 :=
  (keeps_of_simulates ((mirrors_self hkeeps hacc hhier hco hm).run pairs) (s := ⟨m, 0, world⟩)
    ⟨.refl m, hworld⟩).2

end

end Setting

/-- What the validators of a schema can leave behind: nothing at first, and then what their runs
make of it, whatever the limits, the handlers, the graphs and the pairs are, whether the run gives a
report or a fault, and whatever identities its copies get. -/
inductive Validator.MayRemember (v : Validator) : Memo → Prop
  | nothing : v.MayRemember .empty
  | run {σ : Type} {memo : Memo} (h : v.MayRemember memo) (ν : Numbering) (limits : Limits)
      (handlers : Handlers σ) (graph : GraphView) (pairs : List (Term × Selector)) (world : σ) :
      v.MayRemember ((v.renumber ν).validate limits handlers graph pairs memo world).2.1

/-- What a validator remembers is such a memo. -/
theorem Validator.Remembers.mayRemember {v : Validator} {memo : Memo} (h : v.Remembers memo) :
    v.MayRemember memo := by
  induction h with
  | nothing => exact .nothing
  | run _ limits handlers graph pairs world ih =>
    exact .run ih v.numbering limits handlers graph pairs world

/-- All that the validators of an accepted schema leave behind is right, up to the identities of
copies. By induction on the runs, each with a numbering, limits, handlers and a graph of its own. -/
theorem Setting.knowsUpToIds_of_mayRemember {σ : Type} {st : Setting σ}
    (hacc : st.validator.IsAccepted)
    (hhier : st.validator.hierarchy = .ofSchema st.validator.schema)
    (hco : st.validator.schema.IsCoherent) {memo : Memo} (h : st.validator.MayRemember memo) :
    st.KnowsUpToIds memo := by
  induction h with
  | nothing => exact knowsUpToIds_empty
  | @run τ memo _ ν limits handlers graph pairs world ih =>
    let st' : Setting τ := ⟨st.validator.renumber ν, limits, handlers, graph⟩
    have hbefore : st'.KnowsUpToIds memo := by
      refine ⟨ih.forms, fun l p hp => ?_⟩
      obtain ⟨ν', hplan⟩ := ih.plans l p hp
      exact ⟨ν', hplan.parts, hplan.form⟩
    have hacc' : st'.validator.IsAccepted := hacc
    have hhier' : st'.validator.hierarchy = .ofSchema st'.validator.schema := hhier
    have hafter := hbefore.of_offersSame hhier'
      (offersSame_of_validate hacc' hhier' hco hbefore pairs world)
    refine ⟨hafter.forms, fun l p hp => ?_⟩
    obtain ⟨ν', hplan⟩ := hafter.plans l p hp
    exact ⟨ν', hplan.parts, hplan.form⟩

end Shex
