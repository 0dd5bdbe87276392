import Shex.Proofs.ExpansionLimit
import Shex.Proofs.Neighbourhoods
import Shex.Proofs.Simulation

/-!
# Limits never change a verdict

A limit only ever ends a run with a fault. Where a run gives a report under some limits, it gives
the same report under limits that are at least as wide, with the same memo and the same state of the
handlers, and so any two limits under which there is a report give the same report
(`Validator.validate_limits`). What a run computes, asks of handlers and compares with its limits is
mirrored by what it does under wider limits (`Setting.mirrors_under`).
-/

namespace Shex

open Run

/-! ### Wider limits -/

namespace Limits

/-- The second limits are at least as wide as the first. No bound on assignments is the widest, and
the timeout plays no part. -/
structure Within (L L' : Limits) : Prop where
  depth : L.depth ≤ L'.depth
  assignments : ∀ n', L'.assignments = some n' → ∃ n, L.assignments = some n ∧ n ≤ n'
  patternLength : L.patternLength ≤ L'.patternLength
  expansion : L.expansion ≤ L'.expansion

/-- Limits that are at least as wide as two others. -/
def join (L L' : Limits) : Limits where
  depth := max L.depth L'.depth
  assignments := none
  timeout := none
  patternLength := max L.patternLength L'.patternLength
  expansion := max L.expansion L'.expansion

/-- Each limit of the first is at most the one of the join. -/
theorem within_join_left (L L' : Limits) : L.Within (L.join L') := by
  constructor
  · exact Nat.le_max_left _ _
  · intro n h
    cases h
  · exact Nat.le_max_left _ _
  · exact Nat.le_max_left _ _

/-- Each limit of the second is at most the one of the join. -/
theorem within_join_right (L L' : Limits) : L'.Within (L.join L') := by
  constructor
  · exact Nat.le_max_right _ _
  · intro n h
    cases h
  · exact Nat.le_max_right _ _
  · exact Nat.le_max_right _ _

/-- Time is refused exactly where it is bounded and more than the bound has passed, and the fault
names both. So a run that is refused stays refused, and only limits with a timeout refuse any. -/
theorem checkTime_eq_error_iff {L : Limits} {elapsed : Nat} {o : Overtime} :
    L.checkTime elapsed = .error o ↔
      ∃ limit, L.allowance? = some limit ∧ o = ⟨elapsed, limit⟩ ∧ limit < elapsed := by
  unfold checkTime
  constructor
  · intro h
    cases hlimit : L.allowance? with
    | none =>
      rw [hlimit] at h
      cases h
    | some limit =>
      rw [hlimit] at h
      dsimp only at h
      by_cases hover : limit < elapsed
      · rw [if_pos hover] at h
        exact ⟨limit, rfl, (Except.error.inj h).symm, hover⟩
      · rw [if_neg hover] at h
        cases h
  · rintro ⟨limit, hlimit, rfl, hover⟩
    rw [hlimit]
    exact if_pos hover

/-- A run that is in time has been in time all along. -/
theorem checkTime_of_le {L : Limits} {earlier later : Nat} (hle : earlier ≤ later)
    (h : L.checkTime later = .ok ()) : L.checkTime earlier = .ok () := by
  cases hearlier : L.checkTime earlier with
  | ok => rfl
  | error o =>
    obtain ⟨limit, hlimit, -, hover⟩ := checkTime_eq_error_iff.1 hearlier
    have hlater : L.checkTime later = .error ⟨later, limit⟩ :=
      checkTime_eq_error_iff.2 ⟨limit, hlimit, rfl, hover.trans_le hle⟩
    cases h.symm.trans hlater

/-- The limits that two limits are compared through refuse no run for its time. -/
theorem checkTime_join (L L' : Limits) (elapsed : Nat) :
    (L.join L').checkTime elapsed = .ok () := rfl

end Limits

example : (Limits.checkTime .strict 5100000000).toOption = none ∧
    Overtime.message ⟨5100000000, 5000000000⟩ =
      "Validation timeout exceeded: elapsed 5.1s, limit is 5s" := by decide +kernel

/-! ### Node constraints -/

section
variable {R : Readers} {byteLimit byteLimit' : Nat} (hle : byteLimit ≤ byteLimit')
include hle

/-- A pattern that is short enough for one limit is answered in the same way under a greater one.
Only the pattern is measured, in bytes, and never the text. -/
theorem StringFacet.failure?_mono {f : StringFacet} {t : Term} {r : Option ConditionFailure}
    (h : f.failure? R byteLimit t = .ok r) : f.failure? R byteLimit' t = .ok r := by
  unfold failure? at h ⊢
  cases ht : t.text? with
  | none =>
    rw [ht] at h
    exact h
  | some text =>
    rw [ht] at h
    cases f with
    | length | minLength | maxLength => exact h
    | pattern p flags =>
      simp only [complaint?, compile] at h ⊢
      by_cases hlong : p.utf8ByteSize > byteLimit
      · rw [if_pos hlong] at h
        cases h
      · have hshort : ¬ p.utf8ByteSize > byteLimit' := by omega
        rw [if_neg hlong] at h
        rw [if_neg hshort]
        exact h

/-- Failures that are found under a limit on patterns are found under every greater limit, in the
same order: the limit decides only whether there is an answer. -/
theorem NodeConstraint.failures_mono {c : NodeConstraint} {t : Term} {fs : List ConditionFailure}
    (h : c.failures R byteLimit t = .ok fs) : c.failures R byteLimit' t = .ok fs := by
  unfold failures at h ⊢
  cases hs : c.stringFacets.mapM (·.failure? R byteLimit t) with
  | error fault =>
    rw [hs] at h
    cases h
  | ok strings =>
    have hmore : c.stringFacets.mapM (·.failure? R byteLimit' t) = .ok strings :=
      mapM_eq_ok_iff.2 ((mapM_eq_ok_iff.1 hs).imp fun _ _ hf => StringFacet.failure?_mono hle hf)
    rw [hs] at h
    rw [hmore]
    exact h

end

/-! ### Forms and plans -/

namespace Setting

variable {σ : Type}

/-- A run under other limits. -/
def under (st : Setting σ) (L : Limits) : Setting σ := { st with limits := L }

variable {st : Setting σ} {L : Limits} (hL : st.limits.Within L)
include hL

/-- A form that is found under a limit is the one found under a greater limit
(`TripleExpr.normalize_mono`). -/
theorem formOf_under (e : TripleExpr) :
    Run.Approximates (st.formOf e) ((st.under L).formOf e) := by
  unfold formOf
  refine Run.Approximates.bind_right fun s => ?_
  split
  · exact .refl _
  · split
    · exact .throw
    · rename_i f hf
      have hmore : e.normalize (st.under L).validator.schema (st.under L).limits.expansion
          ((st.under L).validator.numbering (.expr e.id)) = .ok f :=
        TripleExpr.normalize_mono hL.expansion hf
      rw [hmore]
      exact .refl _

/-- So is the joined form of a plan, with the same identities. The only expression of one part is
looked up like that of any shape. -/
theorem joinedForm_under (l : Label) (es : List TripleExpr) :
    Run.Approximates (st.joinedForm l es) ((st.under L).joinedForm l es) := by
  match es with
  | [] => exact .refl _
  | [e] => exact formOf_under hL e
  | e :: e' :: es =>
    unfold joinedForm
    dsimp only
    split
    · exact .throw
    · rename_i f hf
      have hmore := TripleExpr.normalize_mono (show _ ≤ (st.under L).limits.expansion from
        hL.expansion) hf
      have hsame : (st.under L).validator = st.validator := rfl
      rw [hsame, hmore]
      exact .refl _

/-- So is a plan. -/
theorem planOf_under (l : Label) :
    Run.Approximates (st.planOf l) ((st.under L).planOf l) := by
  have hsame : (st.under L).validator = st.validator := rfl
  unfold planOf
  refine Run.Approximates.bind_right fun s => ?_
  split
  · exact .refl _
  · rw [hsame]
    split
    · exact .throw
    · exact (joinedForm_under hL l _).bind fun _ => .refl _

/-- A combination that is within a limit is within a greater one. Both runs start from the same
count, so they stay at the same count. -/
theorem tick_under : Run.Approximates st.tick (st.under L).tick := by
  have hsame : (st.under L).limits = L := rfl
  unfold tick
  rw [hsame]
  refine Run.Approximates.bind_right fun s => Run.Approximates.bind_right fun _ => ?_
  cases hn' : L.assignments with
  | none =>
    cases st.limits.assignments with
    | none => exact .refl _
    | some n =>
      dsimp only
      split
      · exact .throw
      · exact .refl _
  | some n' =>
    obtain ⟨n, hn, hle⟩ := hL.assignments n' hn'
    rw [hn]
    dsimp only
    by_cases hlt : n < s.assignments + 1
    · rw [if_pos hlt]
      exact .throw
    · rw [if_neg hlt, if_neg (by omega)]
      exact .refl _

/-! ### Runs -/

/-- A run is mirrored by the run under wider limits, which need not end in the same faults: every
fault is excused here, and what is compared are reports. -/
theorem mirrors_under : Mirrors Eq (fun _ => True) (fun _ => True) st (st.under L) where
  keeps := Schema.keeps_true _
  schema := rfl
  hierarchy := rfl
  graph := rfl
  forms m h t _ := by
    refine Simulates.imp (P := Eq) ?_ fun f g hfg => ?_
    · cases t with
      | none => exact (Run.Approximates.refl _).simulates
      | some e => exact (formOf_under hL e).simulates
    · subst hfg
      exact ⟨Eq, .refl fun _ _ _ _ => trivial⟩
  plans l _ := by
    refine (planOf_under hL l).simulates.imp fun p q hpq => ?_
    subst hpq
    exact ⟨Eq, .refl (fun _ _ _ _ => trivial) fun _ _ _ _ => trivial⟩
  actions acts ts := (Run.Approximates.refl (st.runActions acts ts)).simulates
  tick := (tick_under hL).simulates
  failures c node := by
    cases hc : c.failures st.validator.readers st.limits.patternLength node with
    | error fault => exact .inl trivial
    | ok fs => exact NodeConstraint.failures_mono hL.patternLength hc
  depth := .inr ⟨hL.depth, trivial⟩

/-- The whole run, with all faults of limits excused on the side of the narrower ones. -/
theorem run_under (pairs : List (Term × Selector)) :
    Run.Approximates (st.run pairs) ((st.under L).run pairs) :=
  ((mirrors_under hL).run pairs).approximates

end Setting

/-- A report stays the same under wider limits, and with it all that the run gives back. So any two
limits under which there is a report give the same report. -/
theorem Validator.validate_limits {σ : Type} (v : Validator) (handlers : Handlers σ)
    (graph : GraphView) (pairs : List (Term × Selector)) (memo : Memo) (world : σ) :
    (∀ L L' : Limits, L.Within L' → ∀ report,
      (v.validate L handlers graph pairs memo world).1 = .ok report →
      v.validate L' handlers graph pairs memo world =
        v.validate L handlers graph pairs memo world) ∧
    ∀ (L L' : Limits) report report',
      (v.validate L handlers graph pairs memo world).1 = .ok report →
      (v.validate L' handlers graph pairs memo world).1 = .ok report' → report = report' := by
  have hwider : ∀ L L' : Limits, L.Within L' → ∀ report,
      (v.validate L handlers graph pairs memo world).1 = .ok report →
      v.validate L' handlers graph pairs memo world =
        v.validate L handlers graph pairs memo world := by
    intro L L' hL report h
    have hrun := @Setting.run_under σ ⟨v, L, handlers, graph⟩ L' hL pairs ⟨memo, 0, world⟩
    unfold validate at h ⊢
    rcases hr : (Setting.run ⟨v, L, handlers, graph⟩ pairs).run.run ⟨memo, 0, world⟩ with ⟨r, t⟩
    rw [hr] at h
    obtain rfl : r = .ok report := h
    have hmore : (Setting.run ⟨v, L', handlers, graph⟩ pairs).run.run ⟨memo, 0, world⟩ =
        (.ok report, t) := hrun report t hr
    rw [hmore]
  refine ⟨hwider, fun L L' report report' h h' => ?_⟩
  have hleft := hwider L (L.join L') (L.within_join_left L') report h
  have hright := hwider L' (L.join L') (L.within_join_right L') report' h'
  have hsame : (Except.ok report : Except ValidationFault Report) = .ok report' := by
    rw [← h, ← h', ← hleft, ← hright]
  exact Except.ok.inj hsame

/-! ### Example -/

/-- `<S> { ( p @<S> ; q . ){2} }` -/
def twiceSchema : Schema :=
  Schema.empty.addShape (.iri ⟨"S"⟩) ⟨false, .shape ⟨⟨0⟩, []⟩ .plain (some
    (.repeated (.written ⟨⟨1⟩, []⟩)
      (.eachOf (.written ⟨⟨2⟩, []⟩)
        [.constraint (.written ⟨⟨3⟩, []⟩) ⟨⟨"p"⟩, false⟩ (some (.ref ⟨⟨4⟩, []⟩ (.iri ⟨"S"⟩))),
          .constraint (.written ⟨⟨5⟩, []⟩) ⟨⟨"q"⟩, false⟩ none])
      (.exactly 2)))⟩

/-- Run about `n p n`, `n p m`, `m p m`, `m p n`, `m q n`, `m q m` and `n q m`. -/
def twiceSetting : Setting Unit :=
  settingOf twiceSchema [link "n" "p" "n", link "n" "p" "m", link "m" "p" "m", link "m" "p" "n",
    link "m" "q" "n", link "m" "q" "m", link "n" "q" "m"]

/-- What the check of `n` against `<S>` gives. -/
def checkTwice (L : Limits) : Except ValidationFault Report × Memo × Unit :=
  twiceSetting.validator.validate L twiceSetting.handlers twiceSetting.graph
    [(.resource (.iri ⟨"n"⟩), .label (.iri ⟨"S"⟩))] .empty ()

/-- Bounds that the check of `n` against `<S>` just keeps. -/
def narrowLimits : Limits := ⟨4, some 20, none, 0, 7⟩

/-- Seven copied nodes, four nested evaluations and twenty assignments are enough to find that `n`
does not conform, and under the standard limits the diagnostics are the same. -/
theorem twice_same_report :
    narrowLimits.Within .standard ∧
      (∃ report, (checkTwice narrowLimits).1 = .ok report ∧ report.conforms = false) ∧
      checkTwice .standard = checkTwice narrowLimits := by
  have hwithin : narrowLimits.Within .standard :=
    ⟨by decide, (fun n h => nomatch h), by decide, by decide⟩
  have hfails : (checkTwice narrowLimits).1.toOption.map Report.conforms = some false := by
    decide +kernel
  cases hreport : (checkTwice narrowLimits).1 with
  | error fault =>
    rw [hreport] at hfails
    cases hfails
  | ok report =>
    rw [hreport] at hfails
    refine ⟨hwithin, ⟨report, rfl, Option.some.inj hfails⟩, ?_⟩
    unfold checkTwice at hreport ⊢
    exact (twiceSetting.validator.validate_limits twiceSetting.handlers twiceSetting.graph _ .empty
      ()).1 narrowLimits .standard hwithin report hreport

end Shex
