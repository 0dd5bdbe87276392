import Shex.Proofs.RunLogic
import Shex.Validation

/-!
# Single checks

A run about one pair of a node and a label, with nothing computed before. Its report says what the
check of the pair finds out, so what is known about evaluation carries over to reports
(`Setting.conforms_iff`).
-/

namespace Shex.Setting

open Run

variable {σ : Type}

/-- The run that checks one node against one label, with nothing computed before, finds that the
node conforms. -/
def Conforms (st : Setting σ) (world : σ) (n : Term) (l : Label) : Prop :=
  ∃ report, (st.validator.validate st.limits st.handlers st.graph [(n, .label l)] .empty world).1 =
    .ok report ∧ report.conforms = true

/-- The runs that check one node against one label give reports. -/
def Completes (st : Setting σ) (world : σ) : Prop :=
  ∀ n l, (∃ d, st.validator.schema.shape? l = some d) → ∃ report,
    (st.validator.validate st.limits st.handlers st.graph [(n, .label l)] .empty world).1 =
      .ok report

variable {st : Setting σ} {I : RunState σ → Prop} {n : Term} {l : Label} {P : Prop} {world : σ}

/-- Without actions nothing is run, and nothing is refused. -/
theorem runActions_nil_meets : Meets I (st.runActions [] []) (fun b => b = true) fun _ => True :=
  fun _ hs => ⟨hs, rfl⟩

/-- A run about one pair finds out what the check of the pair finds out. Without start actions
nothing comes before the check, and a report with one entry conforms if that entry does. -/
theorem run_single_meets (hs : st.validator.schema.startActions = [])
    (h : Meets I (st.checkSelected n (.label l)) (fun v => v = .conforms ↔ P) fun _ => True) :
    Meets I (st.run [(n, .label l)]) (fun report => report.conforms = true ↔ P) fun _ => True := by
  unfold run
  split
  · exact Meets.throw trivial
  · rw [hs]
    refine runActions_nil_meets.bind fun b hb => ?_
    subst hb
    rw [checkAll, checkAll, check, if_pos rfl]
    refine Meets.bind (P := fun es => Report.conforms ⟨es⟩ = true ↔ P) ?_ fun es hes =>
      Meets.pure hes
    refine h.bind fun v hv => ?_
    rw [← hv]
    cases v <;> exact Meets.pure (by simp [Report.conforms, entry, Entry.conforms])

/-- A node conforms if its check decides so, for a label for which there is a report if the check
succeeds. -/
theorem conforms_iff (hs : st.validator.schema.startActions = []) (hI : I ⟨.empty, 0, world⟩)
    (h : Meets I (st.checkSelected n (.label l)) (fun v => v = .conforms ↔ P) fun _ => True)
    (hrun : st.Completes world) (hP : P → ∃ d, st.validator.schema.shape? l = some d) :
    st.Conforms world n l ↔ P := by
  have hresult := (run_single_meets hs h _ hI).2
  constructor
  · rintro ⟨report, hreport, hconforms⟩
    change ((st.run [(n, .label l)]).run.run ⟨.empty, 0, world⟩).1 = _ at hreport
    rw [hreport] at hresult
    exact hresult.1 hconforms
  · intro hp
    obtain ⟨report, hreport⟩ := hrun n l (hP hp)
    refine ⟨report, hreport, ?_⟩
    change ((st.run [(n, .label l)]).run.run ⟨.empty, 0, world⟩).1 = _ at hreport
    rw [hreport] at hresult
    exact hresult.2 hp

end Shex.Setting
