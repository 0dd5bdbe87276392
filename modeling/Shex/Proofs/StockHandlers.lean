import Shex.Action.Stock
import Shex.Proofs.InStep

/-!
# Stock handlers and their journal

Which stock handlers answer by the code and the triples alone, and what their journal says. All of
them do but those that reject their first calls (`stockHandlers_isPure_iff`), so what is proved of
pure handlers applies to them. After a run the journal lists the calls with what their rules decide,
each after the calls before it, and its counts go on from where they began
(`Validator.validate_journal`).
-/

namespace Shex

/-! ### Look-up -/

/-- The rule that is listed last under a name. -/
def lastRule? (rules : List (Iri × StockRule)) (name : Iri) : Option StockRule :=
  (rules.reverse.find? (·.1 = name)).map Prod.snd

/-- A handler follows the last rule under its name, as `Table.insert` replaces what was there. The
induction is from the end of the list, where the table was last changed. -/
theorem get?_stockHandlers (rules : List (Iri × StockRule)) (name : Iri) :
    (stockHandlers rules).get? name = (lastRule? rules name).map (StockRule.handler name) := by
  induction rules using List.reverseRecOn with
  | nil => rfl
  | append_singleton rules rule ih =>
    obtain ⟨name', r⟩ := rule
    have hlast : stockHandlers (rules ++ [(name', r)]) =
        (stockHandlers rules).insert name' (r.handler name') := by
      rw [stockHandlers, List.foldl_append]
      rfl
    rw [hlast, lastRule?, List.reverse_append, List.reverse_singleton, List.singleton_append,
      List.find?_cons]
    by_cases hname : name' = name
    · subst hname
      simp
    · rw [Table.get?_insert_of_ne _ hname, ih, lastRule?]
      simp [hname]

/-! ### Purity -/

/-- A rule decides alike however often it was asked before. -/
def StockRule.IsPure : StockRule → Prop
  | rejectFirst n => n = 0
  | _ => True

/-- A rule that does not look at the journal decides by the code and the triples. -/
theorem StockRule.IsPure.decide_eq {r : StockRule} (h : r.IsPure) (code : Option String)
    (ts : List Triple) (earlier earlier' : Nat) :
    r.decide earlier code ts = r.decide earlier' code ts := by
  cases r with
  | rejectFirst n =>
    obtain rfl : n = 0 := h
    simp [StockRule.decide]
  | accept | reject | error | code | rejectObject | max | min => rfl

/-- Stock handlers are pure exactly if the rules in force are. One that rejects its first calls
gives itself away to journals with different counts. -/
theorem stockHandlers_isPure_iff {rules : List (Iri × StockRule)} :
    (stockHandlers rules).IsPure ↔ ∀ name r, lastRule? rules name = some r → r.IsPure := by
  constructor
  · intro hpure name r hr
    have hget : (stockHandlers rules).get? name = some (r.handler name) := by
      rw [get?_stockHandlers, hr, Option.map_some]
    cases r with
    | rejectFirst n =>
      have hsame := hpure name _ hget none [] .empty ⟨[], Table.empty.insert name n⟩
      change Except.ok (decide (n ≤ 0)) = Except.ok (decide
        (n ≤ ((Table.empty.insert name n).get? name).getD 0)) at hsame
      rw [Table.get?_insert_self] at hsame
      exact (by simpa using hsame : n = 0)
    | accept | reject | error | code | rejectObject | max | min => trivial
  · intro hrules name handler hget code ts j j'
    rw [get?_stockHandlers] at hget
    obtain ⟨r, hr, rfl⟩ := Option.map_eq_some_iff.1 hget
    exact (hrules name r hr).decide_eq code ts _ _

/-! ### The journal -/

/-- How many of the calls are those of a handler. -/
def callsOf (calls : List HandlerCall) (name : Iri) : Nat := calls.countP (·.name = name)

/-- A journal explains itself by the rules: it counts its calls, on from the counts it had, and each
of them has the outcome that the rule in force decides after the calls before it. -/
structure Journal.IsExplained (rules : List (Iri × StockRule)) (before : Iri → Nat) (j : Journal) :
    Prop where
  counts : ∀ name, (j.counts.get? name).getD 0 = before name + callsOf j.calls name
  outcomes : ∀ later call earlier, j.calls = later ++ call :: earlier →
    ∃ r, lastRule? rules call.name = some r ∧
      call.outcome = r.decide (before call.name + callsOf earlier call.name) call.code call.triples

/-- A journal without calls is explained by whatever counts it has. -/
theorem Journal.isExplained_clear (rules : List (Iri × StockRule)) (j : Journal) :
    j.clear.IsExplained rules fun name => (j.counts.get? name).getD 0 where
  counts _ := rfl
  outcomes later call earlier h := by simp [Journal.clear] at h

/-- One call keeps the journal explained: it is the latest one, and the count that its handler
decided by is the number of the calls of that name. -/
theorem stockHandlers_keeps (rules : List (Iri × StockRule)) (before : Iri → Nat) :
    (stockHandlers rules).Keeps (Journal.IsExplained rules before) := by
  intro name handler hget code ts j hj
  rw [get?_stockHandlers] at hget
  obtain ⟨r, hr, rfl⟩ := Option.map_eq_some_iff.1 hget
  constructor
  · intro name'
    change ((j.counts.insert name ((j.counts.get? name).getD 0 + 1)).get? name').getD 0 =
      before name' + callsOf (⟨name, code, ts, _⟩ :: j.calls) name'
    by_cases hname : name = name'
    · subst hname
      rw [Table.get?_insert_self, Option.getD_some, hj.counts, callsOf, callsOf]
      simp [Nat.add_assoc]
    · rw [Table.get?_insert_of_ne _ hname, hj.counts, callsOf, callsOf]
      simp [hname]
  · intro later call earlier hcalls
    change (⟨name, code, ts, _⟩ :: j.calls : List HandlerCall) = later ++ call :: earlier at hcalls
    cases later with
    | nil =>
      obtain ⟨rfl, rfl⟩ := List.cons.inj hcalls
      exact ⟨r, hr, by rw [hj.counts]⟩
    | cons c later => exact hj.outcomes later call earlier (List.cons.inj hcalls).2

/-- What a run writes into its journal is explained by the rules, for all schemas, graphs, limits
and memos, also if the run ends in a fault: the calls have the outcomes that the rules decide, and
none is left out of the counts. -/
theorem Validator.validate_journal {v : Validator} (hv : v.IsBuilt) (hco : v.schema.IsCoherent)
    (rules : List (Iri × StockRule)) (limits : Limits) (graph : GraphView)
    (pairs : List (Term × Selector)) {memo : Memo} (hmemo : v.MayRemember memo) (j : Journal) :
    (v.validate limits (stockHandlers rules) graph pairs memo j.clear).2.2.IsExplained rules
      fun name => (j.counts.get? name).getD 0 :=
  have hknows : (⟨v, limits, stockHandlers rules, graph⟩ : Setting Journal).KnowsUpToIds memo :=
    Setting.knowsUpToIds_of_mayRemember hv.accepted hv.hierarchy hco hmemo
  Setting.world_of_validate hv.accepted hv.hierarchy hco (stockHandlers_keeps rules _) hknows pairs
    (j.isExplained_clear rules)

end Shex
