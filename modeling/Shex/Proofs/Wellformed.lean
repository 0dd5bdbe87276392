import Shex.Proofs.Inside
import Shex.Proofs.Reachability
import Shex.Wellformed

/-!
# What well-formed schemas guarantee

The checks of `Schema.analyze` read as properties of the schema: references of triple expressions
lead to declarations (`Schema.IsResolved`), no labelled triple expression contains itself
(`Schema.IsAcyclic`), and no label depends on itself through a negative dependency
(`Schema.IsStratified`).
-/

namespace Shex.Schema

open Relation

variable {s : Schema} {R : Readers}

/-- A check that goes through a list succeeds if it succeeds for every element. All checks of the
analysis are opened with this lemma and the next one, and never by their order of evaluation. -/
theorem forM_eq_ok_iff {α ε : Type} {f : α → Except ε Unit} :
    ∀ {as : List α}, as.forM f = .ok () ↔ ∀ a ∈ as, f a = .ok ()
  | [] => by simp [List.forM_nil, pure, Except.pure]
  | a :: as => by
    rw [List.forall_mem_cons, ← forM_eq_ok_iff]
    change (f a >>= fun _ => as.forM f) = .ok () ↔ _
    cases f a <;> simp [bind, Except.bind]

/-- Two checks in a row succeed if both do. -/
theorem bind_eq_ok_iff {ε : Type} {x y : Except ε Unit} :
    (x >>= fun _ => y) = .ok () ↔ x = .ok () ∧ y = .ok () := by
  cases x <;> simp [bind, Except.bind]

/-- A schema is accepted if it passes every check. -/
theorem analyze_eq_ok_iff :
    s.analyze R = .ok () ↔ s.checkDistinctLabels = .ok () ∧ s.checkReferences = .ok () ∧
      s.checkDirectCycles = .ok () ∧ s.checkStratification = .ok () ∧ s.checkExtension = .ok () ∧
      s.checkPatterns R = .ok () := by
  rw [analyze, bind_eq_ok_iff, bind_eq_ok_iff, bind_eq_ok_iff, bind_eq_ok_iff, bind_eq_ok_iff]

/-! ### References -/

/-- What a triple expression refers to outside its value expressions is declared. -/
def RefsDeclared (s : Schema) (e : TripleExpr) : Prop :=
  ∀ l ∈ e.refs, ∃ e', s.tripleExpr? l = some e'

/-- What the labelled triple expressions refer to is declared. -/
def IsResolved (s : Schema) : Prop := ∀ l e, s.tripleExpr? l = some e → s.RefsDeclared e

/-- The check of the references in one triple expression says what its name says. -/
theorem checkTripleRefs_iff {e : TripleExpr} : s.checkTripleRefs e = .ok () ↔ s.RefsDeclared e := by
  rw [checkTripleRefs, forM_eq_ok_iff]
  refine forall_congr' fun l => imp_congr_right fun _ => ?_
  rw [requireTripleExpr, tripleExpr?, ← Option.isSome_iff_exists, Table.contains]
  split <;> simp_all

/-- In an accepted schema every reference in a labelled triple expression has a declaration. The
check runs over the declared expressions, so it is read off at the entry of the label. -/
theorem isResolved_of_analyze (h : s.analyze R = .ok ()) : s.IsResolved := by
  have href := (analyze_eq_ok_iff.1 h).2.1
  rw [checkReferences, bind_eq_ok_iff, bind_eq_ok_iff, forM_eq_ok_iff, forM_eq_ok_iff,
    forM_eq_ok_iff] at href
  intro l e hl
  have hmem : e ∈ s.tripleExprs.values :=
    List.mem_map.2 ⟨(l, e), (Table.get?_eq_some_iff _).1 hl, rfl⟩
  exact checkTripleRefs_iff.1 (bind_eq_ok_iff.1 (href.2.2 e hmem)).1

/-! ### Circular triple expressions -/

/-- A labelled triple expression refers to another one outside its value expressions. -/
def Contains (s : Schema) (l l' : Label) : Prop := ∃ e, s.tripleExpr? l = some e ∧ l' ∈ e.refs

/-- No labelled triple expression contains itself. -/
def IsAcyclic (s : Schema) : Prop := ∀ l, ¬ TransGen s.Contains l l

/-- The graph of direct references between labelled triple expressions is made like the graph of
dependencies, so both are covered by the lemmas on `LabelGraph.ofDependencies`. -/
theorem directTripleGraph_eq :
    s.directTripleGraph =
      .ofDependencies (fun e => e.refs.map (·, .positive)) s.tripleExprs.entries := rfl

/-- An edge of that graph is a reference in the declaration of its source. -/
theorem directTripleGraph_hasEdge {l l' : Label} :
    s.directTripleGraph.HasEdge l l' ↔ s.Contains l l' := by
  rw [directTripleGraph_eq, LabelGraph.hasEdge_ofDependencies]
  refine exists_congr fun e => and_congr (Table.get?_eq_some_iff _).symm ?_
  simp

/-- In an accepted schema no labelled triple expression contains itself: a chain of references back
to its start would be a cycle of the graph, and the search misses none. -/
theorem isAcyclic_of_analyze (h : s.analyze R = .ok ()) : s.IsAcyclic := by
  have hcyc := (analyze_eq_ok_iff.1 h).2.2.1
  rw [checkDirectCycles, bind_eq_ok_iff] at hcyc
  have hnone : s.directTripleGraph.firstCycle? = none := by
    have := hcyc.2
    unfold rejectCycles at this
    split at this
    · cases this
    · assumption
  have hknows : s.directTripleGraph.KnowsSources := by
    rw [directTripleGraph_eq]
    exact LabelGraph.knowsSources_ofDependencies _ _
  intro l hl
  exact LabelGraph.not_transGen_of_firstCycle?_eq_none hknows hnone l
    (TransGen.mono (fun _ _ h => directTripleGraph_hasEdge.2 h) _ _ hl)

/-! ### Stratified negation -/

/-- The declaration of a label depends on another label. -/
def DependsOn (s : Schema) (l l' : Label) : Prop :=
  ∃ d, s.shape? l = some d ∧ ∃ p, (l', p) ∈ s.dependencies d.expr

/-- The declaration of a label depends on another label negatively. -/
def DependsNegatively (s : Schema) (l l' : Label) : Prop :=
  ∃ d, s.shape? l = some d ∧ (l', .negative) ∈ s.dependencies d.expr

/-- No label depends on itself through a negative dependency. -/
def IsStratified (s : Schema) : Prop :=
  ∀ l l', s.DependsNegatively l l' → ¬ TransGen s.DependsOn l' l

/-- A label that is depended on negatively does not lead back. -/
theorem IsStratified.not_reflTransGen (h : s.IsStratified) {l l' : Label}
    (hneg : s.DependsNegatively l l') : ¬ ReflTransGen s.DependsOn l' l := by
  obtain ⟨d, hd, hmem⟩ := hneg
  intro hback
  refine h l l' ⟨d, hd, hmem⟩ ?_
  rcases reflTransGen_iff_eq_or_transGen.1 hback with rfl | hback
  · exact .single ⟨d, hd, _, hmem⟩
  · exact hback

/-- The graph of dependencies between shape expressions, as the lemmas on
`LabelGraph.ofDependencies` take it. -/
theorem dependencyGraph_eq :
    s.dependencyGraph = .ofDependencies (fun d => s.dependencies d.expr) s.shapes.entries := rfl

/-- In an accepted schema no label depends on itself through a negative edge: the search for
negative cycles found none. -/
theorem isStratified_of_analyze (h : s.analyze R = .ok ()) : s.IsStratified := by
  have hstrat := (analyze_eq_ok_iff.1 h).2.2.2.1
  have hnone : s.dependencyGraph.negativeCycle? = none := by
    unfold checkStratification at hstrat
    split at hstrat
    · cases hstrat
    · assumption
  have hedge : ∀ a b, s.DependsOn a b → s.dependencyGraph.HasEdge a b := by
    rintro a b ⟨d, hd, hp⟩
    rw [dependencyGraph_eq, LabelGraph.hasEdge_ofDependencies]
    exact ⟨d, (Table.get?_eq_some_iff _).1 hd, hp⟩
  rintro l l' ⟨d, hd, hneg⟩ hback
  refine LabelGraph.not_transGen_of_negativeCycle?_eq_none hnone ?_ (TransGen.mono hedge _ _ hback)
  rw [dependencyGraph_eq, LabelGraph.hasNegative_ofDependencies]
  exact ⟨d, (Table.get?_eq_some_iff _).1 hd, hneg⟩

end Shex.Schema
