import Mathlib.Algebra.GroupWithZero.Nat
import Mathlib.Data.List.Dedup
import Mathlib.Logic.Relation
import Shex.LabelGraph

/-!
# Breadth-first search finds what can be reached

`closure` returns exactly what its starting points reach, if its fuel is at least the number of
steps between any two elements (`mem_closure_iff`). So the tests on graphs of labels say what they
mean: a label reaches another if there is a path (`LabelGraph.reaches_iff`), a graph in which no
first cycle is found has no cycles, and one in which no negative cycle is found has no negative edge
on a cycle.
-/

namespace Shex

open Relation

section
variable {α : Type} [DecidableEq α] {next : α → List α}

/-- What the search returns is reached from where it started. Stated for any property that steps
preserve. -/
theorem breadthFirst_sound {P : α → Prop} (hnext : ∀ a, P a → ∀ b ∈ next a, P b) :
    ∀ {fuel : Nat} {queue seen : List α}, (∀ a ∈ queue, P a) → (∀ a ∈ seen, P a) →
      ∀ a ∈ breadthFirst next fuel queue seen, P a
  | 0, queue, seen, _, hs, a, ha => by
    rw [breadthFirst] at ha
    exact hs a (List.mem_reverse.1 ha)
  | _ + 1, [], seen, _, hs, a, ha => by
    rw [breadthFirst] at ha
    exact hs a (List.mem_reverse.1 ha)
  | fuel + 1, x :: queue, seen, hq, hs, a, ha => by
    rw [breadthFirst] at ha
    rw [List.forall_mem_cons] at hq
    split at ha
    · exact breadthFirst_sound hnext hq.2 hs a ha
    · refine breadthFirst_sound hnext (fun b hb => ?_) (List.forall_mem_cons.2 ⟨hq.1, hs⟩) a ha
      exact (List.mem_append.1 hb).elim (hq.2 b) (hnext x hq.1 b)

/-- The number of steps from those elements of `U` that were not visited. -/
def pendingSteps (next : α → List α) (U seen : List α) : Nat :=
  ((U.filter (· ∉ seen)).map fun a => (next a).length).sum

/-- A visit takes the steps of the visited element off those to come. Elements without steps may lie
outside of `U`. -/
theorem pendingSteps_cons {U seen : List α} {a : α} (hU : U.Nodup) (ha : a ∈ U ∨ next a = [])
    (hs : a ∉ seen) :
    pendingSteps next U (a :: seen) + (next a).length = pendingSteps next U seen := by
  unfold pendingSteps
  induction U with
  | nil =>
    obtain ha | ha := ha
    · cases ha
    · simp [ha]
  | cons x U ih =>
    rw [List.nodup_cons] at hU
    by_cases hx : x = a
    · subst hx
      have hsame : U.filter (· ∉ x :: seen) = U.filter (· ∉ seen) := by
        refine List.filter_congr fun b hb => ?_
        have : b ≠ x := fun h => hU.1 (h ▸ hb)
        simp [this]
      rw [List.filter_cons_of_neg (by simp), List.filter_cons_of_pos (by simpa using hs), hsame,
        List.map_cons, List.sum_cons, Nat.add_comm]
    · have ha' : a ∈ U ∨ next a = [] := ha.imp_left fun h => by
        rcases List.mem_cons.1 h with h | h
        · exact absurd h.symm hx
        · exact h
      have := ih hU.2 ha'
      by_cases hxs : x ∈ seen
      · simpa [hxs] using this
      · rw [List.filter_cons_of_pos (by simp [hx, hxs]),
          List.filter_cons_of_pos (by simpa using hxs)]
        simp only [List.map_cons, List.sum_cons]
        omega

/-- With enough fuel, what is returned has all that was visited or queued, and is closed under
steps. -/
theorem breadthFirst_closed {U : List α} (hU : U.Nodup) (hnext : ∀ a, next a ≠ [] → a ∈ U) :
    ∀ {fuel : Nat} {queue seen : List α}, queue.length + pendingSteps next U seen ≤ fuel →
      (∀ a ∈ seen, ∀ b ∈ next a, b ∈ seen ∨ b ∈ queue) →
      (∀ a, a ∈ seen ∨ a ∈ queue → a ∈ breadthFirst next fuel queue seen) ∧
        ∀ a ∈ breadthFirst next fuel queue seen, ∀ b ∈ next a,
          b ∈ breadthFirst next fuel queue seen := by
  intro fuel
  induction fuel with
  | zero =>
    intro queue seen hfuel hseen
    obtain rfl : queue = [] := List.length_eq_zero_iff.1 (by omega)
    simpa [breadthFirst] using hseen
  | succ fuel ih =>
    rintro (_ | ⟨x, queue⟩) seen hfuel hseen
    · simpa [breadthFirst] using hseen
    · rw [breadthFirst]
      rw [List.length_cons] at hfuel
      split
      · rename_i hx
        obtain ⟨h1, h2⟩ := @ih queue seen (by omega) fun a ha b hb => by
          have := hseen a ha b hb
          grind
        exact ⟨fun a ha => h1 a (by grind), h2⟩
      · rename_i hx
        have hpot := @pendingSteps_cons _ _ next _ _ _ hU
          ((Classical.em (next x = [])).symm.imp_left (hnext x)) hx
        obtain ⟨h1, h2⟩ := @ih (queue ++ next x) (x :: seen)
          (by rw [List.length_append]; omega) fun a ha b hb => by
            rcases List.mem_cons.1 ha with rfl | ha
            · exact .inr (List.mem_append_right _ hb)
            · have := hseen a ha b hb
              grind
        exact ⟨fun a ha => h1 a (by grind), h2⟩

/-- The closure has what the starting points reach, and nothing else. The size that is given is
enough fuel if it bounds the number of steps. -/
theorem mem_closure_iff {U : List α} (hU : U.Nodup) (hnext : ∀ a, next a ≠ [] → a ∈ U) {size : Nat}
    (hsize : (U.map fun a => (next a).length).sum ≤ size) {starts : List α} {b : α} :
    b ∈ closure next size starts ↔ ∃ a ∈ starts, ReflTransGen (fun a b => b ∈ next a) a b := by
  constructor
  · refine breadthFirst_sound (P := fun b => ∃ a ∈ starts, ReflTransGen (fun a b => b ∈ next a) a b)
      ?_ (fun a ha => ⟨a, ha, .refl⟩) (by simp) b
    rintro a ⟨s, hs, hsa⟩ c hc
    exact ⟨s, hs, hsa.tail hc⟩
  · rintro ⟨a, ha, hab⟩
    obtain ⟨h1, h2⟩ := @breadthFirst_closed _ _ next U hU hnext (starts.length + size) starts []
      (by rw [pendingSteps, List.filter_eq_self.2 (by simp)]; omega) (by simp)
    induction hab with
    | refl => exact h1 a (.inr ha)
    | tail _ hstep ih => exact h2 _ ih _ hstep

end

/-! ### Graphs of labels -/

/-- The steps from different elements are different pairs. So the number of edges bounds the number
of steps. -/
theorem sum_filter_length_le {α β : Type} [DecidableEq α] {U : List α} (hU : U.Nodup) :
    ∀ ps : List (α × β), (U.map fun a => (ps.filter (·.1 = a)).length).sum ≤ ps.length
  | [] => by induction U <;> simp_all
  | p :: ps => by
    have ih := sum_filter_length_le hU ps
    have hone : (U.map fun a => ((p :: ps).filter (·.1 = a)).length).sum ≤
        (U.map fun a => (ps.filter (·.1 = a)).length).sum + U.count p.1 := by
      clear ih
      induction U with
      | nil => simp
      | cons a U ihU =>
        have := ihU hU.of_cons
        simp only [List.map_cons, List.sum_cons, List.count_cons, beq_iff_eq]
        by_cases h : p.1 = a
        · rw [List.filter_cons_of_pos (by simpa using h), List.length_cons, if_pos h.symm]
          omega
        · rw [List.filter_cons_of_neg (by simpa using h), if_neg (Ne.symm h)]
          omega
    have := List.nodup_iff_count_le_one.1 hU p.1
    rw [List.length_cons]
    omega

namespace LabelGraph

/-- There is an edge between two labels, of either sign. -/
def HasEdge (g : LabelGraph) (a b : Label) : Prop := (g.edges.get? (a, b)).isSome

/-- There is a negative edge between two labels. -/
def HasNegative (g : LabelGraph) (a b : Label) : Prop := g.edges.get? (a, b) = some .negative

/-- The listed successors are the ends of edges. The list is read from the table of edges, so a pair
appears in it whatever its polarity is. -/
theorem mem_successors {g : LabelGraph} {a b : Label} : b ∈ g.successors a ↔ g.HasEdge a b := by
  rw [HasEdge, Table.get?_isSome_iff, successors]
  constructor
  · intro h
    obtain ⟨⟨x, y⟩, hxy, rfl⟩ := List.mem_map.1 h
    obtain ⟨hmem, hx⟩ := List.mem_filter.1 hxy
    obtain rfl : x = a := by simpa using hx
    exact hmem
  · exact fun h => List.mem_map.2 ⟨(a, b), List.mem_filter.2 ⟨h, by simp⟩, rfl⟩

/-- A label is said to reach another if there is a path of one or more edges: the search begins with
the successors. -/
theorem reaches_iff {g : LabelGraph} {a b : Label} :
    g.reaches a b = true ↔ TransGen g.HasEdge a b := by
  have hU : (g.edges.keys.map Prod.fst).dedup.Nodup := List.nodup_dedup _
  have hsize : ((g.edges.keys.map Prod.fst).dedup.map fun a => (g.successors a).length).sum ≤
      g.edges.size := by
    have := sum_filter_length_le hU g.edges.keys
    simpa [successors, Table.size, Table.keys] using this
  have hnext : ∀ a, g.successors a ≠ [] → a ∈ (g.edges.keys.map Prod.fst).dedup := by
    intro a ha
    obtain ⟨b, hb⟩ := List.exists_mem_of_ne_nil _ ha
    have := mem_successors.1 hb
    rw [HasEdge, Table.get?_isSome_iff] at this
    exact List.mem_dedup.2 (List.mem_map.2 ⟨_, this, rfl⟩)
  rw [reaches, List.contains_iff_mem, reachable, mem_closure_iff hU hnext hsize,
    TransGen.head'_iff]
  simp only [mem_successors]

/-- No edge of a graph in which no negative cycle is found is negative and on a cycle. -/
theorem not_transGen_of_negativeCycle?_eq_none {g : LabelGraph} (h : g.negativeCycle? = none)
    {a b : Label} (hab : g.HasNegative a b) : ¬ TransGen g.HasEdge b a := by
  rw [negativeCycle?, Option.map_eq_none_iff, List.find?_eq_none] at h
  have := h _ (g.edges.get?_eq_some_iff.1 hab)
  rw [← reaches_iff]
  simpa using this

/-! How graphs are made. -/

/-- A call adds its own edge and takes none away. An edge that is there keeps its place in the
table; its polarity may change, the edge does not. -/
theorem hasEdge_addEdge {g : LabelGraph} {a b x y : Label} {p : Polarity} :
    (g.addEdge a b p).HasEdge x y ↔ g.HasEdge x y ∨ x = a ∧ y = b := by
  unfold HasEdge addEdge
  by_cases h : (a, b) = (x, y)
  · cases h
    simp
  · rw [Table.get?_insert_of_ne _ h]
    have hne : ¬ (x = a ∧ y = b) := fun ⟨hx, hy⟩ => h (by rw [hx, hy])
    simp [hne]

/-- A negative call makes its edge negative, and a positive one leaves it as it is: negative wins in
whichever order they come. -/
theorem hasNegative_addEdge {g : LabelGraph} {a b x y : Label} {p : Polarity} :
    (g.addEdge a b p).HasNegative x y ↔
      g.HasNegative x y ∨ (x = a ∧ y = b) ∧ p = .negative := by
  unfold HasNegative addEdge
  by_cases h : (a, b) = (x, y)
  · cases h
    cases g.edges.get? (a, b) with
    | none => simp
    | some q => cases q <;> cases p <;> simp [Polarity.join]
  · rw [Table.get?_insert_of_ne _ h]
    have hne : ¬ (x = a ∧ y = b) := fun ⟨hx, hy⟩ => h (by rw [hx, hy])
    simp [hne]

/-- The edges after the dependencies of one label have been added, by induction on the
dependencies. -/
theorem hasEdge_addDependencies {g : LabelGraph} {a x y : Label} {bs : List (Label × Polarity)} :
    (g.addDependencies a bs).HasEdge x y ↔ g.HasEdge x y ∨ x = a ∧ ∃ p, (y, p) ∈ bs := by
  have hfold : ∀ h : LabelGraph, (bs.foldl (fun g b => g.addEdge a b.1 b.2) h).HasEdge x y ↔
      h.HasEdge x y ∨ x = a ∧ ∃ p, (y, p) ∈ bs := by
    induction bs with
    | nil => simp
    | cons b bs ih =>
      intro h
      rw [List.foldl_cons, ih, hasEdge_addEdge]
      obtain ⟨b, q⟩ := b
      simp only [List.mem_cons, Prod.mk.injEq, exists_or]
      grind
  exact hfold (g.addNode a)

/-- The negative edges after the dependencies of one label have been added: those before, and the
negative ones among the dependencies, whether or not the same label is also a positive one. -/
theorem hasNegative_addDependencies {g : LabelGraph} {a x y : Label}
    {bs : List (Label × Polarity)} :
    (g.addDependencies a bs).HasNegative x y ↔
      g.HasNegative x y ∨ x = a ∧ (y, .negative) ∈ bs := by
  have hfold : ∀ h : LabelGraph, (bs.foldl (fun g b => g.addEdge a b.1 b.2) h).HasNegative x y ↔
      h.HasNegative x y ∨ x = a ∧ (y, .negative) ∈ bs := by
    induction bs with
    | nil => simp
    | cons b bs ih =>
      intro h
      rw [List.foldl_cons, ih, hasNegative_addEdge]
      obtain ⟨b, q⟩ := b
      simp only [List.mem_cons, Prod.mk.injEq]
      grind
  exact hfold (g.addNode a)

section
variable {δ : Type} {deps : δ → List (Label × Polarity)} {es : List (Label × δ)} {a b : Label}

/-- The graph of what things with labels depend on. -/
def ofDependencies (deps : δ → List (Label × Polarity)) (es : List (Label × δ)) : LabelGraph :=
  es.foldl (fun g e => g.addDependencies e.1 (deps e.2)) .empty

/-- The edges of a graph of dependencies are the dependencies, by induction on the declarations. -/
theorem hasEdge_ofDependencies :
    (ofDependencies deps es).HasEdge a b ↔ ∃ d, (a, d) ∈ es ∧ ∃ p, (b, p) ∈ deps d := by
  have hfold : ∀ g : LabelGraph,
      (es.foldl (fun g e => g.addDependencies e.1 (deps e.2)) g).HasEdge a b ↔
        g.HasEdge a b ∨ ∃ d, (a, d) ∈ es ∧ ∃ p, (b, p) ∈ deps d := by
    induction es with
    | nil => simp
    | cons e es ih =>
      intro g
      rw [List.foldl_cons, ih, hasEdge_addDependencies]
      obtain ⟨l, d⟩ := e
      simp only [List.mem_cons, Prod.mk.injEq]
      grind
  rw [ofDependencies, hfold]
  exact or_iff_right (by simp [HasEdge, empty, Table.get?, Table.empty, Table.lookupEntry])

/-- The negative edges of a graph of dependencies are the negative dependencies. A label that is
used with both signs has a negative edge. -/
theorem hasNegative_ofDependencies :
    (ofDependencies deps es).HasNegative a b ↔ ∃ d, (a, d) ∈ es ∧ (b, .negative) ∈ deps d := by
  have hfold : ∀ g : LabelGraph,
      (es.foldl (fun g e => g.addDependencies e.1 (deps e.2)) g).HasNegative a b ↔
        g.HasNegative a b ∨ ∃ d, (a, d) ∈ es ∧ (b, .negative) ∈ deps d := by
    induction es with
    | nil => simp
    | cons e es ih =>
      intro g
      rw [List.foldl_cons, ih, hasNegative_addDependencies]
      obtain ⟨l, d⟩ := e
      simp only [List.mem_cons, Prod.mk.injEq]
      grind
  rw [ofDependencies, hfold]
  exact or_iff_right (by simp [HasNegative, empty, Table.get?, Table.empty, Table.lookupEntry])

end

/-- Every label at which an edge begins is a node. -/
def KnowsSources (g : LabelGraph) : Prop := ∀ a b, g.HasEdge a b → a ∈ g.nodes.keys

/-- A further node takes no node away. -/
theorem KnowsSources.addNode {g : LabelGraph} (h : g.KnowsSources) (a : Label) :
    (g.addNode a).KnowsSources := fun x y hxy =>
  (Table.mem_keys_insert _).2 (.inl (h x y hxy))

/-- An edge makes a node of its source before it is added. -/
theorem KnowsSources.addEdge {g : LabelGraph} (h : g.KnowsSources) (a b : Label) (p : Polarity) :
    (g.addEdge a b p).KnowsSources := by
  intro x y hxy
  refine (Table.mem_keys_insert _).2 (.inl ((Table.mem_keys_insert _).2 ?_))
  exact (hasEdge_addEdge.1 hxy).imp (h x y) fun h => h.1

/-- The graphs of a schema know the sources of their edges, which is what the search for cycles
needs: it starts at nodes only. -/
theorem knowsSources_ofDependencies {δ : Type} (deps : δ → List (Label × Polarity))
    (es : List (Label × δ)) : (ofDependencies deps es).KnowsSources := by
  have hbs : ∀ (a : Label) (bs : List (Label × Polarity)) {g : LabelGraph}, g.KnowsSources →
      (bs.foldl (fun g b => g.addEdge a b.1 b.2) g).KnowsSources := by
    intro a bs
    induction bs with
    | nil => exact fun h => h
    | cons b bs ih => exact fun h => ih (h.addEdge a b.1 b.2)
  have hes : ∀ {g : LabelGraph}, g.KnowsSources →
      (es.foldl (fun g e => g.addDependencies e.1 (deps e.2)) g).KnowsSources := by
    induction es with
    | nil => exact fun h => h
    | cons e es ih => exact fun h => ih (hbs e.1 (deps e.2) (h.addNode e.1))
  exact hes fun x y hxy => by
    simp [HasEdge, empty, Table.get?, Table.empty, Table.lookupEntry] at hxy

/-- A graph in which no first cycle is found has no cycle. -/
theorem not_transGen_of_firstCycle?_eq_none {g : LabelGraph} (hg : g.KnowsSources)
    (h : g.firstCycle? = none) (a : Label) : ¬ TransGen g.HasEdge a a := by
  intro hcycle
  obtain ⟨b, hab, _⟩ := TransGen.head'_iff.1 hcycle
  rw [firstCycle?, Option.map_eq_none_iff, List.find?_eq_none] at h
  exact h a (hg a b hab) (reaches_iff.2 hcycle)

end LabelGraph

end Shex
