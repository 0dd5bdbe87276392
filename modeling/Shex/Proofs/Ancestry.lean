import Mathlib.Order.Lattice.Nat
import Shex.Proofs.Extension

/-!
# Ancestors and descendants

A breadth-first search meets every element that can be reached once, the near ones before the far
ones. `Searches` is the search as a loop without fuel, so that a search that is derived is one that
ends; with enough fuel `breadthFirst` is this loop (`searches_breadthFirst`). The order is carried
by `Frontier`: the queue holds what is reached in `k` steps, and then what is reached in one more.

So the ancestors of a label are the labels that it extends, through others perhaps, by the number of
steps, and the descendants of a label are the converse (`Schema.hierarchy_exact`). No schema is
excluded: labels may be undeclared, listed twice, or extend each other in a circle.
-/

namespace Shex

open Relation

/-! ### Numbers of steps -/

section
variable {α : Type} {r : α → α → Prop} {a b : α}

/-- What is reached from `a` in a number of steps. -/
inductive ReachedIn (r : α → α → Prop) (a : α) : Nat → α → Prop
  | refl : ReachedIn r a 0 a
  | tail {n : Nat} {b c : α} (h : ReachedIn r a n b) (hbc : r b c) : ReachedIn r a (n + 1) c

/-- What is reached is reached in some number of steps. -/
theorem reflTransGen_iff_exists_reachedIn : ReflTransGen r a b ↔ ∃ n, ReachedIn r a n b := by
  constructor
  · intro h
    induction h with
    | refl => exact ⟨0, .refl⟩
    | tail _ hbc ih =>
      obtain ⟨n, hn⟩ := ih
      exact ⟨n + 1, hn.tail hbc⟩
  · rintro ⟨n, h⟩
    induction h with
    | refl => exact .refl
    | tail _ hbc ih => exact ih.tail hbc

/-- The least number of steps in which `b` is reached from `a`. -/
noncomputable def distance (r : α → α → Prop) (a b : α) : Nat := sInf {n | ReachedIn r a n b}

/-- The distance is at most the number of steps of any way. -/
theorem ReachedIn.distance_le {n : Nat} (h : ReachedIn r a n b) : distance r a b ≤ n :=
  Nat.sInf_le h

/-- There is a way with as many steps as the distance says, if there is any. -/
theorem ReachedIn.at_distance {n : Nat} (h : ReachedIn r a n b) :
    ReachedIn r a (distance r a b) b := Nat.sInf_mem (s := {n | ReachedIn r a n b}) ⟨n, h⟩

end

/-! ### The search -/

section
variable {α : Type} {next : α → List α} {a : α} {queue seen result : List α}

/-- From a queue and what was visited, the latest first, the search ends with a result. -/
inductive Searches (next : α → List α) : List α → List α → List α → Prop
  | done {seen : List α} : Searches next [] seen seen.reverse
  | skip {a : α} {queue seen result : List α} (ha : a ∈ seen)
      (h : Searches next queue seen result) : Searches next (a :: queue) seen result
  | visit {a : α} {queue seen result : List α} (ha : a ∉ seen)
      (h : Searches next (queue ++ next a) (a :: seen) result) :
      Searches next (a :: queue) seen result

/-- The search ends, and with enough fuel its result is that of `breadthFirst`. Every step out of a
label is made once, when the label is visited, so the steps that are still to be made bound the
rounds of the loop. -/
theorem searches_breadthFirst [DecidableEq α] {U : List α} (hU : U.Nodup)
    (hnext : ∀ a, next a ≠ [] → a ∈ U) {fuel : Nat}
    (hfuel : queue.length + pendingSteps next U seen ≤ fuel) :
    Searches next queue seen (breadthFirst next fuel queue seen) := by
  induction fuel generalizing queue seen with
  | zero =>
    obtain rfl : queue = [] := List.length_eq_zero_iff.1 (by omega)
    rw [breadthFirst]
    exact .done
  | succ fuel ih =>
    cases queue with
    | nil =>
      rw [breadthFirst]
      exact .done
    | cons a queue =>
      rw [List.length_cons] at hfuel
      rw [breadthFirst]
      split
      · rename_i ha
        exact .skip ha (ih (by omega))
      · rename_i ha
        have hsteps := pendingSteps_cons hU
          ((Classical.em (next a = [])).symm.imp_left (hnext a)) ha
        exact .visit ha (ih (by rw [List.length_append]; omega))

namespace Searches

/-- What was visited before comes first. -/
theorem reverse_prefix (h : Searches next queue seen result) : seen.reverse <+: result := by
  induction h with
  | done => exact List.prefix_rfl
  | skip _ _ ih => exact ih
  | visit _ _ ih =>
    rw [List.reverse_cons] at ih
    exact (List.prefix_append _ _).trans ih

/-- Nothing is visited twice. -/
theorem nodup (h : Searches next queue seen result) (hseen : seen.Nodup) : result.Nodup := by
  induction h with
  | done => exact List.nodup_reverse.2 hseen
  | skip _ _ ih => exact ih hseen
  | visit ha _ ih => exact ih (List.nodup_cons.2 ⟨ha, hseen⟩)

end Searches

/-- The queue of a search from `start` holds `near`, what is reached in `k` steps and may not have
been visited yet, and behind it `far`, what is reached in one step more. -/
structure Frontier (r : α → α → Prop) (start : α) (k : Nat) (near far seen : List α) : Prop where
  reached_near : ∀ a ∈ near, ReachedIn r start k a
  reached_far : ∀ a ∈ far, ReachedIn r start (k + 1) a
  distance_le : ∀ a ∈ seen, distance r start a ≤ k
  closer : ∀ n a, n < k → ReachedIn r start n a → a ∈ seen
  level : ∀ a, ReachedIn r start k a → a ∈ seen ∨ a ∈ near
  closed : ∀ a ∈ seen, ∀ b, r a b → b ∈ seen ∨ b ∈ near ∨ b ∈ far

namespace Frontier

variable {r : α → α → Prop} {start : α} {k : Nat} {near far : List α}

/-- A search begins with its start at distance 0. -/
theorem initial (r : α → α → Prop) (start : α) : Frontier r start 0 [start] [] [] where
  reached_near a ha := by
    obtain rfl := List.mem_singleton.1 ha
    exact .refl
  reached_far := by simp
  distance_le := by simp
  closer := by simp
  level a ha := by
    cases ha
    exact .inr List.mem_cons_self
  closed := by simp

/-- When nothing near is left, what was far is near. What is reached in one more step is then all
visited or in the queue, since everything visited has been left in all directions. -/
theorem advance (h : Frontier r start k [] far seen) : Frontier r start (k + 1) far [] seen := by
  have hlevel : ∀ a, ReachedIn r start k a → a ∈ seen := fun a ha =>
    (h.level a ha).resolve_right (List.not_mem_nil)
  refine ⟨h.reached_far, by simp, fun a ha => Nat.le_succ_of_le (h.distance_le a ha),
    fun n a hn ha => ?_, fun c hc => ?_, fun a ha b hab => ?_⟩
  · rcases Nat.lt_succ_iff_lt_or_eq.1 hn with hn | rfl
    · exact h.closer n a hn ha
    · exact hlevel a ha
  · cases hc with
    | tail hb hbc =>
      exact (h.closed _ (hlevel _ hb) c hbc).imp_right fun hc => hc.resolve_left List.not_mem_nil
  · exact (h.closed a ha b hab).imp_right fun hb => .inl (hb.resolve_left List.not_mem_nil)

/-- The first in the queue is near, if need be after an advance. -/
theorem exists_near (h : Frontier r start k near far seen) (hqueue : near ++ far = a :: queue) :
    ∃ k near far, Frontier r start k (a :: near) far seen ∧ near ++ far = queue := by
  match near with
  | [] =>
    obtain rfl : far = a :: queue := hqueue
    exact ⟨k + 1, queue, [], h.advance, List.append_nil queue⟩
  | b :: near =>
    obtain ⟨rfl, rfl⟩ := List.cons.inj hqueue
    exact ⟨k, near, far, h, rfl⟩

/-- What is near and was not visited has distance `k`. -/
theorem le_distance (h : Frontier r start k (a :: near) far seen) (ha : a ∉ seen) :
    k ≤ distance r start a := by
  by_contra hlt
  exact ha (h.closer _ a (Nat.lt_of_not_le hlt) (h.reached_near a List.mem_cons_self).at_distance)

/-- An element that was visited already is dropped from the queue, and nothing is lost: it was level
or nearer before. -/
theorem skip (h : Frontier r start k (a :: near) far seen) (ha : a ∈ seen) :
    Frontier r start k near far seen := by
  have hmem : ∀ b, b ∈ seen ∨ b ∈ a :: near → b ∈ seen ∨ b ∈ near := by
    rintro b (hb | hb)
    · exact .inl hb
    · rcases List.mem_cons.1 hb with rfl | hb
      · exact .inl ha
      · exact .inr hb
  refine ⟨fun b hb => h.reached_near b (List.mem_cons_of_mem _ hb), h.reached_far, h.distance_le,
    h.closer, fun b hb => hmem b (h.level b hb), fun b hb c hbc => ?_⟩
  rcases h.closed b hb c hbc with hc | hc | hc
  · exact .inl hc
  · exact (hmem c (.inr hc)).imp_right .inl
  · exact .inr (.inr hc)

/-- An element is visited, and where it leads is put at the end of the queue, where it belongs: one
step further. -/
theorem visit (h : Frontier (fun a b => b ∈ next a) start k (a :: near) far seen) :
    Frontier (fun a b => b ∈ next a) start k near (far ++ next a) (a :: seen) := by
  have hreached := h.reached_near a List.mem_cons_self
  refine ⟨fun b hb => h.reached_near b (List.mem_cons_of_mem _ hb), fun b hb => ?_, fun b hb => ?_,
    fun n b hn hb => List.mem_cons_of_mem _ (h.closer n b hn hb), fun b hb => ?_,
    fun b hb c hbc => ?_⟩
  · exact (List.mem_append.1 hb).elim (h.reached_far b) hreached.tail
  · rcases List.mem_cons.1 hb with rfl | hb
    · exact hreached.distance_le
    · exact h.distance_le b hb
  · have := h.level b hb
    grind
  · rcases List.mem_cons.1 hb with rfl | hb
    · exact .inr (.inr (List.mem_append_right _ hbc))
    · have := h.closed b hb c hbc
      grind

end Frontier

/-- The near elements are visited before the far ones. The invariant is `Frontier`: an element is
taken from the near part of the queue, if need be after an advance, so its distance is the least
that is left. -/
theorem Searches.pairwise_distance {start : α} {k : Nat} {near far : List α}
    (h : Searches next queue seen result)
    (hf : Frontier (fun a b => b ∈ next a) start k near far seen) (hqueue : near ++ far = queue)
    (hseen : seen.Pairwise fun a b =>
      distance (fun a b => b ∈ next a) start b ≤ distance (fun a b => b ∈ next a) start a) :
    result.Pairwise fun a b =>
      distance (fun a b => b ∈ next a) start a ≤ distance (fun a b => b ∈ next a) start b := by
  induction h generalizing k near far with
  | done => exact List.pairwise_reverse.2 hseen
  | skip ha _ ih =>
    obtain ⟨k, near, far, hf, rfl⟩ := hf.exists_near hqueue
    exact ih (hf.skip ha) rfl hseen
  | visit ha _ ih =>
    obtain ⟨k, near, far, hf, rfl⟩ := hf.exists_near hqueue
    refine ih hf.visit (List.append_assoc _ _ _).symm (List.pairwise_cons.2 ⟨fun b hb => ?_, hseen⟩)
    exact (hf.distance_le b hb).trans (hf.le_distance ha)

end

/-! ### Hierarchies -/

namespace Hierarchy

variable {h : Hierarchy} {l a : Label}

/-- The labels that extend something are told apart. -/
def IsFunctional (h : Hierarchy) : Prop := (h.parents.map Prod.fst).Nodup

/-- The descendants of all labels, collected in one pass: every label that extends something is
added to the list of each of its ancestors. -/
def collectDescendants (h : Hierarchy) : Table Label (List Label) :=
  (h.parents.map Prod.fst).foldl (fun found child =>
    (h.ancestors child).tail.foldl (fun found a =>
      found.insert a ((found.get? a).getD [] ++ [child])) found) .empty

/-- A label with parents has an entry, so the steps of a search start at finitely many labels. -/
theorem mem_keys_of_parentsOf_ne_nil (hl : h.parentsOf l ≠ []) : l ∈ h.parents.map Prod.fst := by
  rw [parentsOf] at hl
  cases hps : h.parents.lookup l with
  | none =>
    rw [hps] at hl
    exact absurd rfl hl
  | some ps =>
    obtain ⟨before, after, heq, -⟩ := List.lookup_eq_some_iff.1 hps
    rw [heq]
    simp

/-- An entry is found if keys are told apart. -/
theorem lookup_eq_some_of_mem {ps : List (Label × List Label)} (hps : (ps.map Prod.fst).Nodup)
    {p : Label × List Label} (hp : p ∈ ps) : ps.lookup p.1 = some p.2 := by
  induction ps with
  | nil => cases hp
  | cons q ps ih =>
    rw [List.map_cons, List.nodup_cons] at hps
    rcases List.mem_cons.1 hp with rfl | hp
    · exact List.lookup_cons_self
    · have hne : p.1 ≠ q.1 := fun heq => hps.1 (heq ▸ List.mem_map_of_mem hp)
      rw [List.lookup_cons, beq_false_of_ne hne]
      exact ih hps.2 hp

/-- A label is added to the lists of the given labels, which are told apart, and to no others. So
one pass over the ancestors of a label adds it to each of their lists once. -/
theorem get?_foldl_insert {child : Label} {as : List Label} (has : as.Nodup)
    (found : Table Label (List Label)) :
    ((as.foldl (fun found a => found.insert a ((found.get? a).getD [] ++ [child])) found).get?
      a).getD [] = (found.get? a).getD [] ++ if a ∈ as then [child] else [] := by
  induction as generalizing found with
  | nil => simp
  | cons b as ih =>
    rw [List.nodup_cons] at has
    rw [List.foldl_cons, ih has.2]
    by_cases hab : b = a
    · subst hab
      simp [has.1]
    · rw [Table.get?_insert_of_ne _ hab]
      simp [Ne.symm hab]

section
variable (hfun : h.IsFunctional)
include hfun

/-- There is an edge for every step. -/
theorem sum_length_parentsOf :
    ((h.parents.map Prod.fst).map fun a => (h.parentsOf a).length).sum = h.edges.length := by
  rw [edges, List.length_flatMap, List.map_map]
  refine congrArg List.sum (List.map_congr_left fun p hp => ?_)
  rw [Function.comp_apply, parentsOf, lookup_eq_some_of_mem hfun hp, Option.getD_some,
    List.length_map]

/-- The search for ancestors ends, and its fuel is enough for it. -/
theorem searches_ancestors (l : Label) : Searches h.parentsOf [l] [] (h.ancestors l) := by
  refine searches_breadthFirst hfun (fun _ => mem_keys_of_parentsOf_ne_nil) ?_
  rw [pendingSteps, List.filter_eq_self.2 (by simp), sum_length_parentsOf hfun]

/-- The ancestors are what is reached by extending, the label itself included. -/
theorem mem_ancestors_iff :
    a ∈ h.ancestors l ↔ ReflTransGen (fun a b => b ∈ h.parentsOf a) l a := by
  rw [ancestors, mem_closure_iff hfun (fun _ => mem_keys_of_parentsOf_ne_nil)
    (sum_length_parentsOf hfun).le]
  simp

/-- No ancestor is listed twice. -/
theorem nodup_ancestors (l : Label) : (h.ancestors l).Nodup :=
  (searches_ancestors hfun l).nodup List.nodup_nil

/-- The ancestors begin with the label itself. -/
theorem ancestors_eq_cons (l : Label) : ∃ rest, h.ancestors l = l :: rest := by
  cases searches_ancestors hfun l with
  | skip hl => cases hl
  | visit _ hsearch =>
    obtain ⟨rest, heq⟩ := hsearch.reverse_prefix
    exact ⟨rest, heq.symm⟩

/-- The label itself is no ancestor beside itself. -/
theorem mem_tail_ancestors_iff : a ∈ (h.ancestors l).tail ↔ l ≠ a ∧ a ∈ h.ancestors l := by
  have hnodup := nodup_ancestors hfun l
  obtain ⟨rest, heq⟩ := ancestors_eq_cons hfun l
  rw [heq, List.nodup_cons] at hnodup
  rw [heq, List.tail_cons, List.mem_cons]
  constructor
  · intro ha
    exact ⟨fun hla => hnodup.1 (hla ▸ ha), .inr ha⟩
  · rintro ⟨hne, rfl | ha⟩
    · exact absurd rfl hne
    · exact ha

/-- The ancestors that are reached in fewer steps come first. -/
theorem pairwise_distance_ancestors (l : Label) :
    (h.ancestors l).Pairwise fun a b =>
      distance (fun a b => b ∈ h.parentsOf a) l a ≤ distance (fun a b => b ∈ h.parentsOf a) l b :=
  (searches_ancestors hfun l).pairwise_distance (.initial _ l) rfl List.Pairwise.nil

/-- The lists that are collected are those of the descendants: going through the children and adding
each to its ancestors is the same as asking for each label whose ancestor it is. -/
theorem get?_collectDescendants : (h.collectDescendants.get? a).getD [] = h.descendants a := by
  have hfold : ∀ (children : List Label) (found : Table Label (List Label)),
      ((children.foldl (fun found child => (h.ancestors child).tail.foldl (fun found a =>
        found.insert a ((found.get? a).getD [] ++ [child])) found) found).get? a).getD [] =
      (found.get? a).getD [] ++
        children.filter fun child => (h.ancestors child).tail.contains a := by
    intro children
    induction children with
    | nil => simp
    | cons child children ih =>
      intro found
      rw [List.foldl_cons, ih, get?_foldl_insert (nodup_ancestors hfun child).tail,
        List.append_assoc, List.filter_cons]
      congr 1
      by_cases ha : a ∈ (h.ancestors child).tail <;> simp [ha]
  rw [collectDescendants, hfold, descendants]
  rfl

end

end Hierarchy

namespace Schema

variable {s : Schema}

/-- The labels that extend something are declared, and in the order of the schema. The hierarchy is
made by filtering the declarations, so neither order nor distinctness is lost. -/
theorem sublist_labels (s : Schema) :
    ((Hierarchy.ofSchema s).parents.map Prod.fst).Sublist s.labels := by
  rw [Hierarchy.ofSchema, labels, Table.keys]
  induction s.shapes.entries with
  | nil => exact List.Sublist.slnil
  | cons e es ih =>
    rw [List.filterMap_cons]
    split
    · exact ih.cons _
    · rename_i p hp
      dsimp only at hp
      split at hp
      · cases hp
      · cases hp
        exact ih.cons_cons _

/-- The hierarchy of a schema has one entry for a label, since declarations are told apart by their
labels. -/
theorem isFunctional_ofSchema (s : Schema) : (Hierarchy.ofSchema s).IsFunctional :=
  (sublist_labels s).nodup s.shapes.keys_nodup

/-- Extension is the relation in which the hierarchy takes its steps. -/
theorem mem_parentsOf_eq_extends :
    (fun a b => b ∈ (Hierarchy.ofSchema s).parentsOf a) = s.Extends :=
  funext₂ fun _ _ => propext mem_parentsOf_iff

/-- A label whose ancestors have another one extends something. -/
theorem mem_keys_of_mem_ancestors {a d : Label} (hne : d ≠ a)
    (ha : a ∈ (Hierarchy.ofSchema s).ancestors d) :
    d ∈ (Hierarchy.ofSchema s).parents.map Prod.fst := by
  have hreach := (Hierarchy.mem_ancestors_iff (isFunctional_ofSchema s)).1 ha
  rcases ReflTransGen.cases_head hreach with rfl | ⟨b, hb, -⟩
  · exact absurd rfl hne
  · exact Hierarchy.mem_keys_of_parentsOf_ne_nil (List.ne_nil_of_mem hb)

/-- The descendants of a label are the other declared labels that have it among their ancestors. -/
theorem mem_descendants_iff {a d : Label} :
    d ∈ (Hierarchy.ofSchema s).descendants a ↔
      d ∈ s.labels ∧ d ≠ a ∧ a ∈ (Hierarchy.ofSchema s).ancestors d := by
  rw [Hierarchy.descendants, List.mem_filter, List.contains_iff_mem,
    Hierarchy.mem_tail_ancestors_iff (isFunctional_ofSchema s)]
  constructor
  · rintro ⟨hd, hne, ha⟩
    exact ⟨(sublist_labels s).subset hd, hne, ha⟩
  · rintro ⟨-, hne, ha⟩
    exact ⟨mem_keys_of_mem_ancestors hne ha, hne, ha⟩

/-- The ancestors of a label are found by a search that ends. They begin with the label, and are it
and every label that it extends, through others perhaps, each once and by the number of steps. The
descendants of a label are the other declared labels with the label among their ancestors, each once
and in the order of the schema, also when they are collected while going through the ancestors of
all labels. -/
theorem hierarchy_exact (s : Schema) :
    (∀ l, Searches (Hierarchy.ofSchema s).parentsOf [l] [] ((Hierarchy.ofSchema s).ancestors l) ∧
      (∃ rest, (Hierarchy.ofSchema s).ancestors l = l :: rest) ∧
      ((Hierarchy.ofSchema s).ancestors l).Nodup ∧
      (∀ a, a ∈ (Hierarchy.ofSchema s).ancestors l ↔ ∃ n, ReachedIn s.Extends l n a) ∧
      ((Hierarchy.ofSchema s).ancestors l).Pairwise fun a b =>
        distance s.Extends l a ≤ distance s.Extends l b) ∧
    ∀ a, ((Hierarchy.ofSchema s).descendants a).Sublist s.labels ∧
      ((Hierarchy.ofSchema s).descendants a).Nodup ∧
      (∀ d, d ∈ (Hierarchy.ofSchema s).descendants a ↔
        d ∈ s.labels ∧ d ≠ a ∧ a ∈ (Hierarchy.ofSchema s).ancestors d) ∧
      ((Hierarchy.ofSchema s).collectDescendants.get? a).getD [] =
        (Hierarchy.ofSchema s).descendants a := by
  have hfun := isFunctional_ofSchema s
  refine ⟨fun l => ⟨Hierarchy.searches_ancestors hfun l, Hierarchy.ancestors_eq_cons hfun l,
    Hierarchy.nodup_ancestors hfun l, fun a => ?_, ?_⟩, fun a => ?_⟩
  · rw [Hierarchy.mem_ancestors_iff hfun, mem_parentsOf_eq_extends,
      reflTransGen_iff_exists_reachedIn]
  · rw [← mem_parentsOf_eq_extends]
    exact Hierarchy.pairwise_distance_ancestors hfun l
  · have hsublist : ((Hierarchy.ofSchema s).descendants a).Sublist s.labels :=
      List.filter_sublist.trans (sublist_labels s)
    exact ⟨hsublist, hsublist.nodup s.shapes.keys_nodup, fun d => mem_descendants_iff,
      Hierarchy.get?_collectDescendants hfun⟩

end Schema

/-! ### Example -/

/-- A shape that extends others. -/
def extending (parents : List String) : ShapeDecl :=
  ⟨false, .shape ⟨⟨0⟩, []⟩ ⟨false, [], parents.map fun p => .iri ⟨p⟩⟩ none⟩

/-- `<A>` extends `<B>` twice and `<C>`, which both extend `<A>`, and `<C>` something undeclared. -/
def circularSchema : Schema :=
  ((Schema.empty.addShape (.iri ⟨"A"⟩) (extending ["B", "C", "B"])).addShape (.iri ⟨"B"⟩)
    (extending ["A"])).addShape (.iri ⟨"C"⟩) (extending ["A", "X"])

example : (Hierarchy.ofSchema circularSchema).ancestors (.iri ⟨"B"⟩) =
    [.iri ⟨"B"⟩, .iri ⟨"A"⟩, .iri ⟨"C"⟩, .iri ⟨"X"⟩] := by decide

example : (Hierarchy.ofSchema circularSchema).descendants (.iri ⟨"X"⟩) =
    [.iri ⟨"A"⟩, .iri ⟨"B"⟩, .iri ⟨"C"⟩] := by decide

end Shex
