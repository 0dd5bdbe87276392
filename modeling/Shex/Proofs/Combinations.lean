import Mathlib.Algebra.BigOperators.Group.List.Basic
import Mathlib.Data.Set.Card
import Shex.Proofs.Matching

/-!
# The order of the search

The search goes through a list, `combinations`, of all ways to choose one option for each of several
things (`mem_combinations_iff`): `searchChoices` is `tryEach` on that list (`searchChoices_eq`). If
the options are listed in ascending order of their places, the combinations are listed in ascending
lexicographic order of theirs (`pairwise_combinations`), and there are as many as the product of the
numbers of options (`length_combinations`). A search whose attempts only tick stops at the first
combination that is accepted (`tryEach_of_hit`), or ticks for every one (`tryEach_of_miss`).
-/

namespace Shex

variable {α β γ : Type}

/-- The ways to choose one option for each of several things. The options of the last one change
fastest. -/
def combinations : List (α × List β) → List (List (α × β))
  | [] => [[]]
  | (a, options) :: rest => options.flatMap fun b => (combinations rest).map ((a, b) :: ·)

/-- The listed combinations are those with one alternative for each thing, by induction on the
things: the first alternative is fixed, and the others vary behind it. -/
theorem mem_combinations_iff {things : List (α × List β)} {chosen : List (α × β)} :
    chosen ∈ combinations things ↔ Combination things chosen := by
  induction things generalizing chosen with
  | nil => simp [combinations, Combination]
  | cons t rest ih =>
    obtain ⟨a, options⟩ := t
    simp only [combinations, List.mem_flatMap, List.mem_map]
    constructor
    · rintro ⟨b, hb, cs, hcs, rfl⟩
      exact .cons ⟨rfl, hb⟩ (ih.1 hcs)
    · intro h
      cases h with
      | @cons _ c _ cs hc hcs =>
        obtain ⟨a', b⟩ := c
        obtain rfl : a' = a := hc.1
        exact ⟨b, hc.2, cs, ih.2 hcs, rfl⟩

/-- There are as many combinations as the product of the numbers of alternatives. -/
theorem length_combinations (things : List (α × List β)) :
    (combinations things).length = (things.map fun t => t.2.length).prod := by
  induction things with
  | nil => rfl
  | cons t rest ih =>
    obtain ⟨a, options⟩ := t
    simp [combinations, List.length_flatMap, ih]

/-- Where all options are in ascending order of their places, the combinations are too, place by
place. -/
theorem pairwise_combinations (place : β → Nat) {things : List (α × List β)}
    (h : ∀ t ∈ things, t.2.Pairwise fun b b' => place b < place b') :
    (combinations things).Pairwise fun cs cs' =>
      cs.map (fun c => place c.2) < cs'.map fun c => place c.2 := by
  induction things with
  | nil => exact List.pairwise_singleton _ _
  | cons t rest ih =>
    obtain ⟨a, options⟩ := t
    rw [List.forall_mem_cons] at h
    rw [combinations, List.pairwise_flatMap]
    constructor
    · intro b _
      rw [List.pairwise_map]
      refine (ih h.2).imp fun hlt => ?_
      rw [List.map_cons, List.map_cons, List.cons_lt_cons_iff]
      exact .inr ⟨rfl, hlt⟩
    · refine h.1.imp fun {b b'} hlt cs hcs cs' hcs' => ?_
      obtain ⟨ds, -, rfl⟩ := List.mem_map.1 hcs
      obtain ⟨ds', -, rfl⟩ := List.mem_map.1 hcs'
      rw [List.map_cons, List.map_cons, List.cons_lt_cons_iff]
      exact .inl hlt

/-- Things with one option may be left out. The search does not go through edges that can only be
left out, and with this lemma its choices are those for all edges. -/
theorem map_filter_combinations {keep : α → Bool} {things : List (α × List β)}
    (h : ∀ t ∈ things, keep t.1 = false → ∃ b, t.2 = [b]) :
    (combinations things).map (List.filter fun c => keep c.1) =
      combinations (things.filter fun t => keep t.1) := by
  induction things with
  | nil => rfl
  | cons t rest ih =>
    obtain ⟨a, options⟩ := t
    rw [List.forall_mem_cons] at h
    rw [combinations, List.map_flatMap]
    cases hkeep : keep a with
    | true =>
      rw [List.filter_cons_of_pos (by simpa using hkeep), combinations, ← ih h.2]
      simp [List.map_map, Function.comp_def, hkeep]
    | false =>
      -- the one option is in every combination, and left out of all of them
      obtain ⟨b, hb⟩ := h.1 hkeep
      obtain rfl : options = [b] := hb
      rw [List.filter_cons_of_neg (by simpa using hkeep), ← ih h.2]
      simp [List.map_map, Function.comp_def, hkeep]

/-! ### The search goes through the list -/

section
variable {m : Type → Type} [Monad m] [LawfulMonad m]

/-- Trying two runs of alternatives is trying the second where the first had no success. -/
theorem tryEach_append (attempt : β → Nat → m (Nat × Option γ)) (bs bs' : List β) (tried : Nat) :
    tryEach attempt (bs ++ bs') tried = (do
      match ← tryEach attempt bs tried with
      | (tried, some c) => return (tried, some c)
      | (tried, none) => tryEach attempt bs' tried) := by
  induction bs generalizing tried with
  | nil => simp [tryEach]
  | cons b bs ih =>
    rw [List.cons_append, tryEach, tryEach, bind_assoc]
    refine congrArg _ (funext fun r => ?_)
    obtain ⟨n, _ | c⟩ := r
    · exact ih n
    · simp

/-- Trying one alternative is attempting it. -/
theorem tryEach_singleton (attempt : β → Nat → m (Nat × Option γ)) (b : β) (tried : Nat) :
    tryEach attempt [b] tried = attempt b tried := by
  rw [tryEach]
  conv_rhs => rw [← bind_pure (attempt b tried)]
  refine congrArg _ (funext fun r => ?_)
  obtain ⟨n, _ | c⟩ := r <;> rfl

omit [LawfulMonad m] in
/-- Alternatives may be translated before or on the way. -/
theorem tryEach_map {δ : Type} (attempt : β → Nat → m (Nat × Option γ)) (g : δ → β) (ds : List δ)
    (tried : Nat) :
    tryEach attempt (ds.map g) tried = tryEach (fun d => attempt (g d)) ds tried := by
  induction ds generalizing tried with
  | nil => rfl
  | cons d ds ih => simp only [List.map_cons, tryEach, ih]

/-- Alternatives that come in runs: each run is tried as a whole. With this lemma the nested search
is one search through all combinations. -/
theorem tryEach_flatMap {δ : Type} (attempt : β → Nat → m (Nat × Option γ)) (g : δ → List β)
    (ds : List δ) (tried : Nat) :
    tryEach attempt (ds.flatMap g) tried =
      tryEach (fun d tried => tryEach attempt (g d) tried) ds tried := by
  induction ds generalizing tried with
  | nil => rfl
  | cons d ds ih =>
    rw [List.flatMap_cons, tryEach_append, tryEach]
    refine congrArg _ (funext fun r => ?_)
    obtain ⟨n, _ | c⟩ := r
    · exact ih n
    · rfl

/-- The search tries the combinations one after the other. -/
theorem searchChoices_eq (accept : List (α × β) → m (Option γ)) (things : List (α × List β))
    (before : List (α × β)) (tried : Nat) :
    searchChoices accept things before tried =
      tryEach (fun chosen tried => return (tried + 1, ← accept (before.reverse ++ chosen)))
        (combinations things) tried := by
  induction things generalizing before tried with
  | nil => rw [searchChoices, combinations, tryEach_singleton, List.append_nil]
  | cons t rest ih =>
    obtain ⟨a, options⟩ := t
    simp only [searchChoices, combinations, tryEach_flatMap, tryEach_map, ih, List.reverse_cons,
      List.append_assoc, List.singleton_append]

/-! ### Attempts that only tick -/

/-- Says `n` times that an assignment is tried. -/
def Referee.ticks (r : Referee m) : Nat → m Unit
  | 0 => return
  | n + 1 => do
    r.tick
    r.ticks n

variable {r : Referee m} {attempt : β → m (Option γ)} {answer : β → Option γ}

/-- If no attempt succeeds, all are made, and each has ticked once. -/
theorem tryEach_of_miss {bs : List β}
    (hattempt : ∀ b ∈ bs, attempt b = (do r.tick; return answer b))
    (h : ∀ b ∈ bs, answer b = none) (tried : Nat) :
    tryEach (fun b tried => return (tried + 1, ← attempt b)) bs tried =
      (do r.ticks bs.length; return (tried + bs.length, none)) := by
  induction bs generalizing tried with
  | nil => simp [tryEach, Referee.ticks]
  | cons b bs ih =>
    rw [List.forall_mem_cons] at hattempt h
    rw [tryEach, hattempt.1, h.1]
    simp only [bind_assoc, pure_bind, ih hattempt.2 h.2, List.length_cons, Referee.ticks]
    simp only [Nat.add_assoc, Nat.add_comm 1]

/-- The first attempt that succeeds is the last one: what comes behind it is not attempted, and
ticks no more. -/
theorem tryEach_of_hit {bs bs' : List β} {b : β} {c : γ}
    (hattempt : ∀ b' ∈ bs ++ [b], attempt b' = (do r.tick; return answer b'))
    (h : ∀ b' ∈ bs, answer b' = none) (hb : answer b = some c) (tried : Nat) :
    tryEach (fun b tried => return (tried + 1, ← attempt b)) (bs ++ b :: bs') tried =
      (do r.ticks (bs.length + 1); return (tried + (bs.length + 1), some c)) := by
  induction bs generalizing tried with
  | nil =>
    rw [List.nil_append, tryEach, hattempt b (by simp), hb]
    simp [Referee.ticks]
  | cons b' bs ih =>
    rw [List.cons_append, List.forall_mem_cons] at hattempt
    rw [List.forall_mem_cons] at h
    rw [List.cons_append, tryEach, hattempt.1, h.1]
    simp only [bind_assoc, pure_bind, ih hattempt.2 h.2, List.length_cons, Referee.ticks]
    simp only [Nat.add_assoc, Nat.add_comm 1]

end

/-! ### Before and after the first -/

/-- In a list in ascending order, the elements up to one are those that do not come after it. So the
number of choices that were tried can be read off the order, without the list. -/
theorem ncard_not_after {R : β → β → Prop} (hirrefl : ∀ b, ¬ R b b)
    (htrans : ∀ a b c, R a b → R b c → R a c) {bs bs' : List β} {b : β}
    (h : (bs ++ b :: bs').Pairwise R) :
    {x | x ∈ bs ++ b :: bs' ∧ ¬ R b x}.ncard = bs.length + 1 := by
  classical
  have hpair := List.pairwise_append.1 h
  have hset : {x | x ∈ bs ++ b :: bs' ∧ ¬ R b x} = {x | x ∈ bs ++ [b]} := by
    ext x
    simp only [Set.mem_ofPred_eq, List.mem_append, List.mem_cons, List.not_mem_nil, or_false]
    constructor
    · rintro ⟨hx | rfl | hx, hnot⟩
      · exact .inl hx
      · exact .inr rfl
      · exact absurd (List.rel_of_pairwise_cons hpair.2.1 hx) hnot
    · rintro (hx | rfl)
      · refine ⟨.inl hx, fun hbx => ?_⟩
        exact hirrefl b (htrans _ _ _ hbx (hpair.2.2 x hx b (by simp)))
      · exact ⟨.inr (.inl rfl), hirrefl x⟩
  have hnodup : (bs ++ [b]).Nodup := by
    have hsub : (bs ++ [b]).Sublist (bs ++ b :: bs') := by simp
    refine (h.sublist hsub).imp ?_
    rintro x _ hxy rfl
    exact hirrefl x hxy
  rw [hset, ← List.coe_toFinset, Set.ncard_coe_finset, List.toFinset_card_of_nodup hnodup]
  simp

end Shex
