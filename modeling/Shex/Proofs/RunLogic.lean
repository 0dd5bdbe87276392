import Mathlib.Data.List.Forall2
import Shex.Validation.Run

/-!
# A program logic for runs

`Run.Meets I x Q F`: whatever state with the invariant `I` the computation `x` starts in, it ends in
a state with `I`, and either with a result that meets `Q` or with a fault that meets `F`. There is
one rule for each way in which computations of a run are put together, so that no later proof looks
into the monad. Two computations are compared by `Run.Same` and, where the second may give a result
for more states, by `Run.Approximates`. `Run.Simulates R Q F x y` compares computations that begin
in different states, related by `R`, and give different results, related by `Q`.
-/

namespace Shex.Run

variable {σ α β : Type} {I : RunState σ → Prop} {F G : ValidationFault → Prop}

/-- How a computation that is followed by another one runs. -/
theorem run_bind (x : Run σ α) (f : α → Run σ β) (s : RunState σ) :
    (x >>= f).run.run s =
      match x.run.run s with
      | (.ok a, t) => (f a).run.run t
      | (.error e, t) => (.error e, t) := by
  simp only [bind, ExceptT.bind, ExceptT.mk, ExceptT.run, StateT.run, StateT.bind]
  rcases x s with ⟨r, t⟩
  cases r <;> rfl

/-- How a computation that looks at the state first runs. -/
theorem run_get_bind (f : RunState σ → Run σ α) (s : RunState σ) :
    (get >>= f).run.run s = (f s).run.run s := rfl

/-- From a state with `I`, the computation ends in a state with `I`, with a result that meets `Q` or
a fault that meets `F`. -/
def Meets (I : RunState σ → Prop) (x : Run σ α) (Q : α → Prop) (F : ValidationFault → Prop) :
    Prop :=
  ∀ s, I s → I (x.run.run s).2 ∧
    match (x.run.run s).1 with
    | .ok a => Q a
    | .error f => F f

namespace Meets

variable {x : Run σ α} {f : α → Run σ β} {P Q : α → Prop} {R : β → Prop}

/-- What a triple says about a run that gives a result. -/
theorem ok {s t : RunState σ} {a : α} (h : Meets I x Q F) (hs : I s)
    (hx : x.run.run s = (.ok a, t)) : I t ∧ Q a := by
  have := h s hs
  rw [hx] at this
  exact this

/-- A result on the spot. -/
protected theorem pure {a : α} (h : Q a) : Meets I (pure a) Q F := fun _ hs => ⟨hs, h⟩

/-- A fault on the spot. -/
protected theorem throw {e : ValidationFault} (h : F e) : Meets I (throw e : Run σ α) Q F :=
  fun _ hs => ⟨hs, h⟩

/-- A computation and then another that starts from its result. -/
protected theorem bind (hx : Meets I x P F) (hf : ∀ a, P a → Meets I (f a) R F) :
    Meets I (x >>= f) R F := by
  intro s hs
  have h := hx s hs
  rw [run_bind]
  rcases hr : x.run.run s with ⟨r, t⟩
  rw [hr] at h
  cases r with
  | ok a => exact hf a h.2 t h.1
  | error e => exact h

/-- What follows a computation that gives no result does not matter. -/
theorem bind_of_fails (hx : Meets I x (fun _ => False) F) : Meets I (x >>= f) R F :=
  hx.bind fun _ h => h.elim

/-- A weaker conclusion. -/
protected theorem mono (h : Meets I x P F) (hP : ∀ a, P a → Q a) (hF : ∀ e, F e → G e) :
    Meets I x Q G := by
  intro s hs
  have := h s hs
  refine ⟨this.1, ?_⟩
  cases hr : (x.run.run s).1 with
  | ok a => rw [hr] at this; exact hP a this.2
  | error e => rw [hr] at this; exact hF e this.2

/-- Two conclusions about results. Both triples are about the same computation, so one of them may
carry the invariant alone. -/
protected theorem and (h : Meets I x P F) (h' : Meets I x Q G) :
    Meets I x (fun a => P a ∧ Q a) F := by
  intro s hs
  refine ⟨(h s hs).1, ?_⟩
  have hP := (h s hs).2
  have hQ := (h' s hs).2
  cases hr : (x.run.run s).1 with
  | ok a =>
    rw [hr] at hP hQ
    exact ⟨hP, hQ⟩
  | error e =>
    rw [hr] at hP
    exact hP

/-- A weaker conclusion about results. -/
theorem imp (h : Meets I x P F) (hP : ∀ a, P a → Q a) : Meets I x Q F := h.mono hP fun _ => id

/-- The state that is looked at has the invariant. -/
protected theorem get : Meets I (get : Run σ (RunState σ)) I F := fun _ hs => ⟨hs, hs⟩

/-- A state that is put in place has to have the invariant. -/
protected theorem set {s : RunState σ} (h : I s) :
    Meets I (set s : Run σ PUnit) (fun _ => True) F :=
  fun _ _ => ⟨h, trivial⟩

/-- A change of the state has to keep the invariant. -/
protected theorem modify {g : RunState σ → RunState σ} (h : ∀ s, I s → I (g s)) :
    Meets I (modify g : Run σ PUnit) (fun _ => True) F :=
  fun s hs => ⟨h s hs, trivial⟩

/-- A loop over a list. `J` speaks of the elements that the loop has dealt with. -/
protected theorem foldlM {step : β → α → Run σ β} (J : List α → β → Prop) :
    ∀ {as d : List α} {b : β},
      (∀ a ∈ as, ∀ d b, J d b → Meets I (step b a) (J (d ++ [a])) F) →
      J d b → Meets I (as.foldlM step b) (J (d ++ as)) F
  | [], d, b, _, hb => by simpa using Meets.pure hb
  | a :: as, d, b, hstep, hb => by
    rw [List.foldlM_cons]
    refine (hstep a (by simp) d b hb).bind fun b' hb' => ?_
    have := Meets.foldlM J (fun a ha => hstep a (List.mem_cons_of_mem _ ha)) hb'
    simpa using this

end Meets

/-! ### Two computations that do the same -/

/-- From a state with `I`, two computations do the same, and end in a state with `I`. -/
def Same (I : RunState σ → Prop) (x y : Run σ α) : Prop :=
  ∀ s, I s → I (x.run.run s).2 ∧ y.run.run s = x.run.run s

namespace Same

variable {x y : Run σ α} {f g : α → Run σ β} {P : α → Prop}

/-- A computation that keeps the invariant does the same as itself. -/
theorem of_meets (h : Meets I x P F) : Same I x x := fun s hs => ⟨(h s hs).1, rfl⟩

/-- A result on the spot is the same result. -/
protected theorem pure {a : α} : Same I (pure a) (pure a) := fun _ hs => ⟨hs, rfl⟩

/-- A fault on the spot is the same fault. -/
protected theorem throw {e : ValidationFault} : Same I (throw e : Run σ α) (throw e) :=
  fun _ hs => ⟨hs, rfl⟩

/-- Two computations in a row that do the same, each from the state the common beginning has
left. -/
protected theorem bind (hx : Same I x y) (hf : ∀ a, Same I (f a) (g a)) :
    Same I (x >>= f) (y >>= g) := by
  intro s hs
  obtain ⟨ht, hxy⟩ := hx s hs
  rw [run_bind, run_bind, hxy]
  rcases hr : x.run.run s with ⟨r, t⟩
  rw [hr] at ht
  cases r with
  | ok a => exact hf a t ht
  | error e => exact ⟨ht, rfl⟩

/-- A common beginning, with what is known about its result. -/
theorem bind_meets (hx : Meets I x P F) (hf : ∀ a, P a → Same I (f a) (g a)) :
    Same I (x >>= f) (x >>= g) := by
  intro s hs
  obtain ⟨ht, hP⟩ := hx s hs
  rw [run_bind, run_bind]
  rcases hr : x.run.run s with ⟨r, t⟩
  rw [hr] at ht hP
  cases r with
  | ok a => exact hf a hP t ht
  | error e => exact ⟨ht, rfl⟩

/-- Two loops over a list. -/
protected theorem foldlM {step step' : β → α → Run σ β} :
    ∀ {as : List α} {b : β}, (∀ a ∈ as, ∀ b, Same I (step b a) (step' b a)) →
      Same I (as.foldlM step b) (as.foldlM step' b)
  | [], _, _ => by simpa using Same.pure
  | a :: as, b, h => by
    rw [List.foldlM_cons, List.foldlM_cons]
    exact (h a (by simp) b).bind fun b' =>
      Same.foldlM fun a ha => h a (List.mem_cons_of_mem _ ha)

end Same

/-! ### Computations with the same results -/

/-- Where the first computation gives a result, the second gives the same result and state. -/
def Approximates (x y : Run σ α) : Prop :=
  ∀ s a t, x.run.run s = (.ok a, t) → y.run.run s = (.ok a, t)

namespace Approximates

variable {x y : Run σ α} {f g : α → Run σ β}

/-- A computation approximates itself. -/
protected theorem refl (x : Run σ α) : Approximates x x := fun _ _ _ => id

/-- A fault is no result. -/
protected theorem throw {e : ValidationFault} : Approximates (throw e) y := fun _ _ _ h => nomatch h

/-- If the first computation has given a result, the second gives the same, and the rest starts from
the same state. -/
protected theorem bind (hx : Approximates x y) (hf : ∀ a, Approximates (f a) (g a)) :
    Approximates (x >>= f) (y >>= g) := by
  intro s b u h
  rw [run_bind] at h ⊢
  rcases hr : x.run.run s with ⟨r, t⟩
  rw [hr] at h
  cases r with
  | error e => cases h
  | ok a =>
    rw [hx s a t hr]
    exact hf a t b u h

/-- A common beginning. -/
theorem bind_right (hf : ∀ a, Approximates (f a) (g a)) : Approximates (x >>= f) (x >>= g) :=
  (Approximates.refl x).bind hf

end Approximates

/-! ### Computations that follow others -/

/-- From related states, the second computation gives a related result if the first gives one, and
ends in the same fault if the first ends in one, unless that fault meets `F`. Where the computations
agree they end in related states. -/
def Simulates {γ : Type} (R : RunState σ → RunState σ → Prop) (Q : α → γ → Prop)
    (F : ValidationFault → Prop) (x : Run σ α) (y : Run σ γ) : Prop :=
  ∀ s t, R s t →
    match x.run.run s with
    | (.ok a, s') => ∃ b t', y.run.run t = (.ok b, t') ∧ Q a b ∧ R s' t'
    | (.error e, s') => F e ∨ ∃ t', y.run.run t = (.error e, t') ∧ R s' t'

namespace Simulates

variable {R : RunState σ → RunState σ → Prop} {α' β' : Type} {P : α → α' → Prop} {Q : β → β' → Prop}
  {x : Run σ α} {y : Run σ α'}

/-- Related results on the spot. -/
protected theorem pure {a : α} {b : α'} (h : P a b) : Simulates R P F (pure a) (pure b) :=
  fun _ t hst => ⟨b, t, rfl, h, hst⟩

/-- The same fault on both sides. -/
protected theorem throw {e : ValidationFault} :
    Simulates R P F (throw e : Run σ α) (throw e : Run σ α') :=
  fun _ t hst => .inr ⟨t, rfl, hst⟩

/-- After an excused fault nothing is demanded. -/
theorem throw_left {e : ValidationFault} (h : F e) : Simulates R P F (throw e : Run σ α) y :=
  fun _ _ _ => .inl h

/-- What follows has to be compared for related results only, since it starts where both
computations agree. Where the first one ends in an excused fault, nothing follows. -/
protected theorem bind {f : α → Run σ β} {g : α' → Run σ β'} (hxy : Simulates R P F x y)
    (hfg : ∀ a b, P a b → Simulates R Q F (f a) (g b)) :
    Simulates R Q F (x >>= f) (y >>= g) := by
  intro s t hst
  have h := hxy s t hst
  rw [run_bind, run_bind]
  rcases hr : x.run.run s with ⟨a | a, s'⟩
  · rw [hr] at h
    rcases h with h | ⟨t', hy, hst'⟩
    · exact .inl h
    · rw [hy]
      exact .inr ⟨t', rfl, hst'⟩
  · rw [hr] at h
    obtain ⟨b, t', hy, hab, hst'⟩ := h
    rw [hy]
    exact hfg a b hab s' t' hst'

/-- A weaker relation between the results. -/
theorem imp {P' : α → α' → Prop} (h : Simulates R P F x y) (hP : ∀ a b, P a b → P' a b) :
    Simulates R P' F x y := by
  intro s t hst
  have := h s t hst
  rcases hr : x.run.run s with ⟨a | a, s'⟩
  · rwa [hr] at this
  · rw [hr] at this
    obtain ⟨b, t', hy, hab, hst'⟩ := this
    exact ⟨b, t', hy, hP a b hab, hst'⟩

/-- Unless the first ends in an excused fault, both end alike, in a result or in the same fault. -/
theorem ends_alike {z : Run σ α} (h : Simulates R Eq F x z) {s t : RunState σ} (hst : R s t)
    (hx : ∀ e, F e → (x.run.run s).1 ≠ .error e) :
    ∃ r s' t', x.run.run s = (r, s') ∧ z.run.run t = (r, t') ∧ R s' t' := by
  have hrun := h s t hst
  rcases hr : x.run.run s with ⟨e | a, s'⟩
  · rw [hr] at hrun hx
    rcases hrun with he | ⟨t', hz, hst'⟩
    · exact absurd rfl (hx e he)
    · exact ⟨_, s', t', rfl, hz, hst'⟩
  · rw [hr] at hrun
    obtain ⟨_, t', hz, rfl, hst'⟩ := hrun
    exact ⟨_, s', t', rfl, hz, hst'⟩

/-- A computation that keeps an invariant follows itself from equal states. -/
theorem of_meets {K : RunState σ → Prop} {T : α → Prop} (h : Meets K x T G) :
    Simulates (fun s t => s = t ∧ K s) (fun a b => a = b ∧ T a) F x x := by
  rintro s _ ⟨rfl, hs⟩
  have := h s hs
  rcases hr : x.run.run s with ⟨a | a, s'⟩
  · rw [hr] at this
    exact .inr ⟨s', rfl, rfl, this.1⟩
  · rw [hr] at this
    exact ⟨a, s', rfl, ⟨rfl, this.2⟩, rfl, this.1⟩

/-- Two loops over related lists. -/
protected theorem foldlM {γ γ' : Type} {A : γ → γ' → Prop} {step : α → γ → Run σ α}
    {step' : α' → γ' → Run σ α'} {as : List γ} {as' : List γ'} (has : List.Forall₂ A as as')
    (hstep : ∀ b b' a a', P b b' → A a a' → Simulates R P F (step b a) (step' b' a')) {b : α}
    {b' : α'} (hb : P b b') : Simulates R P F (as.foldlM step b) (as'.foldlM step' b') := by
  induction has generalizing b b' with
  | nil => exact Simulates.pure hb
  | cons ha _ ih =>
    rw [List.foldlM_cons, List.foldlM_cons]
    exact (hstep _ _ _ _ hb ha).bind fun c c' hc => ih hc

end Simulates

/-- Where results are the same, the second computation follows the first, all faults excused. -/
theorem Approximates.simulates {x y : Run σ α} (h : Approximates x y) :
    Simulates Eq Eq (fun _ => True) x y := by
  rintro s _ rfl
  rcases hr : x.run.run s with ⟨e | a, t⟩
  · exact .inl trivial
  · exact ⟨a, t, h s a t hr, rfl, rfl⟩

/-- Equal states, equal results: simulation that excuses faults only in the first computation. -/
theorem Simulates.approximates {x y : Run σ α} (h : Simulates Eq Eq F x y) : Approximates x y := by
  intro s a t hr
  have hst := h s s rfl
  rw [hr] at hst
  obtain ⟨b, u, hy, rfl, rfl⟩ := hst
  exact hy

end Shex.Run
