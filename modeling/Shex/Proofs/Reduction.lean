import Mathlib.Order.FixedPoints
import Mathlib.Order.CompletePartialOrder

/-!
# Greatest fixpoints under assumptions

The greatest fixpoint of a monotone operator where some elements are taken for granted. An element
is in it if it follows once it is taken for granted itself (`mem_assuming_iff`), which is how a
search that assumes what it is looking at decides membership.
-/

namespace Shex

variable {α : Type} (f : Set α →o Set α) {S T X : Set α}

/-- The operator that also gives the elements of `S`. -/
def granting (S : Set α) : Set α →o Set α where
  toFun X := S ∪ f X
  monotone' _ _ h := Set.union_subset_union_right S (f.monotone h)

/-- The greatest fixpoint where the elements of `S` are taken for granted. -/
def assuming (S : Set α) : Set α := (granting f S).gfp

/-- What follows under an assumption is a fixpoint: what was taken for granted, and what follows
from all of it. -/
theorem assuming_eq (S : Set α) : assuming f S = S ∪ f (assuming f S) :=
  (granting f S).map_gfp.symm

/-- Nothing taken for granted gives the greatest fixpoint itself. -/
theorem assuming_empty : assuming f ∅ = f.gfp := by
  rw [assuming]
  congr 1
  exact OrderHom.ext _ _ (funext fun X => Set.empty_union _)

/-- What follows from itself and from what is taken for granted is in the fixpoint. -/
theorem subset_assuming (h : X ⊆ S ∪ f X) : X ⊆ assuming f S := (granting f S).le_gfp h

/-- The more is taken for granted, the more follows. -/
theorem assuming_mono (h : S ⊆ T) : assuming f S ⊆ assuming f T :=
  subset_assuming f ((assuming_eq f S).le.trans (Set.union_subset_union_left _ h))

/-- An element is in the fixpoint if it is taken for granted, or follows once it is. This is the
step of a recursive check, which assumes the pair that it enters. -/
theorem mem_assuming_iff {p : α} : p ∈ assuming f S ↔ p ∈ S ∨ p ∈ f (assuming f (insert p S)) := by
  have hmono : f (assuming f S) ⊆ f (assuming f (insert p S)) :=
    f.monotone (assuming_mono f (Set.subset_insert p S))
  constructor
  · intro hp
    rw [assuming_eq] at hp
    exact hp.imp_right fun h => hmono h
  · rintro (hp | hp)
    · rw [assuming_eq]
      exact .inl hp
    · have hpost : assuming f (insert p S) ⊆ S ∪ f (assuming f (insert p S)) := by
        intro q hq
        rw [assuming_eq] at hq
        rcases hq with (rfl | hq) | hq
        · exact .inr hp
        · exact .inl hq
        · exact .inr hq
      refine subset_assuming f hpost ?_
      rw [assuming_eq]
      exact .inl (Set.mem_insert p S)

end Shex
