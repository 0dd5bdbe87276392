/-!
# Search through choices

Each of several things can be chosen in a number of ways. The search goes through all combinations
in lexicographic order, the choices for the last thing changing fastest, until one is accepted, and
counts the combinations it has tried. If there is nothing to choose, there is one combination.
-/

namespace Shex

variable {m : Type → Type} [Monad m] {α β γ : Type}

/-- Goes through `options` until `attempt` succeeds with one. `attempt` is given how many
combinations were tried before, and says how many were tried after it. -/
def tryEach (attempt : β → Nat → m (Nat × Option γ)) : List β → Nat → m (Nat × Option γ)
  | [], tried => return (tried, none)
  | b :: bs, tried => do
    match ← attempt b tried with
    | (tried, some c) => return (tried, some c)
    | (tried, none) => tryEach attempt bs tried

/-- Goes through the combinations of choices for `things`, after `chosen` was chosen for earlier
ones, the latest first. -/
def searchChoices (accept : List (α × β) → m (Option γ)) :
    List (α × List β) → List (α × β) → Nat → m (Nat × Option γ)
  | [], chosen, tried => return (tried + 1, ← accept chosen.reverse)
  | (a, options) :: rest, chosen, tried =>
    tryEach (fun b tried => searchChoices accept rest ((a, b) :: chosen) tried) options tried

end Shex
