/-!
# Breadth-first search

What can be reached from a list of starting points by steps, each element once, in the order in
which a breadth-first search meets it. The search takes its fuel from the caller: an element pushes
its successors once, so the number of starting points and of all steps together is enough.
-/

namespace Shex

universe u

variable {α : Type u} [DecidableEq α]

/-- Continues a search with `queue` still to be visited and `seen` visited, the latest first. -/
def breadthFirst (next : α → List α) : Nat → List α → List α → List α
  | 0, _, seen => seen.reverse
  | _ + 1, [], seen => seen.reverse
  | fuel + 1, a :: queue, seen =>
    if a ∈ seen then breadthFirst next fuel queue seen
    else breadthFirst next fuel (queue ++ next a) (a :: seen)

/-- The starting points and what can be reached from them, where `size` is at least the number of
steps between any two elements. -/
def closure (next : α → List α) (size : Nat) (starts : List α) : List α :=
  breadthFirst next (starts.length + size) starts []

end Shex
