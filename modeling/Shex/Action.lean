import Shex.Fault
import Shex.Table

/-!
# Semantic actions

Handlers for semantic actions and the running of the actions of a node. A handler is asked with the
code of an action and the triples that the action is about, and accepts, rejects, or fails with a
message. It may keep a state of a type `σ` that the caller chooses. Actions without a handler are
passed over; the first that rejects ends the run.
-/

namespace Shex

/-- A handler of semantic actions. -/
abbrev Handler (σ : Type) := Option String → List Triple → StateM σ (Except String Bool)

/-- Handlers by the names of the actions. -/
abbrev Handlers (σ : Type) := Table Iri (Handler σ)

/-- Runs actions with the triples they are about: whether all of them accept. -/
def Handlers.run {σ : Type} (hs : Handlers σ) (triples : List Triple) :
    List SemanticAction → StateM σ (Except ValidationFault Bool)
  | [] => return .ok true
  | a :: rest =>
    match hs.get? a.name with
    | none => run hs triples rest
    | some handler => do
      match ← handler a.code triples with
      | .error message => return .error (.actionFailed a.name message)
      | .ok false => return .ok false
      | .ok true => run hs triples rest

end Shex
