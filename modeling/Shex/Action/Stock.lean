import Shex.Action

/-!
# Stock handlers

Handlers that follow a simple rule, and a journal that records each call of a handler with its
outcome. The journal also counts the calls of every handler, which one of the rules asks for.
-/

namespace Shex

/-- How a stock handler decides. -/
inductive StockRule where
  | accept
  | reject
  /-- Fails with a message. -/
  | error (message : String)
  /-- The code `reject` rejects, a code that begins with `fail:` fails with the rest of it, and
  anything else accepts. -/
  | code
  /-- Rejects if the object of one of the triples is the term. -/
  | rejectObject (t : Term)
  /-- Accepts at most `n` triples. -/
  | max (n : Nat)
  /-- Accepts at least `n` triples. -/
  | min (n : Nat)
  /-- Rejects the first `n` calls. -/
  | rejectFirst (n : Nat)
deriving DecidableEq, Inhabited

namespace StockRule

/-- The decision after `earlier` calls of the handler. -/
def decide (earlier : Nat) (code : Option String) (triples : List Triple) :
    StockRule → Except String Bool
  | accept => .ok true
  | reject => .ok false
  | error message => .error message
  | .code =>
    match code with
    | none => .ok true
    | some c =>
      if c = "reject" then .ok false
      else if "fail:".toList.isPrefixOf c.toList then .error (String.ofList (c.toList.drop 5))
      else .ok true
  | rejectObject t => .ok (triples.all (·.object ≠ t))
  | max n => .ok (triples.length ≤ n)
  | min n => .ok (n ≤ triples.length)
  | rejectFirst n => .ok (n ≤ earlier)

end StockRule

/-- A call of a handler with its outcome. -/
structure HandlerCall where
  name : Iri
  code : Option String
  triples : List Triple
  outcome : Except String Bool

/-- The calls of handlers, the latest first, and how often each handler was called. -/
structure Journal where
  calls : List HandlerCall
  counts : Table Iri Nat

namespace Journal

/-- The journal without calls. -/
def empty : Journal := ⟨[], .empty⟩

/-- The calls in the order in which they were made. -/
def inOrder (j : Journal) : List HandlerCall := j.calls.reverse

/-- The journal with the same counts and no calls. -/
def clear (j : Journal) : Journal := { j with calls := [] }

end Journal

/-- The handler that follows a rule under a name. -/
def StockRule.handler (name : Iri) (r : StockRule) : Handler Journal := fun code triples j =>
  let earlier := (j.counts.get? name).getD 0
  let outcome := r.decide earlier code triples
  (outcome, ⟨⟨name, code, triples, outcome⟩ :: j.calls, j.counts.insert name (earlier + 1)⟩)

/-- The stock handlers with the given names and rules. Of two with the same name, the later one is
meant. -/
def stockHandlers (rules : List (Iri × StockRule)) : Handlers Journal :=
  rules.foldl (fun hs (name, r) => hs.insert name (r.handler name)) .empty

end Shex
