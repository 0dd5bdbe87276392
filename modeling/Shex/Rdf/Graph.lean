import Shex.Rdf.Term

/-!
# Graphs and neighbourhoods

A graph is a list of distinct triples in the order of their insertion. Validation looks at a graph
only through `GraphView`: the triples that leave a node and those that enter it. A triple seen from
one of its ends is an `Edge`; what a triple constraint asks of an edge is its `Arc`, a predicate
with a direction.
-/

namespace Shex

/-- A subject, a predicate and an object. -/
structure Triple where
  subject : Resource
  predicate : Iri
  object : Term
deriving DecidableEq, Inhabited, Repr

/-- The three parts, a blank between two of them. -/
def Triple.print (t : Triple) : String :=
  t.subject.print ++ " " ++ t.predicate.print ++ " " ++ t.object.print

/-- A predicate with a direction: an inverse arc is followed from object to subject. -/
structure Arc where
  predicate : Iri
  inverse : Bool
deriving DecidableEq, Inhabited, Repr

/-- A triple seen from the node at one of its ends, the object if the edge is inverse. -/
structure Edge where
  triple : Triple
  inverse : Bool
deriving DecidableEq, Inhabited, Repr

namespace Edge

/-- The predicate of the triple. -/
def predicate (e : Edge) : Iri := e.triple.predicate

/-- The predicate with the direction. -/
def arc (e : Edge) : Arc := ⟨e.predicate, e.inverse⟩

/-- The node at the other end. -/
def opposite (e : Edge) : Term :=
  if e.inverse then .resource e.triple.subject else e.triple.object

end Edge

/-- All that validation asks of a graph. -/
structure GraphView where
  /-- The triples whose subject is the node. -/
  outgoing : Term → List Triple
  /-- The triples whose object is the node. -/
  incoming : Term → List Triple

/-- A set of triples in the order of their insertion. -/
structure Graph where
  triples : List Triple
  nodup : triples.Nodup

namespace Graph

/-- The graph without triples. -/
def empty : Graph := ⟨[], by simp⟩

/-- Adds a triple at the end, unless the graph has it. -/
def insert (g : Graph) (t : Triple) : Graph :=
  if h : t ∈ g.triples then g
  else
    { triples := g.triples ++ [t]
      nodup := by
        rw [List.nodup_append]
        refine ⟨g.nodup, by simp, fun x hx y hy => ?_⟩
        rw [List.mem_singleton.1 hy]
        exact fun e => h (e ▸ hx) }

/-- Removes a triple. -/
def erase (g : Graph) (t : Triple) : Graph :=
  ⟨g.triples.filter (· ≠ t), List.Pairwise.filter _ g.nodup⟩

/-- The graph that results from adding triples to the empty graph one after the other. -/
def ofList (ts : List Triple) : Graph := ts.foldl insert empty

/-- The number of triples. -/
def size (g : Graph) : Nat := g.triples.length

/-- A graph shows the triples around a node in the order of their insertion. -/
def view (g : Graph) : GraphView where
  outgoing n := g.triples.filter fun t => .resource t.subject = n
  incoming n := g.triples.filter fun t => t.object = n

end Graph

/-- The triples around a focus node that a shape looks at. -/
structure Neighbourhood where
  outgoing : List Triple
  incoming : List Triple
deriving DecidableEq, Inhabited, Repr

namespace Neighbourhood

/-- Every triple that leaves `node`, and those entering it on one of the given predicates. -/
def collect (graph : GraphView) (node : Term) (inversePredicates : List Iri) : Neighbourhood where
  outgoing := graph.outgoing node
  incoming :=
    if inversePredicates.isEmpty then []
    else (graph.incoming node).filter fun t => inversePredicates.contains t.predicate

/-- All triples as edges, the outgoing ones first. -/
def edges (n : Neighbourhood) : List Edge :=
  n.outgoing.map (⟨·, false⟩) ++ n.incoming.map (⟨·, true⟩)

/-- What is left when the given edges are taken away. -/
def without (n : Neighbourhood) (removed : List Edge) : Neighbourhood where
  outgoing := n.outgoing.filter fun t => !removed.contains ⟨t, false⟩
  incoming := n.incoming.filter fun t => !removed.contains ⟨t, true⟩

/-- Whether there is no triple at all. -/
def isEmpty (n : Neighbourhood) : Bool := n.outgoing.isEmpty && n.incoming.isEmpty

end Neighbourhood

end Shex
