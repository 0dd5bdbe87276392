import Shex.Closure
import Shex.Rdf.Term
import Shex.Table

/-!
# Graphs of labels

Directed graphs whose nodes are labels and whose edges are positive or negative. Nodes and edges
keep the order in which they were added first. An edge that is added with both signs is negative.
-/

namespace Shex

/-- The sign of a dependency: negative ones pass an odd number of negations. -/
inductive Polarity where
  | positive | negative
deriving DecidableEq, Inhabited, Repr

namespace Polarity

/-- The other sign. -/
def flip : Polarity → Polarity
  | positive => negative
  | negative => positive

/-- Negative if one of two is. -/
def join : Polarity → Polarity → Polarity
  | positive, p => p
  | negative, _ => negative

end Polarity

/-- A graph of labels. -/
structure LabelGraph where
  nodes : Table Label Unit
  edges : Table (Label × Label) Polarity

namespace LabelGraph

/-- The graph without nodes. -/
def empty : LabelGraph := ⟨.empty, .empty⟩

instance : Inhabited LabelGraph := ⟨empty⟩

/-- Adds a node. -/
def addNode (g : LabelGraph) (a : Label) : LabelGraph := { g with nodes := g.nodes.insert a () }

/-- Adds an edge, and its ends if they are missing. -/
def addEdge (g : LabelGraph) (a b : Label) (p : Polarity) : LabelGraph :=
  let p := ((g.edges.get? (a, b)).map (·.join p)).getD p
  { (g.addNode a).addNode b with edges := g.edges.insert (a, b) p }

/-- Adds a node and edges from it to other labels. -/
def addDependencies (g : LabelGraph) (a : Label) (bs : List (Label × Polarity)) : LabelGraph :=
  bs.foldl (fun g b => g.addEdge a b.1 b.2) (g.addNode a)

/-- The ends of the edges that start at a label. -/
def successors (g : LabelGraph) (a : Label) : List Label :=
  (g.edges.keys.filter (·.1 = a)).map Prod.snd

/-- The labels that can be reached from a label by one or more edges. -/
def reachable (g : LabelGraph) (a : Label) : List Label :=
  closure g.successors g.edges.size (g.successors a)

/-- Whether one label can be reached from another by one or more edges. -/
def reaches (g : LabelGraph) (a b : Label) : Bool := (g.reachable a).contains b

/-- The labels that a label reaches and that reach it, in order of insertion. -/
def component (g : LabelGraph) (a : Label) : List Label :=
  g.nodes.keys.filter fun b => g.reaches a b && g.reaches b a

/-- The component of the earliest label that reaches itself. -/
def firstCycle? (g : LabelGraph) : Option (List Label) :=
  (g.nodes.keys.find? fun a => g.reaches a a).map g.component

/-- The earliest negative edge whose start can be reached from its end. -/
def negativeCycle? (g : LabelGraph) : Option (Label × Label) :=
  (g.edges.entries.find? fun e => e.2 = .negative && g.reaches e.1.2 e.1.1).map Prod.fst

end LabelGraph

end Shex
