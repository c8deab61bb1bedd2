import PropertyGraph.Graph.Element

/-!
# Paths

A path alternates nodes and edges.  One built by `Path.single` and `Path.append` has one node more
than edges.
-/

namespace PropertyGraph

structure Path where
  nodes : List Node
  edges : List Edge

namespace Path

/-- The path that stays at a node. -/
def single (n : Node) : Path := ⟨[n], []⟩

/-- The number of hops. -/
def length (p : Path) : Nat := p.edges.length

def isEmpty (p : Path) : Bool := p.edges.isEmpty

def start? (p : Path) : Option Node := p.nodes.head?

def end? (p : Path) : Option Node := p.nodes.getLast?

/-- Goes on along an edge to the node it leads to. -/
def append (p : Path) (e : Edge) (n : Node) : Path := ⟨p.nodes ++ [n], p.edges ++ [e]⟩

def toValue (p : Path) : Value :=
  .map [("edges", .list (p.edges.map Edge.toValue)), ("nodes", .list (p.nodes.map Node.toValue))]

end Path

end PropertyGraph
