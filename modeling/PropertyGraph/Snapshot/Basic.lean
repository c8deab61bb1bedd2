import PropertyGraph.Collection.StableSort
import PropertyGraph.Store.View

/-!
# Snapshots

A `GraphSnapshot` is what a graph held at some point, under a version.  `GraphSnapshot.of` lists
the nodes by their ids and the edges by their keys, so that the order in which they are given does
not matter where ids and keys are unique.
-/

namespace PropertyGraph

structure GraphSnapshot where
  version : String
  nodes : List Node
  edges : List Edge
  metadata : SortedMap String Value
  /-- When the snapshot was taken of a graph. -/
  capturedAt : Option Instant

namespace GraphSnapshot

/-- The snapshot of some nodes and edges in any order. -/
def of (version : String) (nodes : List Node) (edges : List Edge) : GraphSnapshot where
  version := version
  nodes := stableSortBy (compareOn Node.id) nodes
  edges := stableSortBy (compareOn Edge.key) edges
  metadata := .empty
  capturedAt := none

/-- The snapshot with a piece of metadata, in place of one with the same key. -/
def withMetadata (s : GraphSnapshot) (key : String) (value : Value) : GraphSnapshot :=
  { s with metadata := s.metadata.insert key value }

/-- The snapshot of a graph that can be scanned. -/
def capture (v : GraphView) (version : String) (now : Instant) : Except Error GraphSnapshot := do
  let nodes ← v.allNodes
  let edges ← v.allEdges
  return { of version nodes edges with capturedAt := some now }

def node? (s : GraphSnapshot) (id : NodeId) : Option Node := s.nodes.find? fun n => n.id == id

def edge? (s : GraphSnapshot) (key : EdgeKey) : Option Edge :=
  s.edges.find? fun e => e.key == key

end GraphSnapshot

end PropertyGraph
