import PropertyGraph.Store.Basic

/-!
# Views of a graph

A `GraphView` is what searching needs to know of a graph.  Nodes and the edges at a node can
always be looked up; whether the graph can be scanned, and how, depends on the view.

`Store.view` shows all that a store can do, `Store.scanView` leaves its label index out, and
`Store.lookupView` has neither an index nor a scan.
-/

namespace PropertyGraph

/-- What a view can do beside looking up. -/
structure Capabilities where
  /-- Nodes of a label are found without a scan. -/
  labelIndex : Bool := false
  /-- All nodes can be listed. -/
  fullScan : Bool := false

structure GraphView where
  node? : NodeId → Option Node
  /-- The edges that touch a node. -/
  edgesAt : NodeId → List Edge
  allNodes : Except Error (List Node)
  nodesWithLabel : String → Except Error (List Node)
  allEdges : Except Error (List Edge)
  capabilities : Capabilities

namespace GraphView

/-- The edges that may be followed from a node in a direction. -/
def edgesToward (v : GraphView) (id : NodeId) : Direction → List Edge
  | .outgoing => (v.edgesAt id).filter fun e => e.source == id
  | .incoming => (v.edgesAt id).filter fun e => e.target == id
  | .both => v.edgesAt id

/-- The view of a graph in which the nodes of a label are found by a scan, and the edges by going
through all nodes. -/
def scanning (node? : NodeId → Option Node) (edgesAt : NodeId → List Edge)
    (allNodes : Except Error (List Node)) (capabilities : Capabilities) : GraphView where
  node? := node?
  edgesAt := edgesAt
  allNodes := allNodes
  nodesWithLabel label := do return (← allNodes).filter (·.hasLabel label)
  allEdges := do
    return (← allNodes).flatMap fun n => (edgesAt n.id).filter fun e => e.source == n.id
  capabilities := capabilities

end GraphView

namespace Store

/-- The store with all that it can do. -/
def view (s : Store) : GraphView where
  node? := s.node?
  edgesAt := s.edgesAt
  allNodes := .ok s.allNodes
  nodesWithLabel label := .ok (s.nodesWithLabel label)
  allEdges := .ok s.allEdges
  capabilities := { labelIndex := true, fullScan := true }

/-- The store without its label index. -/
def scanView (s : Store) : GraphView :=
  .scanning s.node? s.edgesAt (.ok s.allNodes) { fullScan := true }

/-- The store without any means to list its nodes. -/
def lookupView (s : Store) : GraphView :=
  .scanning s.node? s.edgesAt (.error (.storage .scanUnsupported)) {}

end Store

end PropertyGraph
