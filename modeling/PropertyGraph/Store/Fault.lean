import PropertyGraph.Graph.Element

/-!
# Why a store refuses

`Absence` and `Conflict` are the refusals of a store that holds its invariants; `StoreFault` stands
for what a store cannot do or fails to do.
-/

namespace PropertyGraph

/-- The element that was not found. -/
inductive Absence where
  | node (id : NodeId)
  | edge (key : EdgeKey)
  | sourceNode (id : NodeId)
  | targetNode (id : NodeId)
  /-- A mutation found nothing to change. -/
  | mutatedNode (id : NodeId)
  | mutatedEdge (key : EdgeKey)

def Absence.message : Absence → String
  | .node id => "Node " ++ id
  | .edge key => "Edge " ++ key.toText
  | .sourceNode id => "Source node " ++ id
  | .targetNode id => "Target node " ++ id
  | .mutatedNode id => "node " ++ id
  | .mutatedEdge key => "edge " ++ key.toText

/-- The element that is already there. -/
inductive Conflict where
  | node (id : NodeId)
  | edge (key : EdgeKey)

def Conflict.message : Conflict → String
  | .node id => "Node " ++ id ++ " already exists"
  | .edge key => "Edge " ++ key.toText ++ " already exists"

/-- The writes of a store. -/
inductive WriteKind where
  | addNode
  | updateNode
  | removeNode
  | addEdge
  | updateEdge
  | removeEdge
deriving DecidableEq

def WriteKind.name : WriteKind → String
  | .addNode => "add_node"
  | .updateNode => "update_node"
  | .removeNode => "remove_node"
  | .addEdge => "add_edge"
  | .updateEdge => "update_edge"
  | .removeEdge => "remove_edge"

inductive StoreFault where
  | scanUnsupported
  | injected (write : WriteKind)
  /-- A mutation cannot be undone with what was captured for it. -/
  | noRollbackData (mutation captured : String)

def StoreFault.message : StoreFault → String
  | .scanUnsupported => "full node scan not supported"
  | .injected write => "injected failure (" ++ write.name ++ ")"
  | .noRollbackData mutation captured =>
    "no rollback data for " ++ mutation ++ " (captured " ++ captured ++ ")"

end PropertyGraph
