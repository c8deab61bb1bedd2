import PropertyGraph.Graph.Element
import PropertyGraph.Json.Printer

/-!
# What can be wrong with a snapshot

The faults of a snapshot that is read or compared name its side; the others arise when a diff is
applied to a snapshot that it does not fit.
-/

namespace PropertyGraph

/-- The two snapshots of a comparison. -/
inductive SnapshotSide where
  | old
  | new

def SnapshotSide.name : SnapshotSide → String
  | .old => "from"
  | .new => "to"

/-- What can be wrong with one snapshot of a comparison. -/
inductive SideFault where
  | noVersion
  | notAnObject
  | noNodes
  | noEdges
  | malformedNode (given : Json)
  | malformedEdge (given : Json)

def SideFault.message : SideFault → String
  | .noVersion => "has no version"
  | .notAnObject => "must be an object"
  | .noNodes => "has no nodes collection"
  | .noEdges => "has no edges collection"
  | .malformedNode given => "has a malformed node: " ++ given.compact
  | .malformedEdge given => "has a malformed edge: " ++ given.compact

inductive SnapshotFault where
  | onSide (side : SnapshotSide) (fault : SideFault)
  | versionMismatch (diff snapshot : String)
  | nodeAbsent (id : NodeId)
  | edgeAbsent (key : EdgeKey)
  | addedNodeWithoutData (id : NodeId)
  | nodePresent (id : NodeId)
  | edgePresent (key : EdgeKey)
  | labelsNotAList (id : NodeId)

def SnapshotFault.message : SnapshotFault → String
  | .onSide side fault => side.name ++ " snapshot " ++ fault.message
  | .versionMismatch diff snapshot =>
    "diff starts at version " ++ diff ++ ", snapshot is " ++ snapshot
  | .nodeAbsent id => "diff references node " ++ id ++ ", which is absent"
  | .edgeAbsent key => "diff references edge " ++ key.toText ++ ", which is absent"
  | .addedNodeWithoutData id => "added node " ++ id ++ " carries no data"
  | .nodePresent id => "node " ++ id ++ " already exists"
  | .edgePresent key => "edge " ++ key.toText ++ " already exists"
  | .labelsNotAList id => "labels of node " ++ id ++ " must be a list"

end PropertyGraph
