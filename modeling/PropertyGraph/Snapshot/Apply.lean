import PropertyGraph.Snapshot.Comparison

/-!
# Applying diffs

`GraphSnapshot.apply` makes the changes of a diff.  What is removed goes before what is added, so
that an element removed and added again is replaced.  A diff that does not fit the snapshot is
refused.
-/

namespace PropertyGraph

/-- A fault of a snapshot. -/
def snapshotError {α : Type} (fault : SnapshotFault) : Except Error α :=
  .error (.invalidSnapshot fault)

/-- The rest of a text behind `properties.`. -/
def propertyOfField? (field : String) : Option String :=
  if "properties.".toList.isPrefixOf field.toList then
    some (String.ofList (field.toList.drop 11))
  else none

namespace Node

/-- Sets a field of a node.  A null takes a property away; fields that nodes do not have are left
alone. -/
def setField (n : Node) (field : String) (v : Value) : Except Error Node :=
  if field = "labels" then
    match v.list? with
    | some items => .ok { n with labels := items.filterMap Value.string? }
    | none => snapshotError (.labelsNotAList n.id)
  else
    match propertyOfField? field with
    | none => .ok n
    | some key =>
      .ok { n with
        properties := if v.isNull then n.properties.erase key else n.properties.insert key v }

end Node

namespace GraphSnapshot

def removeEdgeOf (edges : SortedMap EdgeKey Edge) (d : EdgeDiff) :
    Except Error (SortedMap EdgeKey Edge) :=
  if edges.contains d.key then .ok (edges.erase d.key) else snapshotError (.edgeAbsent d.key)

def addEdgeOf (edges : SortedMap EdgeKey Edge) (d : EdgeDiff) :
    Except Error (SortedMap EdgeKey Edge) :=
  if edges.contains d.key then snapshotError (.edgePresent d.key)
  else .ok (edges.insert d.key d.edge)

/-- Removes or modifies a node; additions are left for later. -/
def changeNodeOf (nodes : SortedMap NodeId Node) (d : NodeDiff) :
    Except Error (SortedMap NodeId Node) :=
  match d.kind, nodes.find? d.id with
  | .added, _ => .ok nodes
  | _, none => snapshotError (.nodeAbsent d.id)
  | .removed, some _ => .ok (nodes.erase d.id)
  | .modified, some n => do
    let n ← d.changes.foldlM (fun n c => n.setField c.field c.after) n
    return nodes.insert d.id n

def addNodeOf (nodes : SortedMap NodeId Node) (d : NodeDiff) :
    Except Error (SortedMap NodeId Node) :=
  match d.node with
  | none => snapshotError (.addedNodeWithoutData d.id)
  | some n =>
    if nodes.contains d.id then snapshotError (.nodePresent d.id) else .ok (nodes.insert d.id n)

def changeMetadataOf (metadata : SortedMap String Value) (c : MetadataChange) :
    SortedMap String Value :=
  match c.after with
  | some v => metadata.insert c.key v
  | none => metadata.erase c.key

/-- The snapshot to which a diff leads from this one. -/
def apply (s : GraphSnapshot) (d : SnapshotDiff) : Except Error GraphSnapshot := do
  if d.fromVersion ≠ s.version then
    snapshotError (.versionMismatch d.fromVersion s.version)
  else
    let nodes := Differ.nodesById s.nodes
    let edges := Differ.edgesByKey s.edges
    let edges ← (d.edges.filter fun c => c.kind == .removed).foldlM removeEdgeOf edges
    let nodes ← d.nodes.foldlM changeNodeOf nodes
    let nodes ← (d.nodes.filter fun c => c.kind == .added).foldlM addNodeOf nodes
    let edges ← (d.edges.filter fun c => c.kind == .added).foldlM addEdgeOf edges
    return {
      version := d.toVersion
      nodes := nodes.values
      edges := edges.values
      metadata := d.metadata.foldl changeMetadataOf s.metadata
      capturedAt := none }

end GraphSnapshot

end PropertyGraph
