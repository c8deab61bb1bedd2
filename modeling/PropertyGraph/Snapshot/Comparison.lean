import PropertyGraph.Snapshot.Basic
import PropertyGraph.Snapshot.Diff
import PropertyGraph.Value.Order

/-!
# Comparing snapshots

`Differ.compare` finds the `SnapshotDiff` between two snapshots.  Nodes are matched by id and
compared field by field, by a comparator that may depend on their labels.  Edges and metadata have
no fields: an edge whose properties differ is removed and added again.
-/

namespace PropertyGraph

structure DiffConfig where
  /-- Properties whose changes are not reported. -/
  ignoreFields : List String := ["_version", "_updatedAt"]

/-- Compares two versions of one node. -/
abbrev NodeComparator := DiffConfig → Node → Node → List FieldChange

namespace NodeComparator

/-- Whether two lists hold the same labels. -/
def sameLabels (a b : List String) : Bool :=
  a.all (fun label => b.contains label) && b.all (fun label => a.contains label)

/-- The change of the labels, if they differ as a set. -/
def labelChanges (before after : Node) : List FieldChange :=
  if sameLabels before.labels after.labels then []
  else
    [⟨"labels", .list (before.labels.map Value.string), .list (after.labels.map Value.string)⟩]

/-- The change of one property, if it differs. -/
def propertyChange? (before after : Node) (key : String) : Option FieldChange :=
  let old := (before.property? key).getD .null
  let new := (after.property? key).getD .null
  if old.equals new then none else some ⟨"properties." ++ key, old, new⟩

/-- Compares the labels and every property that is not ignored. -/
def fieldwise : NodeComparator := fun config before after =>
  let keys := (before.properties.union after.properties).keys
  labelChanges before after ++
    (keys.filter fun key => !config.ignoreFields.contains key).filterMap
      (propertyChange? before after)

end NodeComparator

/-- Compares snapshots. -/
structure Differ where
  config : DiffConfig := {}
  /-- How to compare nodes of a label. -/
  comparators : SortedMap String NodeComparator := .empty

namespace Differ

/-- Uses a comparator for the nodes of a label. -/
def withComparator (d : Differ) (label : String) (comparator : NodeComparator) : Differ :=
  { d with comparators := d.comparators.insert label comparator }

/-- The comparator of the first label of a node that has one. -/
def comparatorOf (d : Differ) (n : Node) : NodeComparator :=
  (n.labels.findSome? d.comparators.find?).getD .fieldwise

/-! ### Nodes -/

/-- The nodes of a list by their ids, the last one of a repeated id. -/
def nodesById (nodes : List Node) : SortedMap NodeId Node :=
  .ofList (nodes.map fun n => (n.id, n))

/-- The change to a node of the second snapshot, if there is one. -/
def arrival? (d : Differ) (before : SortedMap NodeId Node) (n : Node) : Option NodeDiff :=
  match before.find? n.id with
  | none => some ⟨n.id, .added, some n, []⟩
  | some old =>
    match d.comparatorOf n d.config old n with
    | [] => none
    | changes => some ⟨n.id, .modified, none, changes⟩

def nodeDiffs (d : Differ) (before after : SortedMap NodeId Node) : List NodeDiff :=
  after.values.filterMap (d.arrival? before) ++
    (before.values.filter fun n => !after.contains n.id).map fun n =>
      ⟨n.id, .removed, some n, []⟩

/-! ### Edges and metadata -/

/-- The edges of a list by their keys, the last one of a repeated key. -/
def edgesByKey (edges : List Edge) : SortedMap EdgeKey Edge :=
  .ofList (edges.map fun e => (e.key, e))

/-- Whether an edge stands in a map with the same properties. -/
def standsIn (edges : SortedMap EdgeKey Edge) (e : Edge) : Bool :=
  match edges.find? e.key with
  | some other => Value.equalsProperties other.properties e.properties
  | none => false

def edgeDiffs (before after : SortedMap EdgeKey Edge) : List EdgeDiff :=
  ((before.values.filter fun e => !standsIn after e).map fun e => ⟨e.key, .removed, e⟩) ++
    (after.values.filter fun e => !standsIn before e).map fun e => ⟨e.key, .added, e⟩

/-- Whether two values that may be absent are equal. -/
def sameMetadata : Option Value → Option Value → Bool
  | some a, some b => a.equals b
  | none, none => true
  | _, _ => false

def metadataChange? (before after : SortedMap String Value) (key : String) :
    Option MetadataChange :=
  let old := before.find? key
  let new := after.find? key
  if sameMetadata old new then none else some ⟨key, old, new⟩

def metadataChanges (before after : SortedMap String Value) : List MetadataChange :=
  (before.union after).keys.filterMap (metadataChange? before after)

/-! ### Snapshots -/

/-- A snapshot of a comparison has to have a version. -/
def requireVersion (side : SnapshotSide) (s : GraphSnapshot) : Except Error Unit :=
  if s.version = "" then .error (.invalidSnapshot (.onSide side .noVersion)) else .ok ()

/-- The diff that leads from the first snapshot to the second. -/
def compare (d : Differ) (before after : GraphSnapshot) : Except Error SnapshotDiff := do
  requireVersion .old before
  requireVersion .new after
  return .of before.version after.version
    (d.nodeDiffs (nodesById before.nodes) (nodesById after.nodes))
    (edgeDiffs (edgesByKey before.edges) (edgesByKey after.edges))
    (metadataChanges before.metadata after.metadata)

end Differ

end PropertyGraph
