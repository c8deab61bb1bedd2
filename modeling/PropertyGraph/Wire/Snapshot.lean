import PropertyGraph.Snapshot.Basic
import PropertyGraph.Snapshot.Diff
import PropertyGraph.Wire.Graph

/-!
# Snapshots and diffs on the wire

What a change does not have is not written: a modified node has no node, and one that is added or
removed has no changes.  A snapshot that is read keeps the order in which it lists its elements.
-/

namespace PropertyGraph

open Wire (encode ofNames optional readRecord? required withDefault)

/-- A member that is written only if there is something to write. -/
def writtenMember {α : Type} [Wire α] (name : String) : Option α → List (String × Json)
  | some x => [(name, encode x)]
  | none => []

instance : Wire GraphSnapshot where
  encode s := .object ([
    ("version", encode s.version), ("nodes", encode s.nodes), ("edges", encode s.edges),
    ("metadata", encode s.metadata)] ++ writtenMember "captured_at" s.capturedAt)
  read? := readRecord? do
    return ⟨← required "version", ← required "nodes", ← required "edges",
      ← withDefault "metadata" .empty, ← withDefault "captured_at" none⟩

/-- The word for a kind of change. -/
def ChangeKind.word : ChangeKind → String
  | .removed => "removed"
  | .added => "added"
  | .modified => "modified"

instance : Wire ChangeKind := ofNames [.removed, .added, .modified] ChangeKind.word

instance : Wire FieldChange where
  encode c := .object [
    ("field", encode c.field), ("from", encode c.before), ("to", encode c.after)]
  read? := readRecord? do return ⟨← required "field", ← required "from", ← required "to"⟩

instance : Wire NodeDiff where
  encode d := .object ([("id", encode d.id), ("kind", encode d.kind)] ++
    writtenMember "node" d.node ++
    writtenMember "changes" (if d.changes.isEmpty then none else some d.changes))
  read? := readRecord? do
    return ⟨← required "id", ← required "kind", ← withDefault "node" none,
      ← withDefault "changes" []⟩

instance : Wire EdgeDiff where
  encode d := .object [("key", encode d.key), ("kind", encode d.kind), ("edge", encode d.edge)]
  read? := readRecord? do return ⟨← required "key", ← required "kind", ← required "edge"⟩

instance : Wire MetadataChange where
  encode c := .object [
    ("key", encode c.key), ("old", encode c.before), ("new", encode c.after)]
  read? := readRecord? do return ⟨← required "key", ← optional "old", ← optional "new"⟩

instance : Wire DiffSummary where
  encode s := .object [
    ("nodesAdded", encode s.nodesAdded), ("nodesRemoved", encode s.nodesRemoved),
    ("nodesModified", encode s.nodesModified), ("edgesAdded", encode s.edgesAdded),
    ("edgesRemoved", encode s.edgesRemoved), ("metadataChanged", encode s.metadataChanged)]
  read? := readRecord? do
    return ⟨← required "nodesAdded", ← required "nodesRemoved", ← required "nodesModified",
      ← required "edgesAdded", ← required "edgesRemoved", ← required "metadataChanged"⟩

instance : Wire SnapshotDiff where
  encode d := .object [
    ("fromVersion", encode d.fromVersion), ("toVersion", encode d.toVersion),
    ("nodes", encode d.nodes), ("edges", encode d.edges), ("metadata", encode d.metadata),
    ("summary", encode d.summary)]
  read? := readRecord? do
    return ⟨← required "fromVersion", ← required "toVersion", ← required "nodes",
      ← required "edges", ← required "metadata", ← required "summary"⟩

end PropertyGraph
