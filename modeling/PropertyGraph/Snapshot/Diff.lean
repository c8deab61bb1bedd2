import PropertyGraph.Collection.StableSort
import PropertyGraph.Graph.Element
import PropertyGraph.Value.Order
import PropertyGraph.Value.Text

/-!
# Differences between snapshots

A `SnapshotDiff` lists what leads from one version of a graph to another: nodes and edges that are
removed, added or, for nodes only, modified, and changes of metadata.  It holds all that is needed
to go back, so `SnapshotDiff.inverse` is the diff that leads from the second version to the first.

`SnapshotDiff.of` puts the lists in order and counts their entries, so that equal changes have
equal diffs and `SnapshotDiff.toText` shows them alike.
-/

namespace PropertyGraph

/-! ### Kinds of changes -/

inductive ChangeKind where
  | removed
  | added
  | modified
deriving DecidableEq

namespace ChangeKind

/-- The place of a kind among the changes of one element. -/
def rank : ChangeKind → Nat
  | .removed => 0
  | .added => 1
  | .modified => 2

/-- The kind of the change that goes back. -/
def inverse : ChangeKind → ChangeKind
  | .removed => .added
  | .added => .removed
  | .modified => .modified

def symbol : ChangeKind → String
  | .removed => "-"
  | .added => "+"
  | .modified => "~"

theorem inverse_inverse (k : ChangeKind) : k.inverse.inverse = k := by cases k <;> rfl

end ChangeKind

/-! ### Changes of elements -/

/-- A field of a node that differs; null stands for a property that is not there. -/
structure FieldChange where
  field : String
  before : Value
  after : Value

namespace FieldChange

/-- Equality by the values, of which NaN differs from itself. -/
def equals (a b : FieldChange) : Bool :=
  a.field == b.field && a.before.equals b.before && a.after.equals b.after

def inverse (c : FieldChange) : FieldChange := ⟨c.field, c.after, c.before⟩

def toText (c : FieldChange) : String :=
  c.field ++ ": " ++ c.before.toText ++ " -> " ++ c.after.toText

end FieldChange

structure NodeDiff where
  id : NodeId
  kind : ChangeKind
  /-- The node that is added or removed. -/
  node : Option Node
  /-- What is different in a node that is modified. -/
  changes : List FieldChange

namespace NodeDiff

/-- Equality by the contents of nodes and fields. -/
def equals (a b : NodeDiff) : Bool :=
  a.id == b.id && a.kind == b.kind &&
    a.node.toList.isEqv b.node.toList (fun m n => m.toValue.equals n.toValue) &&
    a.changes.isEqv b.changes FieldChange.equals

def inverse (d : NodeDiff) : NodeDiff :=
  { d with kind := d.kind.inverse, changes := d.changes.map FieldChange.inverse }

/-- Changes of nodes are ordered by id, and those of one id by their kinds. -/
def compare : NodeDiff → NodeDiff → Ordering :=
  compareLex (compareOn id) (compareOn fun d => d.kind.rank)

end NodeDiff

structure EdgeDiff where
  key : EdgeKey
  kind : ChangeKind
  edge : Edge

namespace EdgeDiff

/-- Equality by the contents of edges. -/
def equals (a b : EdgeDiff) : Bool :=
  a.key == b.key && a.kind == b.kind && a.edge.toValue.equals b.edge.toValue

def inverse (d : EdgeDiff) : EdgeDiff := { d with kind := d.kind.inverse }

def compare : EdgeDiff → EdgeDiff → Ordering :=
  compareLex (compareOn key) (compareOn fun d => d.kind.rank)

end EdgeDiff

/-- A change of metadata; a value that is not there is `none`. -/
structure MetadataChange where
  key : String
  before : Option Value
  after : Option Value

namespace MetadataChange

/-- Equality by the values. -/
def equals (a b : MetadataChange) : Bool :=
  a.key == b.key && a.before.toList.isEqv b.before.toList Value.equals &&
    a.after.toList.isEqv b.after.toList Value.equals

def inverse (c : MetadataChange) : MetadataChange := ⟨c.key, c.after, c.before⟩

/-- The text of a value, or of its absence. -/
def valueText : Option Value → String
  | some v => v.toText
  | none => "(absent)"

end MetadataChange

/-! ### Diffs -/

/-- How many changes of each kind there are. -/
structure DiffSummary where
  nodesAdded : Nat
  nodesRemoved : Nat
  nodesModified : Nat
  edgesAdded : Nat
  edgesRemoved : Nat
  metadataChanged : Nat
deriving DecidableEq

/-- The number of all changes. -/
def DiffSummary.total (s : DiffSummary) : Nat :=
  s.nodesAdded + s.nodesRemoved + s.nodesModified + s.edgesAdded + s.edgesRemoved +
    s.metadataChanged

structure SnapshotDiff where
  fromVersion : String
  toVersion : String
  nodes : List NodeDiff
  edges : List EdgeDiff
  metadata : List MetadataChange
  summary : DiffSummary

namespace SnapshotDiff

/-- The counts of the changes in three lists. -/
def summaryOf (nodes : List NodeDiff) (edges : List EdgeDiff) (metadata : List MetadataChange) :
    DiffSummary where
  nodesAdded := nodes.countP fun d => d.kind == .added
  nodesRemoved := nodes.countP fun d => d.kind == .removed
  nodesModified := nodes.countP fun d => d.kind == .modified
  edgesAdded := edges.countP fun d => d.kind == .added
  edgesRemoved := edges.countP fun d => d.kind == .removed
  metadataChanged := metadata.length

/-- The diff of changes in any order. -/
def of (fromVersion toVersion : String) (nodes : List NodeDiff) (edges : List EdgeDiff)
    (metadata : List MetadataChange) : SnapshotDiff where
  fromVersion := fromVersion
  toVersion := toVersion
  nodes := stableSortBy NodeDiff.compare nodes
  edges := stableSortBy EdgeDiff.compare edges
  metadata := stableSortBy (compareOn MetadataChange.key) metadata
  summary := summaryOf nodes edges metadata

def isEmpty (d : SnapshotDiff) : Bool :=
  d.nodes.isEmpty && d.edges.isEmpty && d.metadata.isEmpty

/-- The diff that leads back. -/
def inverse (d : SnapshotDiff) : SnapshotDiff :=
  of d.toVersion d.fromVersion (d.nodes.map NodeDiff.inverse) (d.edges.map EdgeDiff.inverse)
    (d.metadata.map MetadataChange.inverse)

/-- Equality of all parts by their contents. -/
def equals (a b : SnapshotDiff) : Bool :=
  a.fromVersion == b.fromVersion && a.toVersion == b.toVersion &&
    a.nodes.isEqv b.nodes NodeDiff.equals && a.edges.isEqv b.edges EdgeDiff.equals &&
    a.metadata.isEqv b.metadata MetadataChange.equals && a.summary == b.summary

/-! ### The text of a diff -/

/-- The counts, one line for each sort of element. -/
def summaryLines (s : DiffSummary) : List String :=
  ["  nodes: +" ++ toString s.nodesAdded ++ " -" ++ toString s.nodesRemoved ++ " ~" ++
      toString s.nodesModified,
    "  edges: +" ++ toString s.edgesAdded ++ " -" ++ toString s.edgesRemoved,
    "  metadata: " ++ toString s.metadataChanged ++ " changed"]

def nodeLines (d : NodeDiff) : List String :=
  ("  " ++ d.kind.symbol ++ " node " ++ d.id) :: d.changes.map fun c => "      " ++ c.toText

def edgeLine (d : EdgeDiff) : String := "  " ++ d.kind.symbol ++ " edge " ++ d.key.toText

def metadataLine (c : MetadataChange) : String :=
  "  ~ metadata " ++ c.key ++ ": " ++ MetadataChange.valueText c.before ++ " -> " ++
    MetadataChange.valueText c.after

/-- What the diff says, for people to read. -/
def toText (d : SnapshotDiff) : String :=
  let title := "snapshot " ++ d.fromVersion ++ " -> " ++ d.toVersion
  if d.isEmpty then title ++ ": no changes"
  else
    String.intercalate "\n"
      ([title] ++ summaryLines d.summary ++ d.nodes.flatMap nodeLines ++ d.edges.map edgeLine ++
        d.metadata.map metadataLine)

end SnapshotDiff

end PropertyGraph
