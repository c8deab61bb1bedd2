import PropertyGraph.Snapshot.Comparison
import PropertyGraph.Value.Json

/-!
# Snapshots from JSON records

A snapshot can be given as a record of its version, nodes and edges.  Ids and the version may be
numbers, and labels, properties and metadata may be left out.
-/

namespace PropertyGraph

/-- An id is a text or a number. -/
def idOfJson? : Json → Option NodeId
  | .string s => some s
  | .number n => some n.toText
  | _ => none

/-- The properties of a record; anything but an object has none. -/
def propertiesOfJson : Option Json → PropertyMap
  | some (.object members) => .ofList (members.map fun (k, j) => (k, Value.ofJson j))
  | _ => .empty

def Node.ofJson? (given : Json) : Option Node := do
  let id ← idOfJson? (← given.member? "id")
  let labels := ((given.member? "labels").bind Json.array?).getD []
  return ⟨id, labels.filterMap Json.string?, propertiesOfJson (given.member? "properties")⟩

/-- The label of an edge may also be called its type. -/
def Edge.ofJson? (given : Json) : Option Edge := do
  let label ← (← (given.member? "label").or (given.member? "type")).string?
  let source ← idOfJson? (← given.member? "from")
  let target ← idOfJson? (← given.member? "to")
  return ⟨source, target, label, propertiesOfJson (given.member? "properties")⟩

namespace GraphSnapshot

/-- The version of a record: a text that is not empty, or a number. -/
def versionOf? : Option Json → Option String
  | some (.string s) => if s = "" then none else some s
  | some (.number n) => some n.toText
  | _ => none

/-- The contents of something optional, or else a fault of one side of a comparison. -/
def orSideFault {α : Type} (side : SnapshotSide) (x : Option α) (fault : SideFault) :
    Except Error α :=
  match x with
  | some x => .ok x
  | none => .error (.invalidSnapshot (.onSide side fault))

/-- The snapshot of a record. -/
def ofJson (side : SnapshotSide) (given : Json) : Except Error GraphSnapshot := do
  let _ ← orSideFault side given.object? .notAnObject
  let version ← orSideFault side (versionOf? (given.member? "version")) .noVersion
  let nodes ← orSideFault side ((given.member? "nodes").bind Json.array?) .noNodes
  let edges ← orSideFault side ((given.member? "edges").bind Json.array?) .noEdges
  let nodes ← nodes.mapM fun j => orSideFault side (Node.ofJson? j) (.malformedNode j)
  let edges ← edges.mapM fun j => orSideFault side (Edge.ofJson? j) (.malformedEdge j)
  return { of version nodes edges with metadata := propertiesOfJson (given.member? "metadata") }

end GraphSnapshot

/-- The diff between the snapshots of two records. -/
def Differ.compareJson (d : Differ) (before after : Json) : Except Error SnapshotDiff := do
  let before ← GraphSnapshot.ofJson .old before
  let after ← GraphSnapshot.ofJson .new after
  d.compare before after

end PropertyGraph
