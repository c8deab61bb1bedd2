import PropertyGraph.Transaction.Mutation
import PropertyGraph.Transaction.State
import PropertyGraph.Wire.Graph

/-!
# Mutations on the wire

A mutation and what was captured for it are records that hold the word for their kind as `type`.
-/

namespace PropertyGraph

open Wire (encode ofNames readRecord? readTagged? required)

instance : Wire TransactionState :=
  ofNames [.new, .pending, .committed, .rolledBack, .failed] TransactionState.name

/-- A record of a kind. -/
def kindRecord (kind : String) (members : List (String × Json)) : Json :=
  .object (("type", .string kind) :: members)

instance : Wire Mutation where
  encode m := kindRecord m.name <|
    match m with
    | .addNode node => [("node", encode node)]
    | .removeNode id => [("id", encode id)]
    | .updateNode id updates => [("id", encode id), ("updates", encode updates)]
    | .addEdge edge => [("edge", encode edge)]
    | .removeEdge key => [("key", encode key)]
    | .updateEdge key updates => [("key", encode key), ("updates", encode updates)]
  read? := readTagged? "type" [
    ("addNode", do return .addNode (← required "node")),
    ("removeNode", do return .removeNode (← required "id")),
    ("updateNode", do return .updateNode (← required "id") (← required "updates")),
    ("addEdge", do return .addEdge (← required "edge")),
    ("removeEdge", do return .removeEdge (← required "key")),
    ("updateEdge", do return .updateEdge (← required "key") (← required "updates"))]

instance : Wire RollbackData where
  encode
    | .nothing => kindRecord "nothing" []
    | .createdInTransaction => kindRecord "createdInTransaction" []
    | .removedNode node edges =>
      kindRecord "removedNode" [("node", encode node), ("edges", encode edges)]
    | .removedEdge edge => kindRecord "removedEdge" [("edge", encode edge)]
    | .previousProperties previous =>
      kindRecord "previousProperties" [("previous", encode previous)]
  read? := readTagged? "type" [
    ("nothing", return .nothing),
    ("createdInTransaction", return .createdInTransaction),
    ("removedNode", do return .removedNode (← required "node") (← required "edges")),
    ("removedEdge", do return .removedEdge (← required "edge")),
    ("previousProperties", do return .previousProperties (← required "previous"))]

instance : Wire LogEntry where
  encode entry := .object [
    ("mutation", encode entry.mutation), ("rollback", encode entry.rollback)]
  read? := readRecord? do return ⟨← required "mutation", ← required "rollback"⟩

end PropertyGraph
