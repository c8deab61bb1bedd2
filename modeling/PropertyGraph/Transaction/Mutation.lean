import PropertyGraph.Store.Backend
import PropertyGraph.Transaction.RollbackData

/-!
# Mutations

A `Mutation` changes one node or edge of a store.  With it a transaction keeps `RollbackData`, read
from the store when the mutation is asked for; a `LogEntry` is both, and `LogEntry.undo` takes the
mutation back.  Undoing looks at what is there before it adds anything, so an undo that broke off
half way can be repeated.
-/

namespace PropertyGraph

variable {σ : Type}

inductive Mutation where
  | addNode (node : Node)
  | removeNode (id : NodeId)
  | updateNode (id : NodeId) (updates : PropertyMap)
  | addEdge (edge : Edge)
  | removeEdge (key : EdgeKey)
  | updateEdge (key : EdgeKey) (updates : PropertyMap)

namespace Mutation

def name : Mutation → String
  | .addNode _ => "addNode"
  | .removeNode _ => "removeNode"
  | .updateNode _ _ => "updateNode"
  | .addEdge _ => "addEdge"
  | .removeEdge _ => "removeEdge"
  | .updateEdge _ _ => "updateEdge"

/-- The node that the mutation creates. -/
def createdNode? : Mutation → Option NodeId
  | .addNode n => some n.id
  | _ => none

/-- The edge that the mutation creates. -/
def createdEdge? : Mutation → Option EdgeKey
  | .addEdge e => some e.key
  | _ => none

/-- Makes the change; removing what is not there fails. -/
def apply (b : Backend σ) : Mutation → Access σ Unit
  | .addNode n => b.addNode n
  | .removeNode id => do
    if ← b.removeNode id then pure () else throw (.notFound (.mutatedNode id))
  | .updateNode id updates => b.updateNode id updates
  | .addEdge e => b.addEdge e
  | .removeEdge key => do
    if ← b.removeEdge key then pure () else throw (.notFound (.mutatedEdge key))
  | .updateEdge key updates => b.updateEdge key updates

end Mutation

/-! ### The log -/

structure LogEntry where
  mutation : Mutation
  rollback : RollbackData

namespace LogEntry

def name (entry : LogEntry) : String := entry.mutation.name

/-- Some entry of a log creates the node. -/
def createsNode (log : List LogEntry) (id : NodeId) : Bool :=
  log.any fun entry => entry.mutation.createdNode? == some id

/-- Some entry of a log creates the edge. -/
def createsEdge (log : List LogEntry) (key : EdgeKey) : Bool :=
  log.any fun entry => entry.mutation.createdEdge? == some key

end LogEntry

namespace RollbackData

/-- The values that updates replace; null for a property that is not there. -/
def previousValues (current updates : PropertyMap) : PropertyMap :=
  .ofList (updates.keys.map fun key => (key, (current.find? key).getD .null))

/-- What has to be kept for a node that is changed, if it is there or the log creates it. -/
def ofNode (b : Backend σ) (log : List LogEntry) (id : NodeId)
    (kept : Node → Access σ RollbackData) : Access σ RollbackData := do
  match ← b.node? id with
  | some n => kept n
  | none =>
    if LogEntry.createsNode log id then return .createdInTransaction
    else throw (.notFound (.mutatedNode id))

/-- What has to be kept for an edge that is changed, if it is there or the log creates it. -/
def ofEdge (b : Backend σ) (log : List LogEntry) (key : EdgeKey) (kept : Edge → RollbackData) :
    Access σ RollbackData := do
  match ← b.edge? key with
  | some e => return kept e
  | none =>
    if LogEntry.createsEdge log key then return .createdInTransaction
    else throw (.notFound (.mutatedEdge key))

/-- Reads from the store what undoing a mutation will need. -/
def capture (b : Backend σ) (log : List LogEntry) : Mutation → Access σ RollbackData
  | .addNode _ | .addEdge _ => return .nothing
  | .removeNode id => ofNode b log id fun n => do return .removedNode n (← b.edgesAt id)
  | .updateNode id updates =>
    ofNode b log id fun n => return .previousProperties (previousValues n.properties updates)
  | .removeEdge key => ofEdge b log key .removedEdge
  | .updateEdge key updates =>
    ofEdge b log key fun e => .previousProperties (previousValues e.properties updates)

end RollbackData

/-! ### Undoing -/

namespace LogEntry

/-- Adds a node if its id is free. -/
def restoreNode (b : Backend σ) (n : Node) : Access σ Unit := do
  if (← b.node? n.id).isNone then b.addNode n

/-- Adds an edge if both of its nodes are there and its key is free. -/
def restoreEdge (b : Backend σ) (e : Edge) : Access σ Unit := do
  if (← b.node? e.source).isSome then
    if (← b.node? e.target).isSome then
      if (← b.edge? e.key).isNone then b.addEdge e

/-- Adds edges in their order. -/
def restoreEdges (b : Backend σ) : List Edge → Access σ Unit
  | [] => return ()
  | e :: rest => do
    restoreEdge b e
    restoreEdges b rest

/-- Takes a mutation back that was made.  What the transaction created itself needs no undoing
beyond that of its creation. -/
def undo (b : Backend σ) (entry : LogEntry) : Access σ Unit :=
  match entry.mutation, entry.rollback with
  | _, .createdInTransaction => return ()
  | .addNode n, _ => do
    let _ ← b.removeNode n.id
  | .addEdge e, _ => do
    let _ ← b.removeEdge e.key
  | .removeNode _, .removedNode n edges => do
    restoreNode b n
    restoreEdges b edges
  | .removeEdge _, .removedEdge e => restoreEdge b e
  | .updateNode id _, .previousProperties previous => b.updateNode id previous
  | .updateEdge key _, .previousProperties previous => b.updateEdge key previous
  | mutation, rollback => throw (.storage (.noRollbackData mutation.name rollback.literal))

end LogEntry

end PropertyGraph
