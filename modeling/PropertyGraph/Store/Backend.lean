import PropertyGraph.Store.Basic

/-!
# Backends

A `Backend` is what a transaction needs of a store: it reads and writes nodes and edges in some
state `σ`, and every call may fail.  `Store.backend` is the store of this library;
`UnreliableStore.backend` is the same store, some of whose writes are refused.
-/

namespace PropertyGraph

/-- A call that works on a state and may fail. -/
abbrev Access (σ α : Type) := ExceptT Error (StateM σ) α

/-- The answer of a call and the state after it. -/
def Access.perform {σ α : Type} (call : Access σ α) (s : σ) : Except Error α × σ := call s

structure Backend (σ : Type) where
  node? : NodeId → Access σ (Option Node)
  edge? : EdgeKey → Access σ (Option Edge)
  /-- The edges that touch a node. -/
  edgesAt : NodeId → Access σ (List Edge)
  addNode : Node → Access σ Unit
  updateNode : NodeId → PropertyMap → Access σ Unit
  /-- Removes a node and its edges and says whether it was there. -/
  removeNode : NodeId → Access σ Bool
  addEdge : Edge → Access σ Unit
  updateEdge : EdgeKey → PropertyMap → Access σ Unit
  /-- Removes an edge and says whether it was there. -/
  removeEdge : EdgeKey → Access σ Bool

/-! ### The store -/

namespace Store

/-- A write that is refused leaves the store as it was. -/
def write (change : Store → Except Error Store) : Access Store Unit := fun s =>
  match change s with
  | .ok s' => (.ok (), s')
  | .error e => (.error e, s)

def read {α : Type} (look : Store → α) : Access Store α := fun s => (.ok (look s), s)

def backend : Backend Store where
  node? id := read fun s => s.node? id
  edge? key := read fun s => s.edge? key
  edgesAt id := read fun s => s.edgesAt id
  addNode n := write fun s => s.addNode n
  updateNode id updates := write fun s => s.updateNode id updates
  removeNode id := fun s => let (found, s') := s.removeNode id; (.ok found, s')
  addEdge e := write fun s => s.addEdge e
  updateEdge key updates := write fun s => s.updateEdge key updates
  removeEdge key := fun s => let (found, s') := s.removeEdge key; (.ok found, s')

end Store

/-! ### A store that refuses some writes -/

/-- A store and, for each of the writes to come, whether it is refused; the writes after those are
not. -/
structure UnreliableStore where
  store : Store
  refusals : List Bool := []

namespace UnreliableStore

/-- The store that lets some writes through and refuses the one after them. -/
def refuseAfter (s : UnreliableStore) (writes : Nat) : UnreliableStore :=
  { s with refusals := List.replicate writes false ++ [true] }

def read {α : Type} (call : Access Store α) : Access UnreliableStore α := fun s =>
  let (answer, store) := call.perform s.store
  (answer, { s with store })

/-- A write that is refused does not reach the store. -/
def write {α : Type} (kind : WriteKind) (call : Access Store α) : Access UnreliableStore α :=
  fun s =>
    match s.refusals with
    | true :: rest => (.error (.storage (.injected kind)), { s with refusals := rest })
    | false :: rest => read call { s with refusals := rest }
    | [] => read call s

def backend : Backend UnreliableStore where
  node? id := read (Store.backend.node? id)
  edge? key := read (Store.backend.edge? key)
  edgesAt id := read (Store.backend.edgesAt id)
  addNode n := write .addNode (Store.backend.addNode n)
  updateNode id updates := write .updateNode (Store.backend.updateNode id updates)
  removeNode id := write .removeNode (Store.backend.removeNode id)
  addEdge e := write .addEdge (Store.backend.addEdge e)
  updateEdge key updates := write .updateEdge (Store.backend.updateEdge key updates)
  removeEdge key := write .removeEdge (Store.backend.removeEdge key)

end UnreliableStore

end PropertyGraph
