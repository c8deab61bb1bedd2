import PropertyGraph.Error

/-!
# The store of a graph

A `Store` keeps the nodes by their ids and the edges by their keys.  Beside them it keeps, for
each node, the keys of the edges that touch it in the order in which they were added, and for each
label the ids of the nodes added with it, once for every time a node names the label.

Every operation is a function from stores to stores.  One that is refused returns an error or
`false` and leaves the store as it was.
-/

namespace PropertyGraph

/-- Sets properties to new values; a null removes the property. -/
def PropertyMap.merge (properties updates : PropertyMap) : PropertyMap :=
  updates.entries.foldl
    (fun acc e => if e.2.isNull then acc.erase e.1 else acc.insert e.1 e.2) properties

structure Store where
  nodes : SortedMap NodeId Node
  edges : SortedMap EdgeKey Edge
  /-- The keys of the edges that touch a node. -/
  incidence : SortedMap NodeId (List EdgeKey)
  /-- The nodes with a label. -/
  labelIndex : SortedMap String (List NodeId)

namespace Store

def empty : Store := ⟨.empty, .empty, .empty, .empty⟩

instance : Inhabited Store := ⟨empty⟩

/-! ### Reading -/

def node? (s : Store) (id : NodeId) : Option Node := s.nodes.find? id

def edge? (s : Store) (key : EdgeKey) : Option Edge := s.edges.find? key

/-- The edges that touch a node, a loop once. -/
def edgesAt (s : Store) (id : NodeId) : List Edge :=
  ((s.incidence.find? id).getD []).filterMap s.edge?

/-- The nodes of a label by the index. -/
def nodesWithLabel (s : Store) (label : String) : List Node :=
  ((s.labelIndex.find? label).getD []).filterMap s.node?

/-- All nodes by their ids. -/
def allNodes (s : Store) : List Node := s.nodes.values

/-- All edges by their keys. -/
def allEdges (s : Store) : List Edge := s.edges.values

/-! ### Nodes -/

/-- Adds an entry at the end of the list of a key. -/
def enlist {κ α : Type} [Ord κ] [DecidableEq κ] [Std.TransOrd κ] (lists : SortedMap κ (List α))
    (key : κ) (x : α) : SortedMap κ (List α) :=
  lists.insert key ((lists.find? key).getD [] ++ [x])

/-- Takes an entry out of the list of a key, wherever it stands in it. -/
def delist {κ α : Type} [Ord κ] [DecidableEq κ] [Std.TransOrd κ] [DecidableEq α]
    (lists : SortedMap κ (List α)) (key : κ) (x : α) : SortedMap κ (List α) :=
  match lists.find? key with
  | some list => lists.insert key (list.filter (· ≠ x))
  | none => lists

/-- Adds a node under an id that is free. -/
def addNode (s : Store) (n : Node) : Except Error Store :=
  if (s.node? n.id).isSome then .error (.constraintViolation (.node n.id))
  else
    .ok { s with
      nodes := s.nodes.insert n.id n
      incidence := s.incidence.insert n.id ((s.incidence.find? n.id).getD [])
      labelIndex := n.labels.foldl (fun index label => enlist index label n.id) s.labelIndex }

/-- Changes properties of a node. -/
def updateNode (s : Store) (id : NodeId) (updates : PropertyMap) : Except Error Store :=
  match s.node? id with
  | some n =>
    .ok { s with nodes := s.nodes.insert id { n with properties := n.properties.merge updates } }
  | none => .error (.notFound (.node id))

/-! ### Edges -/

/-- Adds an edge between nodes of the store under a key that is free. -/
def addEdge (s : Store) (e : Edge) : Except Error Store :=
  if (s.node? e.source).isNone then .error (.notFound (.sourceNode e.source))
  else if (s.node? e.target).isNone then .error (.notFound (.targetNode e.target))
  else if (s.edge? e.key).isSome then .error (.constraintViolation (.edge e.key))
  else
    let atSource := enlist s.incidence e.source e.key
    .ok { s with
      edges := s.edges.insert e.key e
      incidence := if e.source = e.target then atSource else enlist atSource e.target e.key }

/-- The store of some nodes and edges, added in their order. -/
def ofElements (nodes : List Node) (edges : List Edge) : Except Error Store := do
  edges.foldlM addEdge (← nodes.foldlM addNode empty)

/-- Changes properties of an edge. -/
def updateEdge (s : Store) (key : EdgeKey) (updates : PropertyMap) : Except Error Store :=
  match s.edge? key with
  | some e =>
    .ok { s with edges := s.edges.insert key { e with properties := e.properties.merge updates } }
  | none => .error (.notFound (.edge key))

/-- Removes an edge from the store and from both of its nodes.  Says whether it was there. -/
def removeEdge (s : Store) (key : EdgeKey) : Bool × Store :=
  match s.edge? key with
  | some e =>
    (true, { s with
      edges := s.edges.erase key
      incidence := delist (delist s.incidence e.source key) e.target key })
  | none => (false, s)

/-- Removes a node and every edge that touches it.  Says whether it was there. -/
def removeNode (s : Store) (id : NodeId) : Bool × Store :=
  match s.node? id with
  | some n =>
    let bare : Store := { s with
      nodes := s.nodes.erase id
      incidence := s.incidence.erase id
      labelIndex := n.labels.foldl (fun index label => delist index label id) s.labelIndex }
    let attached := (s.incidence.find? id).getD []
    (true, attached.foldl (fun s key => (s.removeEdge key).2) bare)
  | none => (false, s)

end Store

end PropertyGraph
