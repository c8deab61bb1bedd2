import PropertyGraph.Proofs.Store.View

/-!
# Scans of a store

In a well-formed store the scans list what the lookups find: all nodes (`WellFormed.mem_allNodes`),
all edges (`WellFormed.mem_allEdges`), and each once.  Going through the edges that leave each node
lists the same edges as the store does by itself (`WellFormed.leaving_perm`).  The edges to follow
from a node are those that the direction allows (`WellFormed.mem_edgesToward`).
-/

namespace PropertyGraph

theorem Edge.touches_iff {e : Edge} {id : NodeId} : e.touches id = true ↔ e.key.Touches id := by
  unfold Edge.touches EdgeKey.Touches
  rw [Bool.or_eq_true, beq_iff_eq, beq_iff_eq]
  rfl

/-- The edge may be followed from the node in the direction. -/
def Direction.Allows (id : NodeId) (e : Edge) : Direction → Prop
  | .outgoing => e.source = id
  | .incoming => e.target = id
  | .both => e.source = id ∨ e.target = id

namespace Store

variable {s s' : Store}

/-! ### Nodes and edges -/

/-- All nodes are listed in an order of their own. -/
theorem allNodes_congr (h : s'.node? = s.node?) : s'.allNodes = s.allNodes :=
  congrArg SortedMap.values (SortedMap.ext_find? fun id => congrFun h id)

theorem allEdges_congr (h : s'.edge? = s.edge?) : s'.allEdges = s.allEdges :=
  congrArg SortedMap.values (SortedMap.ext_find? fun key => congrFun h key)

theorem WellFormed.mem_allNodes (h : s.WellFormed) {n : Node} :
    n ∈ s.allNodes ↔ s.node? n.id = some n := SortedMap.KeyedBy.mem_values h.id_of_node

theorem WellFormed.nodup_ids (h : s.WellFormed) : (s.allNodes.map Node.id).Nodup :=
  SortedMap.KeyedBy.nodup h.id_of_node

theorem WellFormed.mem_allEdges (h : s.WellFormed) {e : Edge} :
    e ∈ s.allEdges ↔ s.edge? e.key = some e := SortedMap.KeyedBy.mem_values h.key_of_edge

theorem WellFormed.nodup_keys (h : s.WellFormed) : (s.allEdges.map Edge.key).Nodup :=
  SortedMap.KeyedBy.nodup h.key_of_edge

/-! ### The edges at a node -/

/-- The edges at a node have the keys that are listed there. -/
theorem WellFormed.map_key_edgesAt (h : s.WellFormed) (id : NodeId) :
    (s.edgesAt id).map Edge.key = s.incident id := by
  rw [edgesAt_eq, List.map_filterMap]
  refine (List.filterMap_congr fun k hk => ?_).trans List.filterMap_some
  obtain ⟨e, he⟩ := Option.isSome_iff_exists.mp (h.mem_incident.mp hk).1
  rw [he, Option.map_some, h.key_of_edge he]

theorem WellFormed.nodup_keys_edgesAt (h : s.WellFormed) (id : NodeId) :
    ((s.edgesAt id).map Edge.key).Nodup := by
  rw [h.map_key_edgesAt]
  exact h.nodup_incident id

theorem WellFormed.edgesAt_absent (h : s.WellFormed) {id : NodeId} (hid : s.node? id = none) :
    s.edgesAt id = [] := by
  rw [List.eq_nil_iff_forall_not_mem]
  intro e he
  obtain ⟨hstored, htouch⟩ := h.mem_edgesAt.mp he
  have hnode := h.node_stored (Option.isSome_of_eq_some hstored) htouch
  rw [hid] at hnode
  cases hnode

/-! ### The edges to follow -/

/-- The edges to follow from a node are the stored ones that the direction allows. -/
theorem WellFormed.mem_edgesToward (h : s.WellFormed) {v : GraphView} (hv : v.Shows s) {id : NodeId}
    {d : Direction} {e : Edge} :
    e ∈ v.edgesToward id d ↔ s.edge? e.key = some e ∧ d.Allows id e := by
  have hat : e ∈ v.edgesAt id ↔ s.edge? e.key = some e ∧ (e.source = id ∨ e.target = id) := by
    rw [hv.edgesAt]
    exact h.mem_edgesAt
  unfold GraphView.edgesToward
  cases d with
  | outgoing =>
    dsimp only
    rw [List.mem_filter, hat, beq_iff_eq, and_assoc]
    exact and_congr_right' (and_iff_right_of_imp Or.inl)
  | incoming =>
    dsimp only
    rw [List.mem_filter, hat, beq_iff_eq, and_assoc]
    exact and_congr_right' (and_iff_right_of_imp Or.inr)
  | both => exact hat

theorem WellFormed.nodup_edgesToward (h : s.WellFormed) {v : GraphView} (hv : v.Shows s)
    (id : NodeId) (d : Direction) : (v.edgesToward id d).Nodup := by
  have hat : (v.edgesAt id).Nodup := by
    rw [hv.edgesAt]
    exact List.Nodup.of_map _ (h.nodup_keys_edgesAt id)
  unfold GraphView.edgesToward
  cases d with
  | outgoing => exact hat.filter _
  | incoming => exact hat.filter _
  | both => exact hat

/-- The node at the other end of an edge to follow is stored. -/
theorem WellFormed.other_stored (h : s.WellFormed) {v : GraphView} (hv : v.Shows s)
    {id other : NodeId} {d : Direction} {e : Edge} (he : e ∈ v.edgesToward id d)
    (hother : e.otherNode? id = some other) : (v.node? other).isSome := by
  have hstored := Option.isSome_of_eq_some ((h.mem_edgesToward hv).mp he).1
  rw [hv.node?]
  unfold Edge.otherNode? at hother
  split_ifs at hother
  · obtain rfl := Option.some.inj hother
    exact h.target_stored hstored
  · obtain rfl := Option.some.inj hother
    exact h.source_stored hstored

/-! ### Edges by their sources -/

/-- The edges that leave the nodes, one node after the other. -/
def leaving (s : Store) : List Edge :=
  s.allNodes.flatMap fun n => (s.edgesAt n.id).filter fun e => e.source == n.id

theorem scanView_allEdges (s : Store) : s.scanView.allEdges = .ok s.leaving := rfl

theorem mem_leaving {e : Edge} :
    e ∈ s.leaving ↔ ∃ n ∈ s.allNodes, e ∈ s.edgesAt n.id ∧ e.source = n.id := by
  unfold leaving
  simp only [List.mem_flatMap, List.mem_filter, beq_iff_eq]

/-- No edge leaves two nodes, and none is listed twice at one. -/
theorem WellFormed.nodup_leaving (h : s.WellFormed) : s.leaving.Nodup := by
  unfold leaving
  rw [List.nodup_flatMap]
  refine ⟨fun n _ => (List.Nodup.of_map _ (h.nodup_keys_edgesAt n.id)).filter _, ?_⟩
  refine List.Pairwise.imp (fun {n m} hne => ?_) (List.pairwise_map.mp h.nodup_ids)
  intro e hen hem
  rw [List.mem_filter, beq_iff_eq] at hen hem
  exact hne (hen.2.symm.trans hem.2)

/-- Going through the nodes and the edges that leave them lists all edges. -/
theorem WellFormed.leaving_perm (h : s.WellFormed) : s.leaving.Perm s.allEdges := by
  rw [List.perm_ext_iff_of_nodup h.nodup_leaving (List.Nodup.of_map _ h.nodup_keys)]
  intro e
  rw [mem_leaving, h.mem_allEdges]
  constructor
  · rintro ⟨n, -, he, -⟩
    exact (h.mem_edgesAt.mp he).1
  · intro he
    -- the source of a stored edge is among the nodes
    obtain ⟨n, hn⟩ := Option.isSome_iff_exists.mp
      (h.source_stored (Option.isSome_of_eq_some he))
    have hid : n.id = e.source := h.id_of_node hn
    refine ⟨n, h.mem_allNodes.mpr (hid ▸ hn), ?_, hid.symm⟩
    exact h.mem_edgesAt.mpr ⟨he, Or.inl hid.symm⟩

end Store

end PropertyGraph
