import PropertyGraph.Proofs.Store.Integrity

/-!
# The label index

In a reachable store the list of a label holds the id of a node as often as the node names the label,
and no other ids (`Reachable.count_labelled`).  So a label finds the nodes that have it
(`Reachable.mem_nodesWithLabel`), and each of them once where no node names a label twice
(`Reachable.nodup_nodesWithLabel`).
-/

namespace PropertyGraph.Store

variable {s s' : Store}

/-- The ids listed under a label. -/
def labelled (s : Store) (label : String) : List NodeId := (s.labelIndex.find? label).getD []

/-- How often a node of the store names a label. -/
def naming (s : Store) (label : String) (id : NodeId) : Nat :=
  match s.node? id with
  | some n => n.labels.count label
  | none => 0

/-! ### Labels of one node -/

theorem find?_foldl_enlist (labels : List String) (index : SortedMap String (List NodeId))
    (id : NodeId) (label : String) :
    ((labels.foldl (fun index label => enlist index label id) index).find? label).getD []
      = (index.find? label).getD [] ++ List.replicate (labels.count label) id := by
  induction labels generalizing index with
  | nil => simp
  | cons first rest ih =>
    rw [List.foldl_cons, ih, find?_enlist]
    by_cases h : label = first
    · subst h
      rw [if_pos rfl, List.count_cons_self, List.replicate_succ, List.append_assoc,
        List.singleton_append]
    · rw [if_neg h, List.count_cons_of_ne (Ne.symm h)]

theorem find?_foldl_delist (labels : List String) (index : SortedMap String (List NodeId))
    (id : NodeId) (label : String) :
    ((labels.foldl (fun index label => delist index label id) index).find? label).getD []
      = if label ∈ labels then ((index.find? label).getD []).filter (· ≠ id)
        else (index.find? label).getD [] := by
  induction labels generalizing index with
  | nil => simp
  | cons first rest ih =>
    rw [List.foldl_cons, ih, find?_delist]
    by_cases hfirst : label = first
    · subst hfirst
      rw [if_pos rfl, if_pos List.mem_cons_self, List.filter_filter]
      simp only [Bool.and_self, ite_self]
    · rw [if_neg hfirst]
      simp only [List.mem_cons, hfirst, false_or]

/-! ### What the operations do to the index -/

theorem labelled_addNode {n : Node} (h : s.addNode n = .ok s') (label : String) :
    s'.labelled label = s.labelled label ++ List.replicate (n.labels.count label) n.id := by
  unfold addNode at h
  split at h
  · cases h
  · obtain rfl := Except.ok.inj h
    exact find?_foldl_enlist n.labels s.labelIndex n.id label

theorem labelIndex_updateNode {id : NodeId} {updates : PropertyMap}
    (h : s.updateNode id updates = .ok s') : s'.labelIndex = s.labelIndex := by
  unfold updateNode at h
  split at h
  · obtain rfl := Except.ok.inj h
    rfl
  · cases h

theorem labelIndex_addEdge {e : Edge} (h : s.addEdge e = .ok s') :
    s'.labelIndex = s.labelIndex := by
  unfold addEdge at h
  split_ifs at h <;> obtain rfl := Except.ok.inj h <;> rfl

theorem labelIndex_updateEdge {key : EdgeKey} {updates : PropertyMap}
    (h : s.updateEdge key updates = .ok s') : s'.labelIndex = s.labelIndex := by
  unfold updateEdge at h
  split at h
  · obtain rfl := Except.ok.inj h
    rfl
  · cases h

theorem labelIndex_removeEdge (key : EdgeKey) :
    (s.removeEdge key).2.labelIndex = s.labelIndex := by
  unfold removeEdge
  split <;> rfl

theorem labelIndex_foldl_removeEdge (keys : List EdgeKey) :
    (keys.foldl (fun s k => (s.removeEdge k).2) s).labelIndex = s.labelIndex := by
  induction keys generalizing s with
  | nil => rfl
  | cons key rest ih => rw [List.foldl_cons, ih, labelIndex_removeEdge]

theorem labelled_removeNode {id : NodeId} {n : Node} (h : s.node? id = some n) (label : String) :
    (s.removeNode id).2.labelled label
      = if label ∈ n.labels then (s.labelled label).filter (· ≠ id) else s.labelled label := by
  unfold removeNode
  rw [h]
  unfold labelled
  dsimp only
  rw [labelIndex_foldl_removeEdge]
  exact find?_foldl_delist n.labels s.labelIndex id label

/-! ### The invariant -/

/-- The list of a label holds the id of each node as often as the node names the label. -/
def WellLabelled (s : Store) : Prop := ∀ label id, (s.labelled label).count id = s.naming label id

theorem wellLabelled_empty : empty.WellLabelled := fun _ _ => rfl

/-- Only nodes are listed. -/
theorem WellLabelled.node_stored (h : s.WellLabelled) {label : String} {id : NodeId}
    (hid : id ∈ s.labelled label) : (s.node? id).isSome := by
  have hpos : 0 < s.naming label id := h label id ▸ List.count_pos_iff.mpr hid
  unfold naming at hpos
  cases hn : s.node? id with
  | some n => rfl
  | none =>
    rw [hn] at hpos
    exact absurd hpos (Nat.lt_irrefl 0)

/-- A change that keeps the index and the labels of all nodes. -/
theorem WellLabelled.of_same_labels (h : s.WellLabelled) (hindex : s'.labelIndex = s.labelIndex)
    (hnaming : s'.naming = s.naming) : s'.WellLabelled := by
  intro label id
  unfold labelled
  rw [hindex, hnaming]
  exact h label id

theorem WellLabelled.addNode (h : s.WellLabelled) {n : Node} (hadd : s.addNode n = .ok s') :
    s'.WellLabelled := by
  obtain ⟨hfree, hnode, -⟩ := addNode_spec hadd
  intro label id
  have hold := h label id
  rw [labelled_addNode hadd, List.count_append, List.count_replicate, hold]
  unfold naming
  rw [hnode, Function.update_apply]
  by_cases hid : id = n.id
  · -- the id was free, so nothing was listed under it
    subst hid
    simp [hfree]
  · rw [if_neg hid]
    simp [Ne.symm hid]

theorem naming_updateNode {id : NodeId} {updates : PropertyMap}
    (h : s.updateNode id updates = .ok s') : s'.naming = s.naming := by
  obtain ⟨n, hn, hnode, -⟩ := updateNode_spec h
  funext label id'
  unfold naming
  rw [hnode, Function.update_apply]
  split_ifs with hid
  · rw [hid, hn]
  · rfl

theorem WellLabelled.removeNode (h : s.WellLabelled) (hs : s.WellFormed) (id : NodeId) :
    (s.removeNode id).2.WellLabelled := by
  obtain ⟨hfound, hnode, -⟩ := hs.removeNode_spec id
  cases hn : s.node? id with
  | none =>
    have hsame : (s.removeNode id).2 = s :=
      eq_of_removeNode_eq_false (Prod.ext (by rw [hfound, hn]; rfl) rfl)
    rw [hsame]
    exact h
  | some n =>
    intro label id'
    have hold := h label id'
    rw [labelled_removeNode hn]
    unfold naming at hold ⊢
    rw [hnode, Function.update_apply]
    by_cases hid : id' = id
    · subst hid
      rw [if_pos rfl]
      rw [hn] at hold
      dsimp only at hold ⊢
      split_ifs with hlabel
      · rw [List.count_eq_zero]
        simp
      · -- the node does not name the label, so it was not listed under it
        rw [hold, List.count_eq_zero.mpr hlabel]
    · rw [if_neg hid, ← hold]
      split_ifs
      · exact List.count_filter (by simpa using hid)
      · rfl

theorem naming_of_node?_eq (h : s'.node? = s.node?) : s'.naming = s.naming := by
  unfold naming
  rw [h]

theorem Reachable.wellLabelled (h : s.Reachable) : s.WellLabelled := by
  induction h with
  | empty => exact wellLabelled_empty
  | addNode _ hadd ih => exact ih.addNode hadd
  | updateNode _ hupd ih =>
    exact ih.of_same_labels (labelIndex_updateNode hupd) (naming_updateNode hupd)
  | removeNode id hs ih => exact ih.removeNode hs.wellFormed id
  | addEdge _ hadd ih =>
    obtain ⟨-, -, -, hnode, -⟩ := addEdge_spec hadd
    exact ih.of_same_labels (labelIndex_addEdge hadd) (naming_of_node?_eq hnode)
  | updateEdge _ hupd ih =>
    obtain ⟨-, -, hnode, -⟩ := updateEdge_spec hupd
    exact ih.of_same_labels (labelIndex_updateEdge hupd) (naming_of_node?_eq hnode)
  | removeEdge key hs ih =>
    obtain ⟨-, hnode, -⟩ := hs.wellFormed.removeEdge_spec key
    exact ih.of_same_labels (labelIndex_removeEdge key) (naming_of_node?_eq hnode)

/-! ### Nodes by their labels -/

/-- A label finds exactly the nodes that have it. -/
theorem Reachable.mem_nodesWithLabel (h : s.Reachable) {label : String} {n : Node} :
    n ∈ s.nodesWithLabel label ↔ s.node? n.id = some n ∧ n.hasLabel label := by
  have hcount : ∀ id, id ∈ s.labelled label ↔ 0 < s.naming label id := fun id => by
    rw [← h.wellLabelled label id, List.count_pos_iff]
  show n ∈ (s.labelled label).filterMap s.node? ↔ _
  rw [List.mem_filterMap]
  constructor
  · rintro ⟨id, hid, hn⟩
    obtain rfl := h.wellFormed.id_of_node hn
    refine ⟨hn, ?_⟩
    have hpos := (hcount n.id).mp hid
    unfold naming at hpos
    rw [hn] at hpos
    exact List.contains_iff_mem.mpr (List.count_pos_iff.mp hpos)
  · rintro ⟨hn, hlabel⟩
    refine ⟨n.id, (hcount n.id).mpr ?_, hn⟩
    unfold naming
    rw [hn]
    exact List.count_pos_iff.mpr (List.contains_iff_mem.mp hlabel)

/-- Where no node names a label twice a label finds each node once. -/
theorem Reachable.nodup_nodesWithLabel (h : s.Reachable)
    (hlabels : ∀ id n, s.node? id = some n → n.labels.Nodup) (label : String) :
    (s.nodesWithLabel label).Nodup := by
  have hnodup : (s.labelled label).Nodup := by
    rw [List.nodup_iff_count_le_one]
    intro id
    rw [h.wellLabelled label id]
    unfold naming
    cases hn : s.node? id with
    | none => exact Nat.zero_le 1
    | some n => exact List.nodup_iff_count_le_one.mp (hlabels id n hn) label
  refine List.Nodup.filterMap (fun id id' n hid hid' => ?_) hnodup
  rw [← h.wellFormed.id_of_node hid, ← h.wellFormed.id_of_node hid']

end PropertyGraph.Store
