import PropertyGraph.Proofs.Store.Operations

/-!
# The integrity of a store

`Store.Reachable` says that a store can be had from the empty one by its operations, and
`Store.WellFormed` what holds in all such stores (`Reachable.wellFormed`): elements are stored under
their own names, the nodes of a stored edge are stored, and the keys listed at a node are those of
the stored edges that touch it, each once.

In a well-formed store removing a node removes exactly the edges that touch it (`removeNode_spec`).
-/

namespace PropertyGraph.Store

variable {s s' : Store}

/-! ### The invariant -/

/-- What holds in every store that can be reached. -/
structure WellFormed (s : Store) : Prop where
  id_of_node : ∀ {id n}, s.node? id = some n → n.id = id
  key_of_edge : ∀ {k e}, s.edge? k = some e → e.key = k
  source_stored : ∀ {k}, (s.edge? k).isSome → (s.node? k.source).isSome
  target_stored : ∀ {k}, (s.edge? k).isSome → (s.node? k.target).isSome
  mem_incident : ∀ {k id}, k ∈ s.incident id ↔ (s.edge? k).isSome ∧ k.Touches id
  nodup_incident : ∀ id, (s.incident id).Nodup

theorem wellFormed_empty : empty.WellFormed where
  id_of_node h := by cases h
  key_of_edge h := by cases h
  source_stored h := by cases h
  target_stored h := by cases h
  mem_incident := ⟨fun h => (List.not_mem_nil h).elim, fun h => by cases h.1⟩
  nodup_incident _ := List.nodup_nil

/-- A stored edge has both of its nodes stored. -/
theorem WellFormed.node_stored (h : s.WellFormed) {k : EdgeKey} {id : NodeId}
    (hk : (s.edge? k).isSome) (htouch : k.Touches id) : (s.node? id).isSome := by
  rcases htouch with rfl | rfl
  · exact h.source_stored hk
  · exact h.target_stored hk

/-- The edges at a node are the stored edges that touch it. -/
theorem WellFormed.mem_edgesAt (h : s.WellFormed) {id : NodeId} {e : Edge} :
    e ∈ s.edgesAt id ↔ s.edge? e.key = some e ∧ e.key.Touches id := by
  rw [edgesAt_eq, List.mem_filterMap]
  constructor
  · rintro ⟨k, hk, he⟩
    obtain rfl := h.key_of_edge he
    exact ⟨he, (h.mem_incident.mp hk).2⟩
  · rintro ⟨he, htouch⟩
    exact ⟨e.key, h.mem_incident.mpr ⟨Option.isSome_of_eq_some he, htouch⟩, he⟩

/-! ### What the operations preserve -/

/-- A change of nodes that keeps their ids and loses none of them. -/
theorem WellFormed.of_same_edges (h : s.WellFormed)
    (hid : ∀ {id n}, s'.node? id = some n → n.id = id)
    (hkeep : ∀ {id}, (s.node? id).isSome → (s'.node? id).isSome) (hedge : s'.edge? = s.edge?)
    (hinc : s'.incident = s.incident) : s'.WellFormed where
  id_of_node := hid
  key_of_edge he := h.key_of_edge (hedge ▸ he)
  source_stored hk := hkeep (h.source_stored (hedge ▸ hk))
  target_stored hk := hkeep (h.target_stored (hedge ▸ hk))
  mem_incident := by rw [hinc, hedge]; exact h.mem_incident
  nodup_incident id := by rw [hinc]; exact h.nodup_incident id

theorem isSome_update {κ β : Type} [DecidableEq κ] {f : κ → Option β} {k k' : κ} {x : β}
    (h : (f k').isSome) : (Function.update f k (some x) k').isSome := by
  rw [Function.update_apply]
  split_ifs
  · rfl
  · exact h

theorem WellFormed.addNode (h : s.WellFormed) {n : Node} (hadd : s.addNode n = .ok s') :
    s'.WellFormed := by
  obtain ⟨-, hnode, hedge, hinc⟩ := addNode_spec hadd
  refine h.of_same_edges (fun {id m} hm => ?_) (fun hid => hnode ▸ isSome_update hid) hedge hinc
  rw [hnode, Function.update_apply] at hm
  split_ifs at hm with heq
  · rw [← Option.some.inj hm, heq]
  · exact h.id_of_node hm

theorem WellFormed.updateNode (h : s.WellFormed) {id : NodeId} {updates : PropertyMap}
    (hupd : s.updateNode id updates = .ok s') : s'.WellFormed := by
  obtain ⟨n, hn, hnode, hedge, hinc⟩ := updateNode_spec hupd
  refine h.of_same_edges (fun {id' m} hm => ?_) (fun hid => hnode ▸ isSome_update hid) hedge hinc
  rw [hnode, Function.update_apply] at hm
  split_ifs at hm with heq
  · rw [← Option.some.inj hm, heq]
    exact (h.id_of_node hn :)
  · exact h.id_of_node hm

theorem WellFormed.addEdge (h : s.WellFormed) {e : Edge} (hadd : s.addEdge e = .ok s') :
    s'.WellFormed := by
  obtain ⟨hsource, htarget, hfree, hnode, hedge, hinc⟩ := addEdge_spec hadd
  refine ⟨fun {id m} hm => h.id_of_node (hnode ▸ hm), fun {k e'} he => ?_, fun {k} hk => ?_,
    fun {k} hk => ?_, fun {k id} => ?_, fun id => ?_⟩
  · rw [hedge, Function.update_apply] at he
    split_ifs at he with heq
    · rw [← Option.some.inj he, heq]
    · exact h.key_of_edge he
  · rw [hedge, Function.update_apply] at hk
    rw [hnode]
    split_ifs at hk with heq
    · rw [heq]
      exact hsource
    · exact h.source_stored hk
  · rw [hedge, Function.update_apply] at hk
    rw [hnode]
    split_ifs at hk with heq
    · rw [heq]
      exact htarget
    · exact h.target_stored hk
  · rw [hinc, hedge, Function.update_apply]
    by_cases heq : k = e.key
    · subst heq
      rw [if_pos rfl]
      by_cases htouch : e.key.Touches id
      · simp [htouch]
      · simp [htouch, h.mem_incident]
    · rw [if_neg heq, ← h.mem_incident]
      by_cases htouch : e.key.Touches id
      · simp [htouch, heq]
      · simp [htouch]
  · rw [hinc]
    dsimp only
    split_ifs
    · refine List.Nodup.append (h.nodup_incident id) (List.nodup_singleton _) ?_
      -- the key was free, so no node lists it
      rw [List.disjoint_singleton]
      intro hmem
      rw [h.mem_incident, hfree] at hmem
      cases hmem.1
    · exact h.nodup_incident id

theorem WellFormed.updateEdge (h : s.WellFormed) {key : EdgeKey} {updates : PropertyMap}
    (hupd : s.updateEdge key updates = .ok s') : s'.WellFormed := by
  obtain ⟨e, he, hnode, hedge, hinc⟩ := updateEdge_spec hupd
  have hsame : ∀ {k}, (s'.edge? k).isSome ↔ (s.edge? k).isSome := by
    intro k
    rw [hedge, Function.update_apply]
    split_ifs with heq
    · rw [heq, he]
      simp
    · rfl
  refine ⟨fun {id m} hm => h.id_of_node (hnode ▸ hm), fun {k e'} he' => ?_, fun {k} hk => ?_,
    fun {k} hk => ?_, fun {k id} => ?_, fun id => ?_⟩
  · rw [hedge, Function.update_apply] at he'
    split_ifs at he' with heq
    · rw [← Option.some.inj he', heq]
      exact (h.key_of_edge he :)
    · exact h.key_of_edge he'
  · rw [hnode]
    exact h.source_stored (hsame.mp hk)
  · rw [hnode]
    exact h.target_stored (hsame.mp hk)
  · rw [hinc, hsame]
    exact h.mem_incident
  · rw [hinc]
    exact h.nodup_incident id

/-! ### Removing an edge -/

theorem WellFormed.removeEdge_spec (h : s.WellFormed) (key : EdgeKey) :
    (s.removeEdge key).1 = (s.edge? key).isSome ∧ (s.removeEdge key).2.node? = s.node? ∧
      (s.removeEdge key).2.edge? = Function.update s.edge? key none ∧
      (s.removeEdge key).2.incident = fun id => (s.incident id).filter (· ≠ key) :=
  Store.removeEdge_spec key h.key_of_edge h.mem_incident.mp

theorem WellFormed.removeEdge (h : s.WellFormed) (key : EdgeKey) :
    (s.removeEdge key).2.WellFormed := by
  obtain ⟨-, hnode, hedge, hinc⟩ := h.removeEdge_spec key
  have hold : ∀ {k}, ((s.removeEdge key).2.edge? k).isSome → (s.edge? k).isSome := by
    intro k hk
    rw [hedge, Function.update_apply] at hk
    split_ifs at hk
    · cases hk
    · exact hk
  refine ⟨fun {id m} hm => h.id_of_node (hnode ▸ hm), fun {k e} he => ?_, fun {k} hk => ?_,
    fun {k} hk => ?_, fun {k id} => ?_, fun id => ?_⟩
  · rw [hedge, Function.update_apply] at he
    split_ifs at he
    exact h.key_of_edge he
  · rw [hnode]
    exact h.source_stored (hold hk)
  · rw [hnode]
    exact h.target_stored (hold hk)
  · rw [hinc, hedge, Function.update_apply]
    by_cases heq : k = key
    · simp [heq]
    · simp [heq, h.mem_incident]
  · rw [hinc]
    exact (h.nodup_incident id).filter _

/-! ### Removing a node -/

/-- Removing edges one after the other, in a store whose lists hold no keys of other edges. -/
theorem foldl_removeEdge_spec (keys : List EdgeKey)
    (hkey : ∀ {k e}, s.edge? k = some e → e.key = k)
    (hinc : ∀ {k id}, k ∈ s.incident id → (s.edge? k).isSome ∧ k.Touches id) :
    (keys.foldl (fun s k => (s.removeEdge k).2) s).node? = s.node? ∧
      (keys.foldl (fun s k => (s.removeEdge k).2) s).edge?
        = (fun k => if k ∈ keys then none else s.edge? k) ∧
      (keys.foldl (fun s k => (s.removeEdge k).2) s).incident
        = fun id => (s.incident id).filter (· ∉ keys) := by
  -- only what `removeEdge_spec` asks for is carried along: the store may lack the node whose edges
  -- these are, and is not well formed then
  induction keys generalizing s with
  | nil => exact ⟨rfl, by simp, by simp⟩
  | cons key rest ih =>
    obtain ⟨-, hnode, hedge, hinc'⟩ := Store.removeEdge_spec key hkey hinc
    have hkey' : ∀ {k e}, (s.removeEdge key).2.edge? k = some e → e.key = k := by
      intro k e he
      rw [hedge, Function.update_apply] at he
      split_ifs at he
      exact hkey he
    have hlisted : ∀ {k id}, k ∈ (s.removeEdge key).2.incident id →
        ((s.removeEdge key).2.edge? k).isSome ∧ k.Touches id := by
      intro k id hk
      rw [hinc', List.mem_filter, decide_eq_true_eq] at hk
      rw [hedge, Function.update_apply, if_neg hk.2]
      exact hinc hk.1
    obtain ⟨ihnode, ihedge, ihinc⟩ := ih hkey' hlisted
    refine ⟨by rw [List.foldl_cons, ihnode, hnode], ?_, ?_⟩
    · rw [List.foldl_cons, ihedge]
      funext k
      rw [hedge, Function.update_apply]
      by_cases hk : k = key
      · simp [hk]
      · simp [hk]
    · rw [List.foldl_cons, ihinc]
      funext id
      rw [hinc', List.filter_filter]
      refine List.filter_congr fun k _ => ?_
      simp [Bool.and_comm]

/-- Removing a node from a well-formed store removes the edges that touch it, and no others. -/
theorem WellFormed.removeNode_spec (h : s.WellFormed) (id : NodeId) :
    (s.removeNode id).1 = (s.node? id).isSome ∧
      (s.removeNode id).2.node? = Function.update s.node? id none ∧
      (s.removeNode id).2.edge? = (fun k => if k.Touches id then none else s.edge? k) ∧
      (s.removeNode id).2.incident = fun id' => (s.incident id').filter (¬ ·.Touches id) := by
  have hlisted : ∀ {k}, k ∈ s.incident id ↔ (s.edge? k).isSome ∧ k.Touches id := h.mem_incident
  unfold removeNode
  split
  · next n hn =>
    dsimp only
    set bare : Store := { s with
      nodes := s.nodes.erase id
      incidence := s.incidence.erase id
      labelIndex := n.labels.foldl (fun index label => delist index label id) s.labelIndex }
    have hbare : ∀ id', bare.incident id' = if id' = id then [] else s.incident id' := by
      intro id'
      show ((s.incidence.erase id).find? id').getD [] = _
      rw [SortedMap.find?_erase]
      split_ifs <;> rfl
    obtain ⟨hnode, hedge, hinc⟩ := foldl_removeEdge_spec (s.incident id) (s := bare)
      h.key_of_edge (by
        intro k id' hk
        rw [hbare] at hk
        split_ifs at hk
        · exact (List.not_mem_nil hk).elim
        · exact h.mem_incident.mp hk)
    refine ⟨by rw [hn]; rfl, hnode.trans ?_, hedge.trans ?_, hinc.trans ?_⟩
    · funext id'
      rw [Function.update_apply]
      exact SortedMap.find?_erase _ _ _
    · funext k
      show (if k ∈ s.incident id then none else s.edge? k) = _
      by_cases hk : (s.edge? k).isSome
      · simp only [hlisted, hk, true_and]
      · rw [Option.not_isSome_iff_eq_none] at hk
        rw [hk, ite_self, ite_self]
    · funext id'
      rw [hbare]
      split_ifs with heq
      · subst heq
        rw [List.filter_nil, eq_comm, List.filter_eq_nil_iff]
        intro k hk
        simp [(h.mem_incident.mp hk).2]
      · refine List.filter_congr fun k hk => ?_
        simp [hlisted, (h.mem_incident.mp hk).1]
  · next hnone =>
    -- a node that is not stored is touched by no edge
    have huntouched : ∀ {k}, (s.edge? k).isSome → ¬ k.Touches id := by
      intro k hk htouch
      have := h.node_stored hk htouch
      rw [hnone] at this
      cases this
    refine ⟨by rw [hnone]; rfl, by rw [← hnone, Function.update_eq_self], ?_, ?_⟩
    · funext k
      by_cases hk : (s.edge? k).isSome
      · rw [if_neg (huntouched hk)]
      · rw [Option.not_isSome_iff_eq_none] at hk
        rw [hk, ite_self]
    · funext id'
      refine Eq.symm (List.filter_eq_self.mpr fun k hk => ?_)
      simp [huntouched (h.mem_incident.mp hk).1]

theorem WellFormed.removeNode (h : s.WellFormed) (id : NodeId) :
    (s.removeNode id).2.WellFormed := by
  obtain ⟨-, hnode, hedge, hinc⟩ := h.removeNode_spec id
  have hold : ∀ {k}, ((s.removeNode id).2.edge? k).isSome →
      (s.edge? k).isSome ∧ ¬ k.Touches id := by
    intro k hk
    rw [hedge] at hk
    dsimp only at hk
    split_ifs at hk with htouch
    · cases hk
    · exact ⟨hk, htouch⟩
  refine ⟨fun {id' m} hm => ?_, fun {k e} he => ?_, fun {k} hk => ?_, fun {k} hk => ?_,
    fun {k id'} => ?_, fun id' => ?_⟩
  · rw [hnode, Function.update_apply] at hm
    split_ifs at hm
    exact h.id_of_node hm
  · rw [hedge] at he
    dsimp only at he
    split_ifs at he
    exact h.key_of_edge he
  · obtain ⟨hk, htouch⟩ := hold hk
    rw [hnode, Function.update_of_ne fun heq => htouch (Or.inl heq)]
    exact h.source_stored hk
  · obtain ⟨hk, htouch⟩ := hold hk
    rw [hnode, Function.update_of_ne fun heq => htouch (Or.inr heq)]
    exact h.target_stored hk
  · rw [hinc, hedge]
    by_cases htouch : k.Touches id
    · simp [htouch]
    · simp [htouch, h.mem_incident]
  · rw [hinc]
    exact (h.nodup_incident id').filter _

/-! ### Reachable stores -/

/-- A store that can be had from the empty one by its operations.  One that is refused leaves the
store as it was. -/
inductive Reachable : Store → Prop where
  | empty : Reachable empty
  | addNode {s s' : Store} {n : Node} : Reachable s → s.addNode n = .ok s' → Reachable s'
  | updateNode {s s' : Store} {id : NodeId} {updates : PropertyMap} :
    Reachable s → s.updateNode id updates = .ok s' → Reachable s'
  | removeNode {s : Store} (id : NodeId) : Reachable s → Reachable (s.removeNode id).2
  | addEdge {s s' : Store} {e : Edge} : Reachable s → s.addEdge e = .ok s' → Reachable s'
  | updateEdge {s s' : Store} {key : EdgeKey} {updates : PropertyMap} :
    Reachable s → s.updateEdge key updates = .ok s' → Reachable s'
  | removeEdge {s : Store} (key : EdgeKey) : Reachable s → Reachable (s.removeEdge key).2

/-- **Integrity**: every reachable store is well formed. -/
theorem Reachable.wellFormed (h : s.Reachable) : s.WellFormed := by
  induction h with
  | empty => exact wellFormed_empty
  | addNode _ hadd ih => exact ih.addNode hadd
  | updateNode _ hupd ih => exact ih.updateNode hupd
  | removeNode id _ ih => exact ih.removeNode id
  | addEdge _ hadd ih => exact ih.addEdge hadd
  | updateEdge _ hupd ih => exact ih.updateEdge hupd
  | removeEdge key _ ih => exact ih.removeEdge key

theorem reachable_foldlM {α : Type} {step : Store → α → Except Error Store}
    (hstep : ∀ {s s' x}, s.Reachable → step s x = .ok s' → s'.Reachable) (xs : List α)
    (hs : s.Reachable) (h : xs.foldlM step s = .ok s') : s'.Reachable := by
  induction xs generalizing s with
  | nil =>
    obtain rfl := Except.ok.inj h
    exact hs
  | cons x rest ih =>
    rw [List.foldlM_cons] at h
    cases hx : step s x with
    | error e => rw [hx] at h; cases h
    | ok s₁ => rw [hx] at h; exact ih (hstep hs hx) h

/-- The store of some nodes and edges is reachable. -/
theorem reachable_ofElements {nodes : List Node} {edges : List Edge}
    (h : ofElements nodes edges = .ok s) : s.Reachable := by
  unfold ofElements at h
  cases hn : nodes.foldlM Store.addNode empty with
  | error e => rw [hn] at h; cases h
  | ok s₁ =>
    rw [hn] at h
    exact reachable_foldlM .addEdge edges (reachable_foldlM .addNode nodes .empty hn) h

/-! ### A small store -/

def pairNodes : List Node := [⟨"a", ["Person"], .empty⟩, ⟨"b", [], .empty⟩]

def pairEdges : List Edge := [⟨"a", "b", "knows", .ofList [("since", .int 1999)]⟩]

/-- Two nodes and an edge between them. -/
def pair : Store := (ofElements pairNodes pairEdges).toOption.getD empty

theorem reachable_pair : pair.Reachable :=
  reachable_ofElements (show ofElements pairNodes pairEdges = .ok pair from rfl)

end PropertyGraph.Store
