import PropertyGraph.Proofs.Transaction.Recovery

/-!
# Undoing a log

`undo_settles` is the step: undoing the last of the applied entries turns a store that is
recoverable with that entry into one that is recoverable without it, and where a write of it is
refused the store is still recoverable with the entry.  `Transaction.undoEach_spec` is the run over
all applied entries.

An entry that removed a node is undone by several writes.  Each puts back an element of the first
store, so none of them can make the store less recoverable (`Recoverable.addNode`,
`Recoverable.addEdge`).
-/

namespace PropertyGraph

open LogEntry (createsNode createsEdge ChangesNode ChangesEdge createsNode_snoc createsEdge_snoc
  changesNode_snoc changesEdge_snoc)

variable {σ : Type} {store : σ → Store} {steady : σ → Prop} {b : Backend σ}
variable {s₀ s s' u : Store} {done : List LogEntry} {entry : LogEntry}

/-! ### Entries that do not concern an element -/

theorem Node.AgreesOff.init {id : NodeId} {n n₀ : Node}
    (h : Node.AgreesOff (ChangesNode (done ++ [entry]) id) n n₀)
    (hupdate : ∀ updates, entry.mutation ≠ .updateNode id updates) :
    Node.AgreesOff (ChangesNode done id) n n₀ := by
  refine h.mono fun key hc => (changesNode_snoc.mp hc).resolve_right ?_
  rintro ⟨updates, heq, -⟩
  exact hupdate updates heq

theorem Edge.AgreesOff.init {edge : EdgeKey} {e e₀ : Edge}
    (h : Edge.AgreesOff (ChangesEdge (done ++ [entry]) edge) e e₀)
    (hupdate : ∀ updates, entry.mutation ≠ .updateEdge edge updates) :
    Edge.AgreesOff (ChangesEdge done edge) e e₀ := by
  refine h.mono fun key hc => (changesEdge_snoc.mp hc).resolve_right ?_
  rintro ⟨updates, heq, -⟩
  exact hupdate updates heq

theorem createsNode_init {id : NodeId} (h : createsNode (done ++ [entry]) id)
    (hcreate : entry.mutation.createdNode? = none) : createsNode done id := by
  refine ((createsNode_snoc id).mp h).resolve_right ?_
  rw [hcreate]
  exact fun heq => by cases heq

theorem createsEdge_init {key : EdgeKey} (h : createsEdge (done ++ [entry]) key)
    (hcreate : entry.mutation.createdEdge? = none) : createsEdge done key := by
  refine ((createsEdge_snoc key).mp h).resolve_right ?_
  rw [hcreate]
  exact fun heq => by cases heq

/-- An entry that creates and updates no node is not seen in the nodes. -/
theorem Recovers.nodes_init {forward current : NodeId → Option Node}
    (h : Recovers s₀.node? forward current (fun id => createsNode (done ++ [entry]) id)
      fun id => Node.AgreesOff (ChangesNode (done ++ [entry]) id))
    (hcreate : entry.mutation.createdNode? = none)
    (hupdate : ∀ id updates, entry.mutation ≠ .updateNode id updates) :
    Recovers s₀.node? forward current (fun id => createsNode done id)
      fun id => Node.AgreesOff (ChangesNode done id) :=
  h.mono (fun _ hm => createsNode_init hm hcreate) fun ha => ha.init (hupdate _)

/-- An entry that creates and updates no edge is not seen in the edges. -/
theorem Recovers.edges_init {forward current : EdgeKey → Option Edge}
    (h : Recovers s₀.edge? forward current (fun key => createsEdge (done ++ [entry]) key)
      fun key => Edge.AgreesOff (ChangesEdge (done ++ [entry]) key))
    (hcreate : entry.mutation.createdEdge? = none)
    (hupdate : ∀ key updates, entry.mutation ≠ .updateEdge key updates) :
    Recovers s₀.edge? forward current (fun key => createsEdge done key)
      fun key => Edge.AgreesOff (ChangesEdge done key) :=
  h.mono (fun _ hm => createsEdge_init hm hcreate) fun ha => ha.init (hupdate _)

/-! ### The lookups that are undone, spelled out -/

theorem Recoverable.nodes_of_eq {forward : NodeId → Option Node} (h : Recoverable s₀ done s u)
    (hnode : s.node? = forward) :
    Recovers s₀.node? forward u.node? (fun id => createsNode done id)
      fun id => Node.AgreesOff (ChangesNode done id) :=
  hnode ▸ h.nodes

theorem Recoverable.edges_of_eq {forward : EdgeKey → Option Edge} (h : Recoverable s₀ done s u)
    (hedge : s.edge? = forward) :
    Recovers s₀.edge? forward u.edge? (fun key => createsEdge done key)
      fun key => Edge.AgreesOff (ChangesEdge done key) :=
  hedge ▸ h.edges

/-! ### Creations -/

theorem Recoverable.undo_addNode {n : Node}
    (hs : s.WellFormed) (hadd : s.addNode n = .ok s') (hentry : entry.mutation = .addNode n)
    (hu : Recoverable s₀ (done ++ [entry]) s' u) :
    Recoverable s₀ done s (u.removeNode n.id).2 := by
  obtain ⟨hfree, hnode, hedge, -⟩ := Store.addNode_spec hadd
  obtain ⟨-, hnode', hedge', -⟩ := hu.wellFormed.removeNode_spec n.id
  have hnodes := hu.nodes_of_eq hnode
  have hedges := hu.edges_of_eq hedge
  refine ⟨hu.wellFormed.removeNode n.id, ?_, ?_⟩
  · rw [hnode']
    refine (hnodes.mono (fun _ hm => hm) fun ha => ha.init (by rw [hentry]; simp)).unmake hfree
      fun id hm => ?_
    rcases (createsNode_snoc id).mp hm with hm | hm
    · exact Or.inr hm
    · rw [hentry] at hm
      exact Or.inl (Option.some.inj hm).symm
  · rw [hedge']
    refine (hedges.edges_init (by rw [hentry]; rfl) (by rw [hentry]; simp)).shrink fun k => ?_
    by_cases htouch : k.Touches n.id
    · -- the new node was touched by no edge
      refine Or.inr ⟨if_pos htouch, ?_⟩
      rw [← Option.not_isSome_iff_eq_none]
      intro hk
      have := hs.node_stored hk htouch
      rw [hfree] at this
      cases this
    · exact Or.inl (if_neg htouch)

theorem Recoverable.undo_addEdge {e : Edge} (hadd : s.addEdge e = .ok s')
    (hentry : entry.mutation = .addEdge e) (hu : Recoverable s₀ (done ++ [entry]) s' u) :
    Recoverable s₀ done s (u.removeEdge e.key).2 := by
  obtain ⟨-, -, hfree, hnode, hedge, -⟩ := Store.addEdge_spec hadd
  obtain ⟨-, hnode', hedge', -⟩ := hu.wellFormed.removeEdge_spec e.key
  have hnodes := hu.nodes_of_eq hnode
  have hedges := hu.edges_of_eq hedge
  refine ⟨hu.wellFormed.removeEdge e.key, ?_, ?_⟩
  · rw [hnode']
    exact hnodes.nodes_init (by rw [hentry]; rfl) (by rw [hentry]; simp)
  · rw [hedge']
    refine (hedges.mono (fun _ hm => hm) fun ha => ha.init (by rw [hentry]; simp)).unmake hfree
      fun key hm => ?_
    rcases (createsEdge_snoc key).mp hm with hm | hm
    · exact Or.inr hm
    · rw [hentry] at hm
      exact Or.inl (Option.some.inj hm).symm

/-! ### Updates -/

theorem updateNode_ne {id id' : NodeId} {updates : PropertyMap}
    (hentry : entry.mutation = .updateNode id updates) (hne : id' ≠ id) :
    ∀ updates', entry.mutation ≠ .updateNode id' updates' := by
  intro updates' heq
  rw [hentry] at heq
  cases heq
  exact hne rfl

theorem updateEdge_ne {edge edge' : EdgeKey} {updates : PropertyMap}
    (hentry : entry.mutation = .updateEdge edge updates) (hne : edge' ≠ edge) :
    ∀ updates', entry.mutation ≠ .updateEdge edge' updates' := by
  intro updates' heq
  rw [hentry] at heq
  cases heq
  exact hne rfl

/-- A property that a log changes with an update, it changes before the update or the update names
it. -/
theorem changesNode_init {id : NodeId} {updates : PropertyMap} {key : String}
    (hentry : entry.mutation = .updateNode id updates) (h : ChangesNode (done ++ [entry]) id key) :
    ChangesNode done id key ∨ key ∈ updates.keys := by
  refine (changesNode_snoc.mp h).imp_right ?_
  rintro ⟨updates', heq, hmem⟩
  rw [hentry] at heq
  cases heq
  exact hmem

theorem changesEdge_init {edge : EdgeKey} {updates : PropertyMap} {key : String}
    (hentry : entry.mutation = .updateEdge edge updates)
    (h : ChangesEdge (done ++ [entry]) edge key) :
    ChangesEdge done edge key ∨ key ∈ updates.keys := by
  refine (changesEdge_snoc.mp h).imp_right ?_
  rintro ⟨updates', heq, hmem⟩
  rw [hentry] at heq
  cases heq
  exact hmem

theorem Recoverable.undo_updateNode {id : NodeId} {updates : PropertyMap} {n₀ : Node}
    (hnull : s₀.NullFree) (hupd : s.updateNode id updates = .ok s')
    (hentry : entry.mutation = .updateNode id updates) (horig : s₀.node? id = some n₀)
    (hu : Recoverable s₀ (done ++ [entry]) s' u) :
    ∃ u', u.updateNode id (RollbackData.previousValues n₀.properties updates) = .ok u' ∧
      Recoverable s₀ done s u' := by
  obtain ⟨n, hn, hnode, hedge, -⟩ := Store.updateNode_spec hupd
  have hnodes := hu.nodes_of_eq hnode
  have hedges := hu.edges_of_eq hedge
  have hthere : (u.node? id).isSome :=
    hnodes.kept (Option.isSome_of_eq_some horig) (by rw [Function.update_self]; rfl)
  obtain ⟨u', hu'⟩ := Store.exists_updateNode
    (RollbackData.previousValues n₀.properties updates) hthere
  obtain ⟨m, hm, hnode', hedge', -⟩ := Store.updateNode_spec hu'
  refine ⟨u', hu', hu.wellFormed.updateNode hu', ?_, ?_⟩
  · rw [hnode']
    have hnodes' := hnodes.mono (fun _ hm => createsNode_init hm (by rw [hentry]; rfl))
      fun ha => ha
    refine hnodes'.unchange horig hm (Option.isSome_of_eq_some hn)
      (fun hne ha => ha.init (updateNode_ne hentry hne)) fun ha => ⟨ha.id, ha.labels, ?_⟩
    -- the values that are written back are those of `s₀`, where no property was null
    exact ha.properties.merge_previousValues (hnull.nodes horig) fun key hc =>
      changesNode_init hentry hc
  · rw [hedge']
    exact hedges.edges_init (by rw [hentry]; rfl) (by rw [hentry]; simp)

theorem Recoverable.undo_updateEdge {edge : EdgeKey} {updates : PropertyMap} {e₀ : Edge}
    (hnull : s₀.NullFree) (hupd : s.updateEdge edge updates = .ok s')
    (hentry : entry.mutation = .updateEdge edge updates) (horig : s₀.edge? edge = some e₀)
    (hu : Recoverable s₀ (done ++ [entry]) s' u) :
    ∃ u', u.updateEdge edge (RollbackData.previousValues e₀.properties updates) = .ok u' ∧
      Recoverable s₀ done s u' := by
  obtain ⟨e, he, hnode, hedge, -⟩ := Store.updateEdge_spec hupd
  have hnodes := hu.nodes_of_eq hnode
  have hedges := hu.edges_of_eq hedge
  have hthere : (u.edge? edge).isSome :=
    hedges.kept (Option.isSome_of_eq_some horig) (by rw [Function.update_self]; rfl)
  obtain ⟨u', hu'⟩ := Store.exists_updateEdge
    (RollbackData.previousValues e₀.properties updates) hthere
  obtain ⟨m, hm, hnode', hedge', -⟩ := Store.updateEdge_spec hu'
  refine ⟨u', hu', hu.wellFormed.updateEdge hu', ?_, ?_⟩
  · rw [hnode']
    exact hnodes.nodes_init (by rw [hentry]; rfl) (by rw [hentry]; simp)
  · rw [hedge']
    have hedges' := hedges.mono (fun _ hm => createsEdge_init hm (by rw [hentry]; rfl))
      fun ha => ha
    refine hedges'.unchange horig hm (Option.isSome_of_eq_some he)
      (fun hne ha => ha.init (updateEdge_ne hentry hne))
      fun ha => ⟨ha.source, ha.target, ha.label, ?_⟩
    exact ha.properties.merge_previousValues (hnull.edges horig) fun key hc =>
      changesEdge_init hentry hc

/-! ### Changes of what the transaction created -/

theorem Recoverable.skip_updateNode {id : NodeId} {updates : PropertyMap}
    (hupd : s.updateNode id updates = .ok s') (hentry : entry.mutation = .updateNode id updates)
    (hnew : s₀.node? id = none) (hu : Recoverable s₀ (done ++ [entry]) s' u) :
    Recoverable s₀ done s u := by
  obtain ⟨n, hn, hnode, hedge, -⟩ := Store.updateNode_spec hupd
  have hnodes := hu.nodes_of_eq hnode
  have hedges := hu.edges_of_eq hedge
  refine ⟨hu.wellFormed, ?_, hedges.edges_init (by rw [hentry]; rfl) (by rw [hentry]; simp)⟩
  have hnodes' := hnodes.mono (fun _ hm => createsNode_init hm (by rw [hentry]; rfl))
      fun ha => ha
  exact hnodes'.unchange_new hnew (Option.isSome_of_eq_some hn)
    fun hne ha => ha.init (updateNode_ne hentry hne)

theorem Recoverable.skip_updateEdge {edge : EdgeKey} {updates : PropertyMap}
    (hupd : s.updateEdge edge updates = .ok s') (hentry : entry.mutation = .updateEdge edge updates)
    (hnew : s₀.edge? edge = none) (hu : Recoverable s₀ (done ++ [entry]) s' u) :
    Recoverable s₀ done s u := by
  obtain ⟨e, he, hnode, hedge, -⟩ := Store.updateEdge_spec hupd
  have hnodes := hu.nodes_of_eq hnode
  have hedges := hu.edges_of_eq hedge
  refine ⟨hu.wellFormed, hnodes.nodes_init (by rw [hentry]; rfl) (by rw [hentry]; simp), ?_⟩
  have hedges' := hedges.mono (fun _ hm => createsEdge_init hm (by rw [hentry]; rfl))
      fun ha => ha
  exact hedges'.unchange_new hnew (Option.isSome_of_eq_some he)
    fun hne ha => ha.init (updateEdge_ne hentry hne)

/-! ### Removals -/

/-- A removed edge is undone where it is there again, if it was there before the transaction. -/
theorem Recoverable.undo_removeEdge {key : EdgeKey} (hs : s.WellFormed)
    (hrem : s.removeEdge key = (true, s')) (hentry : entry.mutation = .removeEdge key)
    (hback : (s₀.edge? key).isSome → (s.edge? key).isSome → (u.edge? key).isSome)
    (hu : Recoverable s₀ (done ++ [entry]) s' u) : Recoverable s₀ done s u := by
  obtain ⟨-, hnode, hedge, -⟩ := hs.removeEdge_spec key
  rw [hrem] at hnode hedge
  have hnodes := hu.nodes_of_eq hnode
  have hedges := hu.edges_of_eq hedge
  refine ⟨hu.wellFormed, hnodes.nodes_init (by rw [hentry]; rfl) (by rw [hentry]; simp), ?_⟩
  refine (hedges.edges_init (by rw [hentry]; rfl) (by rw [hentry]; simp)).unremove
    (fun k => ?_) fun {k} hk hf hnone => ?_
  · rw [Function.update_apply]
    split_ifs
    · exact Or.inr rfl
    · exact Or.inl rfl
  · rw [Function.update_apply] at hnone
    split_ifs at hnone with heq
    · subst heq
      exact hback hk hf
    · rw [hnone] at hf
      cases hf

/-- A removed node is undone where it is there again, if it was there before the transaction, with
those edges at it that were there before the transaction and have both of their nodes. -/
theorem Recoverable.undo_removeNode {id : NodeId} (hs₀ : s₀.WellFormed) (hs : s.WellFormed)
    (hrem : s.removeNode id = (true, s')) (hentry : entry.mutation = .removeNode id)
    (hback : (s₀.node? id).isSome → (u.node? id).isSome)
    (hedgesBack : ∀ e ∈ s₀.edgesAt id, (u.node? e.source).isSome → (u.node? e.target).isSome →
      (u.edge? e.key).isSome)
    (hu : Recoverable s₀ (done ++ [entry]) s' u) : Recoverable s₀ done s u := by
  obtain ⟨-, hnode, hedge, -⟩ := hs.removeNode_spec id
  rw [hrem] at hnode hedge
  have hnodes := hu.nodes_of_eq hnode
  have hedges := hu.edges_of_eq hedge
  have hnodes' := (hnodes.nodes_init (by rw [hentry]; rfl) (by rw [hentry]; simp)).unremove
    (fun k => by
      rw [Function.update_apply]
      split_ifs
      · exact Or.inr rfl
      · exact Or.inl rfl)
    (fun {k} hk hf hnone => by
      rw [Function.update_apply] at hnone
      split_ifs at hnone with heq
      · subst heq
        exact hback hk
      · rw [hnone] at hf
        cases hf)
  refine ⟨hu.wellFormed, hnodes', ?_⟩
  refine (hedges.edges_init (by rw [hentry]; rfl) (by rw [hentry]; simp)).unremove
    (fun k => ?_) fun {k} hk hf hnone => ?_
  · split_ifs
    · exact Or.inr rfl
    · exact Or.inl rfl
  · split_ifs at hnone with htouch
    · -- both nodes of the edge were there, before the transaction and before the removal
      obtain ⟨e, he⟩ := Option.isSome_iff_exists.mp hk
      obtain rfl := hs₀.key_of_edge he
      exact hedgesBack e (hs₀.mem_edgesAt.mpr ⟨he, htouch⟩)
        (hnodes'.kept (hs₀.source_stored hk) (hs.source_stored hf))
        (hnodes'.kept (hs₀.target_stored hk) (hs.target_stored hf))
    · rw [hnone] at hf
      cases hf

/-! ### Putting back -/

/-- The edge is there if both of its nodes are. -/
def Store.HasBetweenNodes (u : Store) (e : Edge) : Prop :=
  (u.node? e.source).isSome → (u.node? e.target).isSome → (u.edge? e.key).isSome

theorem Store.HasBetweenNodes.addEdge {u u' : Store} {e e' : Edge} (h : u.HasBetweenNodes e)
    (hadd : u.addEdge e' = .ok u') : u'.HasBetweenNodes e := by
  obtain ⟨-, -, -, hnode, hedge, -⟩ := Store.addEdge_spec hadd
  intro hsource htarget
  rw [hnode] at hsource htarget
  rw [hedge, Function.update_apply]
  split_ifs
  · rfl
  · exact h hsource htarget

section PutBack

variable {P : Store → Prop} {v : σ}

theorem restoreNode_settles (hb : b.Keeps store steady) {n : Node}
    (hadd : ∀ u u', P u → u.addNode n = .ok u' → P u') (hv : P (store v)) :
    Settles store steady P (fun u => P u ∧ (u.node? n.id).isSome)
      (LogEntry.restoreNode b n) v := by
  unfold LogEntry.restoreNode
  refine Settles.read_node hb ?_
  by_cases hfree : ((store v).node? n.id).isNone
  · rw [if_pos hfree]
    obtain ⟨u', hu'⟩ := Store.exists_addNode (Option.isNone_iff_eq_none.mp hfree)
    obtain ⟨-, hnode, -⟩ := Store.addNode_spec hu'
    refine Settles.of_write (hb.addNode n) hv (Store.perform_write_ok hu') ⟨hadd _ _ hv hu', ?_⟩
    rw [hnode, Function.update_self]
    rfl
  · rw [if_neg hfree]
    rw [Bool.not_eq_true, Option.isNone_eq_false_iff] at hfree
    exact Settles.of_pure ⟨hv, hfree⟩

theorem restoreEdge_settles (hb : b.Keeps store steady) {e : Edge}
    (hadd : ∀ u u', P u → u.addEdge e = .ok u' → P u') (hv : P (store v)) :
    Settles store steady P (fun u => P u ∧ u.HasBetweenNodes e)
      (LogEntry.restoreEdge b e) v := by
  unfold LogEntry.restoreEdge
  refine Settles.read_node hb ?_
  by_cases hsource : ((store v).node? e.source).isSome
  · rw [if_pos hsource]
    refine Settles.read_node hb ?_
    by_cases htarget : ((store v).node? e.target).isSome
    · rw [if_pos htarget]
      refine Settles.read_edge hb ?_
      by_cases hfree : ((store v).edge? e.key).isNone
      · rw [if_pos hfree]
        obtain ⟨u', hu'⟩ :=
          Store.exists_addEdge hsource htarget (Option.isNone_iff_eq_none.mp hfree)
        obtain ⟨-, -, -, -, hedge, -⟩ := Store.addEdge_spec hu'
        refine Settles.of_write (hb.addEdge e) hv (Store.perform_write_ok hu')
          ⟨hadd _ _ hv hu', fun _ _ => ?_⟩
        rw [hedge, Function.update_self]
        rfl
      · rw [if_neg hfree]
        rw [Bool.not_eq_true, Option.isNone_eq_false_iff] at hfree
        exact Settles.of_pure ⟨hv, fun _ _ => hfree⟩
    · rw [if_neg htarget]
      exact Settles.of_pure ⟨hv, fun _ h => absurd h htarget⟩
  · rw [if_neg hsource]
    exact Settles.of_pure ⟨hv, fun h => absurd h hsource⟩

theorem restoreEdges_settles (hb : b.Keeps store steady) {edges : List Edge}
    (hadd : ∀ e ∈ edges, ∀ u u', P u → u.addEdge e = .ok u' → P u') (hv : P (store v)) :
    Settles store steady P (fun u => P u ∧ ∀ e ∈ edges, u.HasBetweenNodes e)
      (LogEntry.restoreEdges b edges) v := by
  induction edges generalizing P v with
  | nil => exact Settles.of_pure ⟨hv, fun e he => (List.not_mem_nil he).elim⟩
  | cons e rest ih =>
    unfold LogEntry.restoreEdges
    refine (restoreEdge_settles hb (hadd e List.mem_cons_self) hv).andThen fun _ v' hv' => ?_
    -- the edge just put back stays while the others are
    refine (ih (P := fun u => P u ∧ u.HasBetweenNodes e) (fun e' he' u u' hu hu' => ?_)
      hv').mono (fun u hu => hu.1) fun u hu => ?_
    · exact ⟨hadd e' (List.mem_cons_of_mem e he') u u' hu.1 hu', hu.2.addEdge hu'⟩
    · obtain ⟨⟨hP, hfirst⟩, hrest⟩ := hu
      refine ⟨hP, fun e' he' => ?_⟩
      rcases List.mem_cons.mp he' with rfl | he'
      · exact hfirst
      · exact hrest e' he'

end PutBack

theorem Recoverable.addNode {n : Node} (h : Recoverable s₀ done s u)
    (horig : s₀.node? n.id = some n) {u' : Store} (hadd : u.addNode n = .ok u') :
    Recoverable s₀ done s u' := by
  obtain ⟨-, hnode, hedge, -⟩ := Store.addNode_spec hadd
  refine ⟨h.wellFormed.addNode hadd, ?_, hedge ▸ h.edges⟩
  refine h.nodes.restore (fun _ _ => Node.AgreesOff.refl _ _) fun id => ?_
  rw [hnode, Function.update_apply]
  split_ifs with heq
  · exact Or.inr (heq ▸ horig.symm)
  · exact Or.inl rfl

theorem Recoverable.addEdge {e : Edge} (h : Recoverable s₀ done s u)
    (horig : s₀.edge? e.key = some e) {u' : Store} (hadd : u.addEdge e = .ok u') :
    Recoverable s₀ done s u' := by
  obtain ⟨-, -, -, hnode, hedge, -⟩ := Store.addEdge_spec hadd
  refine ⟨h.wellFormed.addEdge hadd, hnode ▸ h.nodes, ?_⟩
  refine h.edges.restore (fun _ _ => Edge.AgreesOff.refl _ _) fun key => ?_
  rw [hedge, Function.update_apply]
  split_ifs with heq
  · exact Or.inr (heq ▸ horig.symm)
  · exact Or.inl rfl

/-! ### Undoing an entry -/

theorem perform_removeNode (u : Store) (id : NodeId) :
    (Store.backend.removeNode id).perform u = (.ok (u.removeNode id).1, (u.removeNode id).2) := rfl

theorem perform_removeEdge (u : Store) (key : EdgeKey) :
    (Store.backend.removeEdge key).perform u = (.ok (u.removeEdge key).1, (u.removeEdge key).2) :=
  rfl

/-- **Step of an undoing**: undoing the last applied entry leaves a store that is recoverable
without it, or, where a write of it is refused, one that is still recoverable with it. -/
theorem undo_settles (hb : b.Keeps store steady) (hs₀ : s₀.WellFormed) (hnull : s₀.NullFree)
    (hs : s.WellFormed) (hchange : entry.mutation.Changes s s')
    (hkept : entry.rollback = entry.mutation.kept s₀) {v : σ}
    (hv : Recoverable s₀ (done ++ [entry]) s' (store v)) :
    Settles store steady (Recoverable s₀ (done ++ [entry]) s') (Recoverable s₀ done s)
      (entry.undo b) v := by
  obtain ⟨mutation, rollback⟩ := entry
  dsimp only at hkept
  subst hkept
  unfold LogEntry.undo
  cases mutation with
  | addNode n =>
    refine Settles.andThen (Settles.of_write (hb.removeNode n.id) hv (perform_removeNode _ _) ?_)
      fun _ v' hv' => Settles.of_pure hv'
    exact hv.undo_addNode hs hchange rfl
  | addEdge e =>
    refine Settles.andThen (Settles.of_write (hb.removeEdge e.key) hv (perform_removeEdge _ _) ?_)
      fun _ v' hv' => Settles.of_pure hv'
    exact hv.undo_addEdge hchange rfl
  | updateNode id updates =>
    simp only [Mutation.kept] at hv ⊢
    cases horig : s₀.node? id with
    | none =>
      -- the transaction created the node, and undoing that will remove it
      rw [horig] at hv
      exact Settles.of_pure (hv.skip_updateNode hchange rfl horig)
    | some n₀ =>
      rw [horig] at hv
      obtain ⟨u', hu', hgoal⟩ := hv.undo_updateNode hnull hchange rfl horig
      exact Settles.of_write (hb.updateNode id _) hv (Store.perform_write_ok hu') hgoal
  | updateEdge key updates =>
    simp only [Mutation.kept] at hv ⊢
    cases horig : s₀.edge? key with
    | none =>
      rw [horig] at hv
      exact Settles.of_pure (hv.skip_updateEdge hchange rfl horig)
    | some e₀ =>
      rw [horig] at hv
      obtain ⟨u', hu', hgoal⟩ := hv.undo_updateEdge hnull hchange rfl horig
      exact Settles.of_write (hb.updateEdge key _) hv (Store.perform_write_ok hu') hgoal
  | removeEdge key =>
    simp only [Mutation.kept] at hv ⊢
    cases horig : s₀.edge? key with
    | none =>
      rw [horig] at hv
      refine Settles.of_pure (hv.undo_removeEdge hs hchange rfl fun hsome => ?_)
      rw [horig] at hsome
      cases hsome
    | some e₀ =>
      rw [horig] at hv
      obtain rfl := hs₀.key_of_edge horig
      refine (restoreEdge_settles hb (fun u u' hu hadd => hu.addEdge horig hadd) hv).mono
        (fun u hu => hu) fun u hu => hu.1.undo_removeEdge hs hchange rfl fun h₀ hk => ?_
      obtain ⟨-, hnode, -⟩ := hs.removeEdge_spec e₀.key
      rw [show s.removeEdge e₀.key = (true, s') from hchange] at hnode
      have hnodes := hu.1.nodes_of_eq hnode
      exact hu.2 (hnodes.kept (hs₀.source_stored h₀) (hs.source_stored hk))
        (hnodes.kept (hs₀.target_stored h₀) (hs.target_stored hk))
  | removeNode id =>
    simp only [Mutation.kept] at hv ⊢
    cases horig : s₀.node? id with
    | none =>
      rw [horig] at hv
      refine Settles.of_pure (hv.undo_removeNode hs₀ hs hchange rfl (fun hsome => ?_)
        fun e he => ?_)
      · rw [horig] at hsome
        cases hsome
      · -- no edge touches a node that is not there
        obtain ⟨hstored, htouch⟩ := hs₀.mem_edgesAt.mp he
        have := hs₀.node_stored (Option.isSome_of_eq_some hstored) htouch
        rw [horig] at this
        cases this
    | some n₀ =>
      rw [horig] at hv
      obtain rfl := hs₀.id_of_node horig
      -- the node first: its edges are put back only where both of their nodes are
      refine (restoreNode_settles hb (fun u u' hu hadd => hu.addNode horig hadd) hv).andThen
        fun _ v' hv' => ?_
      refine (restoreEdges_settles (P := fun u => Recoverable s₀ (done ++ [_]) s' u ∧
        (u.node? n₀.id).isSome) hb (fun e he u u' hu hadd => ?_) hv').mono
        (fun u hu => hu.1) fun u hu => ?_
      · obtain ⟨-, -, -, hnode, -⟩ := Store.addEdge_spec hadd
        exact ⟨hu.1.addEdge (hs₀.mem_edgesAt.mp he).1 hadd, hnode ▸ hu.2⟩
      · exact hu.1.1.undo_removeNode hs₀ hs hchange rfl (fun _ => hu.1.2) hu.2

/-! ### Undoing all entries -/

/-- **Run of an undoing**: undoing all applied entries ends with the elements of the first store, or
it breaks off, at a refused write, where an undoing of the entries that are left can start. -/
theorem Transaction.undoEach_spec (hb : b.Keeps store steady) (hs₀ : s₀.WellFormed)
    (hnull : s₀.NullFree) (hdone : Applied s₀ done s)
    (hkept : ∀ entry ∈ done, entry.rollback = entry.mutation.kept s₀) {v : σ}
    (hv : Recoverable s₀ done s (store v)) :
    let outcome := undoEach b done.reverse v
    (steady v → steady outcome.2.2) ∧
      ((outcome.1 = none ∧ outcome.2.1 = 0 ∧ (store outcome.2.2).SameElements s₀) ∨
        (¬ steady v ∧ (∃ fault, outcome.1 = some fault) ∧
          Revocable s₀ done outcome.2.1 (store outcome.2.2))) := by
  -- entries are undone in the order that takes `Applied` apart, the last one first
  induction hdone generalizing v with
  | nil => exact ⟨fun h => h, Or.inl ⟨rfl, rfl, hv.sameElements⟩⟩
  | @snoc done entry s s' hdone hchange ih =>
    have hlast : entry ∈ done ++ [entry] := List.mem_append_right _ List.mem_cons_self
    obtain ⟨hsteady, hcases⟩ := undo_settles hb hs₀ hnull (hdone.wellFormed hs₀) hchange
      (hkept entry hlast) hv
    rw [List.reverse_append, List.reverse_singleton, List.singleton_append]
    rcases hcases with ⟨⟨_, hok⟩, hrec⟩ | ⟨hunsteady, ⟨cause, herr⟩, hrec⟩
    · -- the last entry is undone, and those before it are undone from there
      have hrun : (entry.undo b).perform v = (.ok (), ((entry.undo b).perform v).2) :=
        Prod.ext hok rfl
      unfold undoEach
      rw [hrun]
      obtain ⟨ihsteady, ihcases⟩ :=
        ih (fun e he => hkept e (List.mem_append_left _ he)) hrec
      refine ⟨fun h => ihsteady (hsteady h), ihcases.imp_right ?_⟩
      rintro ⟨hunsteady, hfault, hle, t, happlied, hrec'⟩
      refine ⟨fun h => hunsteady (hsteady h), hfault, ?_⟩
      unfold Revocable
      rw [List.take_append_of_le_length hle]
      exact ⟨Nat.le_trans hle (by simp), t, happlied, hrec'⟩
    · -- undoing the last entry was refused, so it still counts as applied
      have hrun : (entry.undo b).perform v = (.error cause, ((entry.undo b).perform v).2) :=
        Prod.ext herr rfl
      unfold undoEach
      rw [hrun]
      refine ⟨hsteady, Or.inr ⟨hunsteady, ⟨_, rfl⟩, by simp, s', ?_⟩⟩
      have htake : (done ++ [entry]).take (done.reverse.length + 1) = done ++ [entry] := by
        rw [List.length_reverse]
        exact List.take_of_length_le (by simp)
      rw [htake]
      exact ⟨hdone.snoc hchange, hrec⟩

end PropertyGraph
