import PropertyGraph.Proofs.Store.Scans
import PropertyGraph.Proofs.Store.Backend

/-!
# Histories of a store

A store comes about by calls that change it (`Operation`), made one after the other on the empty one
(`Operation.runAll`); some of them are refused or find nothing.  `integrity` says what is known of
every store that comes about so, and of every call that is refused in it.
-/

namespace PropertyGraph.Store

/-- A call that may change a store. -/
inductive Operation where
  | addNode (n : Node)
  | updateNode (id : NodeId) (updates : PropertyMap)
  | removeNode (id : NodeId)
  | addEdge (e : Edge)
  | updateEdge (key : EdgeKey) (updates : PropertyMap)
  | removeEdge (key : EdgeKey)

namespace Operation

/-- Makes the call.  It answers whether it changed the store, or fails. -/
def call : Operation → Access Store Bool
  | .addNode n => do backend.addNode n; return true
  | .updateNode id updates => do backend.updateNode id updates; return true
  | .removeNode id => backend.removeNode id
  | .addEdge e => do backend.addEdge e; return true
  | .updateEdge key updates => do backend.updateEdge key updates; return true
  | .removeEdge key => backend.removeEdge key

/-- Makes some calls one after the other, whatever they answer. -/
def runAll (ops : List Operation) (s : Store) : Store :=
  ops.foldl (fun s op => (op.call.perform s).2) s

end Operation

variable {s : Store}

/-! ### One call -/

/-- A write changes the store as it says, or fails and leaves the store as it was. -/
theorem perform_write_true (change : Store → Except Error Store) (s : Store) :
    (∃ s', change s = .ok s' ∧
        (do write change; return true : Access Store Bool).perform s = (.ok true, s')) ∨
      ∃ e, (do write change; return true : Access Store Bool).perform s = (.error e, s) := by
  cases h : change s with
  | ok s' => exact Or.inl ⟨s', rfl, Access.perform_bind_ok (perform_write_ok h)⟩
  | error e => exact Or.inr ⟨e, Access.perform_bind_error (perform_write_error h)⟩

/-- A call that fails, or answers that it found nothing, leaves the store as it was. -/
theorem Operation.perform_refused (op : Operation) (h : (op.call.perform s).1 ≠ .ok true) :
    (op.call.perform s).2 = s := by
  have hwrite : ∀ change : Store → Except Error Store,
      ((do write change; return true : Access Store Bool).perform s).1 ≠ .ok true →
        ((do write change; return true : Access Store Bool).perform s).2 = s := by
    intro change h
    rcases perform_write_true change s with ⟨s', -, hrun⟩ | ⟨e, hrun⟩
    · rw [hrun] at h
      exact absurd rfl h
    · rw [hrun]
  cases op with
  | addNode n => exact hwrite _ h
  | updateNode id updates => exact hwrite _ h
  | addEdge e => exact hwrite _ h
  | updateEdge key updates => exact hwrite _ h
  | removeNode id =>
    have hfalse : (s.removeNode id).1 = false := by
      cases hfound : (s.removeNode id).1 with
      | false => rfl
      | true => exact absurd (congrArg Except.ok hfound) h
    exact eq_of_removeNode_eq_false (Prod.ext hfalse rfl)
  | removeEdge key =>
    have hfalse : (s.removeEdge key).1 = false := by
      cases hfound : (s.removeEdge key).1 with
      | false => rfl
      | true => exact absurd (congrArg Except.ok hfound) h
    exact eq_of_removeEdge_eq_false (Prod.ext hfalse rfl)

/-- A call leads from a reachable store to a reachable store. -/
theorem Reachable.perform (hs : s.Reachable) (op : Operation) :
    (op.call.perform s).2.Reachable := by
  have hwrite : ∀ change : Store → Except Error Store,
      (∀ {s'}, change s = .ok s' → s'.Reachable) →
        ((do write change; return true : Access Store Bool).perform s).2.Reachable := by
    intro change h
    rcases perform_write_true change s with ⟨s', hs', hrun⟩ | ⟨e, hrun⟩
    · rw [hrun]
      exact h hs'
    · rw [hrun]
      exact hs
  cases op with
  | addNode n => exact hwrite _ hs.addNode
  | updateNode id updates => exact hwrite _ hs.updateNode
  | addEdge e => exact hwrite _ hs.addEdge
  | updateEdge key updates => exact hwrite _ hs.updateEdge
  | removeNode id => exact hs.removeNode id
  | removeEdge key => exact hs.removeEdge key

/-! ### Many calls -/

theorem Reachable.runAll (hs : s.Reachable) (ops : List Operation) :
    (Operation.runAll ops s).Reachable := by
  induction ops generalizing s with
  | nil => exact hs
  | cons op rest ih => exact ih (hs.perform op)

/-- **Integrity of a store.**  Let any calls be made on the empty store, refused ones included.  The
nodes of a stored edge are stored.  Elements are found under their own names.  The edges listed at a
node are the stored edges that touch it, each once, and none at a node that is not stored.  Going
through the edges that leave each node lists the same edges as the store lists by itself: all that are
stored, each once.  A call that fails or answers `false` leaves the store as it was, and with it all
later answers. -/
theorem integrity (ops : List Operation) :
    let s := Operation.runAll ops empty
    (∀ k e, s.edge? k = some e → (s.node? e.source).isSome ∧ (s.node? e.target).isSome) ∧
      (∀ id n, s.node? id = some n → n.id = id) ∧
      (∀ k e, s.edge? k = some e → e.key = k) ∧
      (∀ id, ((s.edgesAt id).map Edge.key).Nodup ∧
        (∀ e, e ∈ s.edgesAt id ↔ s.edge? e.key = some e ∧ e.touches id) ∧
        (s.node? id = none → s.edgesAt id = [])) ∧
      ((s.allEdges.map Edge.key).Nodup ∧ (∀ e, e ∈ s.allEdges ↔ s.edge? e.key = some e) ∧
        ∃ edges, s.scanView.allEdges = .ok edges ∧ edges.Perm s.allEdges) ∧
      ∀ op : Operation, (op.call.perform s).1 ≠ .ok true → (op.call.perform s).2 = s := by
  intro s
  have hs : s.WellFormed := (Reachable.empty.runAll ops).wellFormed
  refine ⟨fun k e he => ?_, fun _ _ => hs.id_of_node, fun _ _ => hs.key_of_edge, fun id => ?_,
    ⟨hs.nodup_keys, fun _ => hs.mem_allEdges, s.leaving, s.scanView_allEdges, hs.leaving_perm⟩,
    fun op => op.perform_refused⟩
  · obtain rfl := hs.key_of_edge he
    have hstored := Option.isSome_of_eq_some he
    exact ⟨hs.source_stored hstored, hs.target_stored hstored⟩
  · refine ⟨hs.nodup_keys_edgesAt id, fun e => ?_, hs.edgesAt_absent⟩
    rw [Edge.touches_iff]
    exact hs.mem_edgesAt

end PropertyGraph.Store
