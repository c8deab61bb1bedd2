import PropertyGraph.Proofs.Transaction.Log

/-!
# What a rolled back commit keeps

A commit that fails and is rolled back changes the store by the entries that were applied and by
undoing them (`commit_undone`).  Undoing makes additions and updates, and removes what the entries
created.  So what the changes of the entries and these steps keep is kept by both in sequence
(`undoEach_applied_preserves`).
-/

namespace PropertyGraph

variable {σ α β : Type} {b : Backend σ}

/-! ### Calls that keep a property -/

/-- The call keeps a property of the state. -/
def Access.Preserves (P : σ → Prop) (call : Access σ α) : Prop := ∀ s, P s → P (call.perform s).2

namespace Access.Preserves

variable {P : σ → Prop}

theorem of_read {call : Access σ α} (h : ∀ s, (call.perform s).2 = s) : Preserves P call :=
  fun s hs => (h s).symm ▸ hs

theorem andThen {x : Access σ α} {f : α → Access σ β} (hx : Preserves P x)
    (hf : ∀ a, Preserves P (f a)) : Preserves P (x >>= f) := by
  intro s hs
  have hfirst := hx s hs
  rw [Access.perform_bind]
  rcases hrun : x.perform s with ⟨e | a, s'⟩
  · rw [hrun] at hfirst
    exact hfirst
  · rw [hrun] at hfirst
    exact hf a s' hfirst

theorem of_write {P : Store → Prop} {change : Store → Except Error Store}
    (h : ∀ s s', P s → change s = .ok s' → P s') : Preserves P (Store.write change) := by
  intro s hs
  rcases Mutation.perform_write change s with ⟨s', hrun, hchange⟩ | ⟨e, hrun⟩
  · rw [hrun]
    exact h s s' hs hchange
  · rw [hrun]
    exact hs

end Access.Preserves

/-! ### Undoing -/

variable {P : Store → Prop}

/-- Removing what the mutation creates keeps the property. -/
structure Mutation.RemovedKeeping (P : Store → Prop) (m : Mutation) : Prop where
  node : ∀ {id s}, m.createdNode? = some id → P s → P (s.removeNode id).2
  edge : ∀ {key s}, m.createdEdge? = some key → P s → P (s.removeEdge key).2

namespace LogEntry

open Access (Preserves)

theorem restoreNode_preserves (hP : Store.KeptByGrowth P) (n : Node) :
    Preserves P (restoreNode Store.backend n) := by
  refine Preserves.andThen (Preserves.of_read fun _ => rfl) fun found => ?_
  split_ifs
  · exact Preserves.of_write fun _ _ hs => hP.addNode hs
  · exact Preserves.of_read fun _ => rfl

theorem restoreEdge_preserves (hP : Store.KeptByGrowth P) (e : Edge) :
    Preserves P (restoreEdge Store.backend e) := by
  refine Preserves.andThen (Preserves.of_read fun _ => rfl) fun source => ?_
  split_ifs
  · refine Preserves.andThen (Preserves.of_read fun _ => rfl) fun target => ?_
    split_ifs
    · refine Preserves.andThen (Preserves.of_read fun _ => rfl) fun found => ?_
      split_ifs
      · exact Preserves.of_write fun _ _ hs => hP.addEdge hs
      · exact Preserves.of_read fun _ => rfl
    · exact Preserves.of_read fun _ => rfl
  · exact Preserves.of_read fun _ => rfl

theorem restoreEdges_preserves (hP : Store.KeptByGrowth P) (edges : List Edge) :
    Preserves P (restoreEdges Store.backend edges) := by
  induction edges with
  | nil => exact Preserves.of_read fun _ => rfl
  | cons e rest ih => exact (restoreEdge_preserves hP e).andThen fun _ => ih

/-- **Step of an undoing**: it adds, updates and removes what the entry created. -/
theorem undo_preserves (hP : Store.KeptByGrowth P) {entry : LogEntry}
    (hcreated : entry.mutation.RemovedKeeping P) : Preserves P (entry.undo Store.backend) := by
  obtain ⟨m, rollback⟩ := entry
  unfold undo
  dsimp only
  -- by what is undone, in the order of the definition; the last case is rollback data that does not fit
  split
  · exact Preserves.of_read fun _ => rfl
  · have hremove : Preserves P (Store.backend.removeNode _) := fun s hs => hcreated.node rfl hs
    exact hremove.andThen fun _ => Preserves.of_read fun _ => rfl
  · have hremove : Preserves P (Store.backend.removeEdge _) := fun s hs => hcreated.edge rfl hs
    exact hremove.andThen fun _ => Preserves.of_read fun _ => rfl
  · exact (restoreNode_preserves hP _).andThen fun _ => restoreEdges_preserves hP _
  · exact restoreEdge_preserves hP _
  · exact Preserves.of_write fun _ _ hs => hP.updateNode hs
  · exact Preserves.of_write fun _ _ hs => hP.updateEdge hs
  · exact Preserves.of_read fun _ => rfl

end LogEntry

namespace Transaction

/-- **Run of an undoing**: it keeps what undoing each entry keeps. -/
theorem undoEach_preserves {P : σ → Prop} {entries : List LogEntry}
    (h : ∀ entry ∈ entries, Access.Preserves P (entry.undo b)) {v : σ} (hv : P v) :
    P (undoEach b entries v).2.2 := by
  induction entries generalizing v with
  | nil => exact hv
  | cons entry rest ih =>
    obtain ⟨hentry, hrest⟩ := List.forall_mem_cons.mp h
    have hnext := hentry v hv
    unfold undoEach
    rcases hrun : (entry.undo b).perform v with ⟨e | u, v'⟩
    · rw [hrun] at hnext
      exact hnext
    · rw [hrun] at hnext
      exact ih hrest hnext

/-- Applying entries and undoing them keeps what both keep. -/
theorem undoEach_applied_preserves (hP : Store.KeptByGrowth P) {s₀ s : Store} {done : List LogEntry}
    (h : Applied s₀ done s) (hs₀ : P s₀)
    (hstep : ∀ entry ∈ done, ∀ s s', P s → entry.mutation.Changes s s' → P s')
    (hcreated : ∀ entry ∈ done, entry.mutation.RemovedKeeping P) :
    P (undoEach Store.backend done.reverse s).2.2 := by
  refine undoEach_preserves (fun entry hmem => ?_) (h.preserves hs₀ hstep)
  exact LogEntry.undo_preserves hP (hcreated entry (List.mem_reverse.mp hmem))

theorem revoke_store (t : Transaction) (reason : RollbackReason) (v : σ) :
    (t.revoke b reason v).2.2 = (undoEach b (t.log.take t.applied).reverse v).2.2 := by
  unfold revoke
  rcases undoEach b (t.log.take t.applied).reverse v with ⟨_ | fault, remaining, v'⟩
  · rfl
  · rfl

theorem afterFailure_store {t : Transaction} (hauto : t.config.autoRollback = true) (v : σ) :
    (t.afterFailure b v).2 = (undoEach b (t.log.take t.applied).reverse v).2.2 := by
  unfold afterFailure
  rw [if_pos hauto]
  exact t.revoke_store .commitFailed v

/-- A commit that fails and is rolled back at once leaves what undoing the applied entries leaves. -/
theorem commit_undone {t t' : Transaction} {v v' : σ} {fault : Error}
    (hpending : t.requirePending = .ok ()) (hauto : t.config.autoRollback = true)
    (h : t.commit b v = (.error fault, t', v')) :
    ∃ place w, applyFrom b 0 t.log v = (some fault, place, w) ∧
      v' = (undoEach b (t.log.take place).reverse w).2.2 := by
  unfold commit at h
  rw [hpending] at h
  dsimp only at h
  rcases hrun : applyFrom b 0 t.log v with ⟨_ | fault', place, w⟩
  · rw [hrun] at h
    cases h
  · rw [hrun] at h
    obtain ⟨hanswer, hafter⟩ := Prod.mk.inj h
    obtain rfl := Except.error.inj hanswer
    have hstore : v' = (afterFailure b
        ({ { t with deadline := none } with applied := place }.recordError fault') w).2 :=
      (congrArg Prod.snd hafter).symm
    refine ⟨place, w, rfl, hstore.trans ?_⟩
    rw [afterFailure_store]
    · rfl
    · exact hauto

end Transaction

end PropertyGraph
