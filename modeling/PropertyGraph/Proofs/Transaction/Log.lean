import PropertyGraph.Proofs.Store.Backend
import PropertyGraph.Transaction.Lifecycle

/-!
# What a log keeps and what it does

`Mutation.kept` is the rollback data of a mutation as a function of the store that it was asked for
on; `capture_kept` says that this is what a transaction captures, whatever its log.

`Mutation.Changes` is what a mutation does to a store, and `Applied` what a list of entries does one
after the other.  `applyFrom_spec` says that applying a log to a backend that keeps a store gets
through a part of the log from its start, and has the effect of that part.
-/

namespace PropertyGraph

variable {σ α β : Type} {store : σ → Store} {steady : σ → Prop} {b : Backend σ}

/-! ### What is captured -/

/-- The rollback data of a mutation that is asked for on a store. -/
def Mutation.kept (s : Store) : Mutation → RollbackData
  | .addNode _ | .addEdge _ => .nothing
  | .removeNode id =>
    match s.node? id with
    | some n => .removedNode n (s.edgesAt id)
    | none => .createdInTransaction
  | .updateNode id updates =>
    match s.node? id with
    | some n => .previousProperties (RollbackData.previousValues n.properties updates)
    | none => .createdInTransaction
  | .removeEdge key =>
    match s.edge? key with
    | some e => .removedEdge e
    | none => .createdInTransaction
  | .updateEdge key updates =>
    match s.edge? key with
    | some e => .previousProperties (RollbackData.previousValues e.properties updates)
    | none => .createdInTransaction

namespace RollbackData

/-- Of an element that is not there nothing but its creation by the log can be captured. -/
theorem perform_created (created : Bool) (fault : Error) (s : σ) :
    ((if created then return .createdInTransaction else throw fault :
        Access σ RollbackData).perform s).2 = s ∧
      ∀ rollback, ((if created then return .createdInTransaction else throw fault :
          Access σ RollbackData).perform s).1 = .ok rollback → rollback = .createdInTransaction := by
  cases created with
  | true => exact ⟨rfl, fun rollback h => (Except.ok.inj h).symm⟩
  | false => exact ⟨rfl, fun rollback h => by cases h⟩

theorem perform_ofNode (hb : b.Keeps store steady) (log : List LogEntry) (id : NodeId)
    {kept : Node → Access σ RollbackData} (s : σ) :
    (ofNode b log id kept).perform s
      = match (store s).node? id with
        | some n => (kept n).perform s
        | none => (if LogEntry.createsNode log id then return .createdInTransaction
            else throw (.notFound (.mutatedNode id)) : Access σ RollbackData).perform s := by
  unfold ofNode
  rw [Access.perform_bind_ok (hb.node? id s)]
  cases (store s).node? id with
  | some n => rfl
  | none => rfl

theorem perform_ofEdge (hb : b.Keeps store steady) (log : List LogEntry) (key : EdgeKey)
    {kept : Edge → RollbackData} (s : σ) :
    (ofEdge b log key kept).perform s
      = match (store s).edge? key with
        | some e => (.ok (kept e), s)
        | none => (if LogEntry.createsEdge log key then return .createdInTransaction
            else throw (.notFound (.mutatedEdge key)) : Access σ RollbackData).perform s := by
  unfold ofEdge
  rw [Access.perform_bind_ok (hb.edge? key s)]
  cases (store s).edge? key with
  | some e => rfl
  | none => rfl

/-- What is captured depends on the store alone, and capturing it changes nothing. -/
theorem capture_kept (hb : b.Keeps store steady) (log : List LogEntry) (m : Mutation) (s : σ) :
    ((capture b log m).perform s).2 = s ∧
      ∀ rollback, ((capture b log m).perform s).1 = .ok rollback →
        rollback = m.kept (store s) := by
  cases m with
  | addNode n => exact ⟨rfl, fun rollback h => (Except.ok.inj h).symm⟩
  | addEdge e => exact ⟨rfl, fun rollback h => (Except.ok.inj h).symm⟩
  | removeNode id =>
    simp only [capture, perform_ofNode hb, Mutation.kept]
    cases (store s).node? id with
    | some n =>
      dsimp only
      rw [Access.perform_bind_ok (hb.edgesAt id s)]
      exact ⟨rfl, fun rollback h => (Except.ok.inj h).symm⟩
    | none => exact perform_created _ _ s
  | updateNode id updates =>
    simp only [capture, perform_ofNode hb, Mutation.kept]
    cases (store s).node? id with
    | some n => exact ⟨rfl, fun rollback h => (Except.ok.inj h).symm⟩
    | none => exact perform_created _ _ s
  | removeEdge key =>
    simp only [capture, perform_ofEdge hb, Mutation.kept]
    cases (store s).edge? key with
    | some e => exact ⟨rfl, fun rollback h => (Except.ok.inj h).symm⟩
    | none => exact perform_created _ _ s
  | updateEdge key updates =>
    simp only [capture, perform_ofEdge hb, Mutation.kept]
    cases (store s).edge? key with
    | some e => exact ⟨rfl, fun rollback h => (Except.ok.inj h).symm⟩
    | none => exact perform_created _ _ s

end RollbackData

/-! ### What a mutation does -/

namespace Mutation

/-- The mutation can be made on a store and leaves another one behind. -/
def Changes : Mutation → Store → Store → Prop
  | .addNode n, s, s' => s.addNode n = .ok s'
  | .removeNode id, s, s' => s.removeNode id = (true, s')
  | .updateNode id updates, s, s' => s.updateNode id updates = .ok s'
  | .addEdge e, s, s' => s.addEdge e = .ok s'
  | .removeEdge key, s, s' => s.removeEdge key = (true, s')
  | .updateEdge key updates, s, s' => s.updateEdge key updates = .ok s'

theorem perform_write (change : Store → Except Error Store) (s : Store) :
    (∃ s', (Store.write change).perform s = (.ok (), s') ∧ change s = .ok s') ∨
      ∃ e, (Store.write change).perform s = (.error e, s) := by
  cases hs : change s with
  | ok s' => exact Or.inl ⟨s', Store.perform_write_ok hs, rfl⟩
  | error e => exact Or.inr ⟨e, Store.perform_write_error hs⟩

/-- A mutation of a store makes its change or fails and leaves the store as it was. -/
theorem perform_apply (m : Mutation) (s : Store) :
    (∃ s', (m.apply Store.backend).perform s = (.ok (), s') ∧ m.Changes s s') ∨
      ∃ e, (m.apply Store.backend).perform s = (.error e, s) := by
  cases m with
  | addNode n => exact perform_write _ s
  | updateNode id updates => exact perform_write _ s
  | addEdge e => exact perform_write _ s
  | updateEdge key updates => exact perform_write _ s
  | removeNode id =>
    have hrun : (Store.backend.removeNode id).perform s
        = (.ok (s.removeNode id).1, (s.removeNode id).2) := rfl
    simp only [apply, Changes]
    rw [Access.perform_bind_ok hrun]
    rcases h : s.removeNode id with ⟨_ | _, s'⟩
    · obtain rfl := Store.eq_of_removeNode_eq_false h
      exact Or.inr ⟨_, rfl⟩
    · exact Or.inl ⟨s', rfl, rfl⟩
  | removeEdge key =>
    have hrun : (Store.backend.removeEdge key).perform s
        = (.ok (s.removeEdge key).1, (s.removeEdge key).2) := rfl
    simp only [apply, Changes]
    rw [Access.perform_bind_ok hrun]
    rcases h : s.removeEdge key with ⟨_ | _, s'⟩
    · obtain rfl := Store.eq_of_removeEdge_eq_false h
      exact Or.inr ⟨_, rfl⟩
    · exact Or.inl ⟨s', rfl, rfl⟩

/-- Failing where nothing was found only looks at the answer of a call. -/
theorem follows_requireFound {call : Access σ Bool} {ideal : Access Store Bool} (fault : Error)
    (h : Follows store steady call ideal) :
    Follows store steady (call >>= fun found => if found then pure () else throw fault)
      (ideal >>= fun found => if found then pure () else throw fault) := by
  intro s
  obtain ⟨hsteady, ⟨hanswer, hstore⟩ | ⟨hunsteady, ⟨e, he⟩, hstore⟩⟩ := h s
  · cases hideal : (ideal.perform (store s)).1 with
    | error e =>
      rw [Access.perform_bind_error (Prod.ext (hanswer.trans hideal) rfl),
        Access.perform_bind_error (Prod.ext hideal rfl)]
      exact ⟨hsteady, Or.inl ⟨rfl, hstore⟩⟩
    | ok found =>
      rw [Access.perform_bind_ok (Prod.ext (hanswer.trans hideal) rfl),
        Access.perform_bind_ok (Prod.ext hideal rfl)]
      cases found with
      | false => exact ⟨hsteady, Or.inl ⟨rfl, hstore⟩⟩
      | true => exact ⟨hsteady, Or.inl ⟨rfl, hstore⟩⟩
  · rw [Access.perform_bind_error (Prod.ext he rfl)]
    exact ⟨hsteady, Or.inr ⟨hunsteady, ⟨e, rfl⟩, hstore⟩⟩

theorem apply_follows (hb : b.Keeps store steady) (m : Mutation) :
    Follows store steady (m.apply b) (m.apply Store.backend) := by
  cases m with
  | addNode n => exact hb.addNode n
  | updateNode id updates => exact hb.updateNode id updates
  | addEdge e => exact hb.addEdge e
  | updateEdge key updates => exact hb.updateEdge key updates
  | removeNode id => exact follows_requireFound _ (hb.removeNode id)
  | removeEdge key => exact follows_requireFound _ (hb.removeEdge key)

end Mutation

/-! ### What is there behind a mutation -/

variable {s s' : Store}

/-- Additions and updates keep the property. -/
structure Store.KeptByGrowth (P : Store → Prop) : Prop where
  addNode : ∀ {n s s'}, P s → s.addNode n = .ok s' → P s'
  updateNode : ∀ {id updates s s'}, P s → s.updateNode id updates = .ok s' → P s'
  addEdge : ∀ {e s s'}, P s → s.addEdge e = .ok s' → P s'
  updateEdge : ∀ {key updates s s'}, P s → s.updateEdge key updates = .ok s' → P s'

/-- A mutation keeps what additions and updates keep, if it keeps it as a removal as well. -/
theorem Mutation.Changes.preserves {P : Store → Prop} (hP : Store.KeptByGrowth P) {m : Mutation}
    (h : m.Changes s s') (hs : P s) (hnode : ∀ id, m = .removeNode id → P (s.removeNode id).2)
    (hedge : ∀ key, m = .removeEdge key → P (s.removeEdge key).2) : P s' := by
  cases m with
  | addNode n => exact hP.addNode hs h
  | updateNode id updates => exact hP.updateNode hs h
  | addEdge e => exact hP.addEdge hs h
  | updateEdge key updates => exact hP.updateEdge hs h
  | removeNode id =>
    have hremoved := hnode id rfl
    rwa [show s.removeNode id = (true, s') from h] at hremoved
  | removeEdge key =>
    have hremoved := hedge key rfl
    rwa [show s.removeEdge key = (true, s') from h] at hremoved

theorem Store.keptByGrowth_wellFormed : Store.KeptByGrowth Store.WellFormed where
  addNode hs hadd := hs.addNode hadd
  updateNode hs hupd := hs.updateNode hupd
  addEdge hs hadd := hs.addEdge hadd
  updateEdge hs hupd := hs.updateEdge hupd

theorem Mutation.Changes.wellFormed {m : Mutation} (h : m.Changes s s') (hs : s.WellFormed) :
    s'.WellFormed :=
  h.preserves Store.keptByGrowth_wellFormed hs (fun id _ => hs.removeNode id)
    fun key _ => hs.removeEdge key

/-- The nodes behind a mutation: it created them, or they were there before it, as they are now or
with other values of the properties that it updates. -/
theorem Mutation.Changes.node? {m : Mutation} (h : m.Changes s s') (hs : s.WellFormed)
    {id : NodeId} {n : Node} (hn : s'.node? id = some n) :
    m.createdNode? = some id ∨ s.node? id = some n ∨
      ∃ n' updates, m = .updateNode id updates ∧ s.node? id = some n' ∧
        n = { n' with properties := n'.properties.merge updates } := by
  cases m with
  | addNode n' =>
    obtain ⟨-, hnode, -⟩ := Store.addNode_spec h
    rw [hnode, Function.update_apply] at hn
    split_ifs at hn with heq
    · exact Or.inl (heq ▸ rfl)
    · exact Or.inr (Or.inl hn)
  | updateNode id' updates =>
    obtain ⟨n', hn', hnode, -⟩ := Store.updateNode_spec h
    rw [hnode, Function.update_apply] at hn
    split_ifs at hn with heq
    · subst heq
      exact Or.inr (Or.inr ⟨n', updates, rfl, hn', (Option.some.inj hn).symm⟩)
    · exact Or.inr (Or.inl hn)
  | addEdge e =>
    obtain ⟨-, -, -, hnode, -⟩ := Store.addEdge_spec h
    exact Or.inr (Or.inl (hnode ▸ hn))
  | updateEdge key updates =>
    obtain ⟨e, -, hnode, -⟩ := Store.updateEdge_spec h
    exact Or.inr (Or.inl (hnode ▸ hn))
  | removeNode id' =>
    obtain ⟨-, hnode, -⟩ := hs.removeNode_spec id'
    rw [show s.removeNode id' = (true, s') from h] at hnode
    rw [hnode, Function.update_apply] at hn
    split_ifs at hn
    exact Or.inr (Or.inl hn)
  | removeEdge key =>
    obtain ⟨-, hnode, -⟩ := hs.removeEdge_spec key
    rw [show s.removeEdge key = (true, s') from h] at hnode
    exact Or.inr (Or.inl (hnode ▸ hn))

theorem Mutation.Changes.edge? {m : Mutation} (h : m.Changes s s') (hs : s.WellFormed)
    {key : EdgeKey} {e : Edge} (he : s'.edge? key = some e) :
    m.createdEdge? = some key ∨ s.edge? key = some e ∨
      ∃ e' updates, m = .updateEdge key updates ∧ s.edge? key = some e' ∧
        e = { e' with properties := e'.properties.merge updates } := by
  cases m with
  | addNode n =>
    obtain ⟨-, -, hedge, -⟩ := Store.addNode_spec h
    exact Or.inr (Or.inl (hedge ▸ he))
  | updateNode id updates =>
    obtain ⟨n, -, -, hedge, -⟩ := Store.updateNode_spec h
    exact Or.inr (Or.inl (hedge ▸ he))
  | addEdge e' =>
    obtain ⟨-, -, -, -, hedge, -⟩ := Store.addEdge_spec h
    rw [hedge, Function.update_apply] at he
    split_ifs at he with heq
    · exact Or.inl (heq ▸ rfl)
    · exact Or.inr (Or.inl he)
  | updateEdge key' updates =>
    obtain ⟨e', he', -, hedge, -⟩ := Store.updateEdge_spec h
    rw [hedge, Function.update_apply] at he
    split_ifs at he with heq
    · subst heq
      exact Or.inr (Or.inr ⟨e', updates, rfl, he', (Option.some.inj he).symm⟩)
    · exact Or.inr (Or.inl he)
  | removeNode id =>
    obtain ⟨-, -, hedge, -⟩ := hs.removeNode_spec id
    rw [show s.removeNode id = (true, s') from h] at hedge
    rw [hedge] at he
    dsimp only at he
    split_ifs at he
    exact Or.inr (Or.inl he)
  | removeEdge key' =>
    obtain ⟨-, -, hedge, -⟩ := hs.removeEdge_spec key'
    rw [show s.removeEdge key' = (true, s') from h] at hedge
    rw [hedge, Function.update_apply] at he
    split_ifs at he
    exact Or.inr (Or.inl he)

/-! ### Applying a log -/

/-- The store behind a list of entries that were applied one after the other. -/
inductive Applied (s₀ : Store) : List LogEntry → Store → Prop where
  | nil : Applied s₀ [] s₀
  | snoc {done : List LogEntry} {entry : LogEntry} {s s' : Store} :
    Applied s₀ done s → entry.mutation.Changes s s' → Applied s₀ (done ++ [entry]) s'

/-- Each entry keeps a property of the store, and so do all of them. -/
theorem Applied.preserves {P : Store → Prop} {s₀ s : Store} {done : List LogEntry}
    (h : Applied s₀ done s) (hs₀ : P s₀)
    (hstep : ∀ entry ∈ done, ∀ s s', P s → entry.mutation.Changes s s' → P s') : P s := by
  induction h with
  | nil => exact hs₀
  | @snoc done entry s s' _ hchange ih =>
    refine hstep entry (List.mem_append_right _ List.mem_cons_self) s s' (ih ?_) hchange
    exact fun entry hmem => hstep entry (List.mem_append_left _ hmem)

theorem Applied.wellFormed {s₀ s : Store} {done : List LogEntry} (h : Applied s₀ done s)
    (hs : s₀.WellFormed) : s.WellFormed :=
  h.preserves hs fun _ _ _ _ hs hchange => hchange.wellFormed hs

/-- Applying a log stops behind some of its first entries, and these are what was applied.  Whatever
stopped it names the place. -/
theorem Transaction.applyFrom_spec (hb : b.Keeps store steady) {s₀ : Store} (rest : List LogEntry)
    {done : List LogEntry} {s : σ} (hdone : Applied s₀ done (store s)) :
    let outcome := applyFrom b done.length rest s
    (steady s → steady outcome.2.2) ∧ outcome.2.1 ≤ (done ++ rest).length ∧
      Applied s₀ ((done ++ rest).take outcome.2.1) (store outcome.2.2) ∧
      ∀ fault, outcome.1 = some fault → outcome.2.1 < (done ++ rest).length ∧
        ∃ operation cause, fault = .mutationFailed outcome.2.1 operation cause := by
  -- entries go from the front of `rest` to the end of `done`
  induction rest generalizing done s with
  | nil =>
    simp only [applyFrom, List.append_nil, List.take_length]
    exact ⟨fun hs => hs, Nat.le_refl _, hdone, fun fault h => by cases h⟩
  | cons entry rest ih =>
    obtain ⟨hsteady, hcases⟩ := Mutation.apply_follows hb entry.mutation s
    rcases hrun : (entry.mutation.apply b).perform s with ⟨e | a, s'⟩
    · rw [hrun] at hsteady hcases
      -- whether the store or its backend refused, the store is as it was
      have hsame : store s' = store s := by
        rcases hcases with ⟨hanswer, hstore⟩ | ⟨-, -, hstore⟩
        · rcases entry.mutation.perform_apply (store s) with ⟨t, ht, -⟩ | ⟨e', ht⟩
          · rw [ht] at hanswer; cases hanswer
          · rw [ht] at hstore; exact hstore
        · exact hstore
      simp only [applyFrom, hrun]
      refine ⟨hsteady, by simp, ?_, fun fault h => ⟨by simp, _, _, (Option.some.inj h).symm⟩⟩
      rw [List.take_left, hsame]
      exact hdone
    · rw [hrun] at hsteady hcases
      have hchange : entry.mutation.Changes (store s) (store s') := by
        rcases hcases with ⟨hanswer, hstore⟩ | ⟨-, ⟨e, he⟩, -⟩
        · rcases entry.mutation.perform_apply (store s) with ⟨t, ht, hchange⟩ | ⟨e', ht⟩
          · rw [ht] at hstore; rw [show store s' = t from hstore]; exact hchange
          · rw [ht] at hanswer; cases hanswer
        · cases he
      have := ih (@Applied.snoc s₀ done entry _ _ hdone hchange)
      simp only [applyFrom, hrun]
      rw [List.length_append, List.length_singleton, List.append_assoc] at this
      exact ⟨fun hs => this.1 (hsteady hs), this.2⟩

end PropertyGraph
