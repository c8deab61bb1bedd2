import PropertyGraph.Proofs.Store.Integrity
import PropertyGraph.Transaction.Mutation

/-!
# Backends that keep a store

`Backend.Keeps` describes a backend by the store that it keeps: reading tells what the store holds,
and a write does what the store does, or it is refused without effect.  A state may be known to be
steady, which means that it refuses no write any more.

The store is such a backend itself (`Store.backend_keeps`), and so is the store that refuses some of
its writes (`UnreliableStore.backend_keeps`).  `Settles` is how a call that changes the store in
several writes is reasoned about: it reaches its goal or breaks off where it can be repeated.
-/

namespace PropertyGraph

variable {σ α β : Type}

/-! ### Calls in sequence -/

namespace Access

theorem perform_bind (x : Access σ α) (f : α → Access σ β) (s : σ) :
    (x >>= f).perform s
      = match x.perform s with
        | (.ok a, s') => (f a).perform s'
        | (.error e, s') => (.error e, s') := by
  show (ExceptT.bind x f) s = _
  unfold ExceptT.bind ExceptT.mk perform
  show (match x s with | (a, s') => ExceptT.bindCont f a s') = _
  rcases x s with ⟨_ | a, s'⟩
  · rfl
  · rfl

theorem perform_bind_ok {x : Access σ α} {f : α → Access σ β} {s s' : σ} {a : α}
    (h : x.perform s = (.ok a, s')) : (x >>= f).perform s = (f a).perform s' := by
  rw [perform_bind, h]

theorem perform_bind_error {x : Access σ α} {f : α → Access σ β} {s s' : σ} {e : Error}
    (h : x.perform s = (.error e, s')) : (x >>= f).perform s = (.error e, s') := by
  rw [perform_bind, h]

end Access

theorem Store.perform_write_ok {change : Store → Except Error Store} {s s' : Store}
    (h : change s = .ok s') : (write change).perform s = (.ok (), s') := by
  unfold write Access.perform
  dsimp only
  rw [h]

theorem Store.perform_write_error {change : Store → Except Error Store} {s : Store} {e : Error}
    (h : change s = .error e) : (write change).perform s = (.error e, s) := by
  unfold write Access.perform
  dsimp only
  rw [h]

/-! ### Backends -/

/-- A call follows a call on the store that is kept: it answers alike and leaves the same store
behind, or it is refused, by a state that is not steady, and changes nothing in the store. -/
def Follows (store : σ → Store) (steady : σ → Prop) (call : Access σ α)
    (ideal : Access Store α) : Prop :=
  ∀ s, (steady s → steady (call.perform s).2) ∧
    (((call.perform s).1 = (ideal.perform (store s)).1 ∧
        store (call.perform s).2 = (ideal.perform (store s)).2) ∨
      (¬ steady s ∧ (∃ e, (call.perform s).1 = .error e) ∧ store (call.perform s).2 = store s))

/-- A backend that keeps a store. -/
structure Backend.Keeps (b : Backend σ) (store : σ → Store) (steady : σ → Prop) : Prop where
  node? : ∀ id s, (b.node? id).perform s = (.ok ((store s).node? id), s)
  edge? : ∀ key s, (b.edge? key).perform s = (.ok ((store s).edge? key), s)
  edgesAt : ∀ id s, (b.edgesAt id).perform s = (.ok ((store s).edgesAt id), s)
  addNode : ∀ n, Follows store steady (b.addNode n) (Store.backend.addNode n)
  updateNode : ∀ id updates,
    Follows store steady (b.updateNode id updates) (Store.backend.updateNode id updates)
  removeNode : ∀ id, Follows store steady (b.removeNode id) (Store.backend.removeNode id)
  addEdge : ∀ e, Follows store steady (b.addEdge e) (Store.backend.addEdge e)
  updateEdge : ∀ key updates,
    Follows store steady (b.updateEdge key updates) (Store.backend.updateEdge key updates)
  removeEdge : ∀ key, Follows store steady (b.removeEdge key) (Store.backend.removeEdge key)

/-- The store keeps itself and is always steady. -/
theorem Store.backend_keeps : Store.backend.Keeps id fun _ => True where
  node? _ _ := rfl
  edge? _ _ := rfl
  edgesAt _ _ := rfl
  addNode _ _ := ⟨fun _ => trivial, Or.inl ⟨rfl, rfl⟩⟩
  updateNode _ _ _ := ⟨fun _ => trivial, Or.inl ⟨rfl, rfl⟩⟩
  removeNode _ _ := ⟨fun _ => trivial, Or.inl ⟨rfl, rfl⟩⟩
  addEdge _ _ := ⟨fun _ => trivial, Or.inl ⟨rfl, rfl⟩⟩
  updateEdge _ _ _ := ⟨fun _ => trivial, Or.inl ⟨rfl, rfl⟩⟩
  removeEdge _ _ := ⟨fun _ => trivial, Or.inl ⟨rfl, rfl⟩⟩

namespace UnreliableStore

/-- No write to come is refused. -/
def IsSteady (s : UnreliableStore) : Prop := true ∉ s.refusals

theorem write_follows (kind : WriteKind) (call : Access Store α) :
    Follows UnreliableStore.store IsSteady (write kind call) call := by
  intro s
  obtain ⟨store, refusals⟩ := s
  match refusals with
  | [] => exact ⟨fun h => h, Or.inl ⟨rfl, rfl⟩⟩
  | false :: rest => exact ⟨fun h hrest => h (List.mem_cons_of_mem _ hrest), Or.inl ⟨rfl, rfl⟩⟩
  | true :: rest =>
    have hnot : ¬ IsSteady ⟨store, true :: rest⟩ := fun h => h List.mem_cons_self
    exact ⟨fun h => absurd h hnot, Or.inr ⟨hnot, ⟨_, rfl⟩, rfl⟩⟩

theorem backend_keeps : backend.Keeps UnreliableStore.store IsSteady where
  node? _ _ := rfl
  edge? _ _ := rfl
  edgesAt _ _ := rfl
  addNode _ := write_follows _ _
  updateNode _ _ := write_follows _ _
  removeNode _ := write_follows _ _
  addEdge _ := write_follows _ _
  updateEdge _ _ := write_follows _ _
  removeEdge _ := write_follows _ _

end UnreliableStore

/-! ### Calls that can be repeated -/

/-- From a state a call brings the store to its goal, or it is refused half way and leaves a store
for which `resumable` holds.  It is not refused where the state is steady. -/
def Settles (store : σ → Store) (steady : σ → Prop) (resumable goal : Store → Prop)
    (call : Access σ α) (s : σ) : Prop :=
  (steady s → steady (call.perform s).2) ∧
    (((∃ a, (call.perform s).1 = .ok a) ∧ goal (store (call.perform s).2)) ∨
      (¬ steady s ∧ (∃ e, (call.perform s).1 = .error e) ∧
        resumable (store (call.perform s).2)))

namespace Settles

variable {store : σ → Store} {steady : σ → Prop} {resumable goal middle : Store → Prop}
variable {b : Backend σ} {s : σ}

theorem of_pure {a : α} (h : goal (store s)) :
    Settles store steady resumable goal (pure a : Access σ α) s :=
  ⟨fun hs => hs, Or.inl ⟨⟨a, rfl⟩, h⟩⟩

theorem mono {x : Access σ α} {resumable' goal' : Store → Prop}
    (h : Settles store steady resumable goal x s) (hres : ∀ u, resumable u → resumable' u)
    (hgoal : ∀ u, goal u → goal' u) : Settles store steady resumable' goal' x s :=
  ⟨h.1, h.2.imp (fun hok => ⟨hok.1, hgoal _ hok.2⟩)
    fun hfail => ⟨hfail.1, hfail.2.1, hres _ hfail.2.2⟩⟩

theorem andThen {x : Access σ α} {f : α → Access σ β}
    (hx : Settles store steady resumable middle x s)
    (hf : ∀ a s', middle (store s') → Settles store steady resumable goal (f a) s') :
    Settles store steady resumable goal (x >>= f) s := by
  obtain ⟨hsteady, ⟨⟨a, ha⟩, hmiddle⟩ | ⟨hunsteady, ⟨e, he⟩, hres⟩⟩ := hx
  · have hrun : (x >>= f).perform s = (f a).perform (x.perform s).2 :=
      Access.perform_bind_ok (Prod.ext ha rfl)
    obtain ⟨hsteady', hend⟩ := hf a _ hmiddle
    unfold Settles
    rw [hrun]
    refine ⟨fun hs => hsteady' (hsteady hs), hend.imp_right fun h => ⟨?_, h.2⟩⟩
    exact fun hs => h.1 (hsteady hs)
  · have hrun : (x >>= f).perform s = (.error e, (x.perform s).2) :=
      Access.perform_bind_error (Prod.ext he rfl)
    unfold Settles
    rw [hrun]
    exact ⟨hsteady, Or.inr ⟨hunsteady, ⟨e, rfl⟩, hres⟩⟩

/-- A write that the store would make. -/
theorem of_write {call : Access σ α} {ideal : Access Store α} {a : α} {s' : Store}
    (hcall : Follows store steady call ideal) (hres : resumable (store s))
    (hideal : ideal.perform (store s) = (.ok a, s')) (hgoal : goal s') :
    Settles store steady resumable goal call s := by
  obtain ⟨hsteady, ⟨hanswer, hstore⟩ | ⟨hunsteady, he, hstore⟩⟩ := hcall s
  · refine ⟨hsteady, Or.inl ⟨⟨a, by rw [hanswer, hideal]⟩, ?_⟩⟩
    rw [hstore, hideal]
    exact hgoal
  · exact ⟨hsteady, Or.inr ⟨hunsteady, he, hstore ▸ hres⟩⟩

/-- Reading a node does not change the state. -/
theorem read_node (hb : b.Keeps store steady) {id : NodeId} {f : Option Node → Access σ α}
    (h : Settles store steady resumable goal (f ((store s).node? id)) s) :
    Settles store steady resumable goal (b.node? id >>= f) s := by
  unfold Settles at h ⊢
  rw [Access.perform_bind_ok (hb.node? id s)]
  exact h

theorem read_edge (hb : b.Keeps store steady) {key : EdgeKey} {f : Option Edge → Access σ α}
    (h : Settles store steady resumable goal (f ((store s).edge? key)) s) :
    Settles store steady resumable goal (b.edge? key >>= f) s := by
  unfold Settles at h ⊢
  rw [Access.perform_bind_ok (hb.edge? key s)]
  exact h

end Settles

end PropertyGraph
