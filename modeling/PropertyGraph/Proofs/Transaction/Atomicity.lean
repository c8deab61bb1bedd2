import PropertyGraph.Proofs.Transaction.Undo

/-!
# Atomicity

A transaction that was begun gathers mutations (`enqueueAll`), and what it keeps with them is read
from the store as it was then (`Gathering`).  If its commit fails it is `Aborting`: rolled back, with
the elements that the store had, or failed, and then a rollback can start from what is left.
`revoke_spec` is the step between these.

For a store that refuses nothing, the rollback of a failed commit succeeds and leaves no trace of the
transaction (`failed_commit_leaves_no_trace`).  For one that refuses writes on any schedule, every
attempt that fails can be repeated until one succeeds (`retried_rollback_restores`).
-/

namespace PropertyGraph.Transaction

variable {σ : Type} {store : σ → Store} {steady : σ → Prop} {b : Backend σ}
variable {s₀ : Store} {t t' : Transaction} {v v' : σ}

/-! ### Gathering mutations -/

/-- The transaction was begun, its time has not run out, and no mutation was asked for. -/
structure JustBegun (t : Transaction) : Prop where
  pending : t.state = .pending
  inTime : t.timedOut = false
  empty : t.log = []

/-- A new transaction that begins has just begun. -/
theorem justBegun_begin (id : TransactionId) (config : TransactionConfig)
    (listeners : List Listener) (now : Nat) :
    (begin { id, config, listeners } now).2.JustBegun :=
  ⟨rfl, rfl, rfl⟩

/-- Asks for mutations one after the other.  Those that are refused are left out. -/
def enqueueAll (b : Backend σ) : List Mutation → Transaction → σ → Transaction × σ
  | [], t, s => (t, s)
  | m :: rest, t, s =>
    let (_, t, s) := t.enqueue b m s
    enqueueAll b rest t s

/-- The transaction is pending, and all that it keeps is from the store `s₀`. -/
structure Gathering (s₀ : Store) (t : Transaction) : Prop where
  pending : t.state = .pending
  inTime : t.timedOut = false
  kept : ∀ entry ∈ t.log, entry.rollback = entry.mutation.kept s₀

theorem JustBegun.gathering (h : t.JustBegun) (s₀ : Store) : t.Gathering s₀ where
  pending := h.pending
  inTime := h.inTime
  kept entry hmem := by
    rw [h.empty] at hmem
    exact (List.not_mem_nil hmem).elim

theorem Gathering.requirePending (h : t.Gathering s₀) : t.requirePending = .ok () := by
  unfold Transaction.requirePending
  rw [h.inTime, h.pending]
  rfl

/-- Asking for a mutation changes no store. -/
theorem Gathering.enqueue (hb : b.Keeps store steady) (h : t.Gathering (store v)) (m : Mutation) :
    (t.enqueue b m v).2.1.Gathering (store v) ∧ (t.enqueue b m v).2.2 = v := by
  obtain ⟨hsame, hkept⟩ := RollbackData.capture_kept hb t.log m v
  unfold Transaction.enqueue
  rw [h.requirePending]
  rcases hrun : (RollbackData.capture b t.log m).perform v with ⟨e | rollback, v'⟩
  · rw [hrun] at hsame
    exact ⟨h, hsame⟩
  · rw [hrun] at hsame hkept
    refine ⟨⟨h.pending, h.inTime, fun entry hmem => ?_⟩, hsame⟩
    rcases List.mem_append.mp hmem with hmem | hmem
    · exact h.kept entry hmem
    · rw [List.mem_singleton.mp hmem]
      exact hkept rollback rfl

theorem Gathering.enqueueAll (hb : b.Keeps store steady) (calls : List Mutation)
    (h : t.Gathering (store v)) :
    (enqueueAll b calls t v).1.Gathering (store v) ∧ (enqueueAll b calls t v).2 = v := by
  induction calls generalizing t with
  | nil => exact ⟨h, rfl⟩
  | cons m rest ih =>
    obtain ⟨hnext, hsame⟩ := h.enqueue hb m
    unfold Transaction.enqueueAll
    rcases hrun : t.enqueue b m v with ⟨answer, t', v'⟩
    rw [hrun] at hnext hsame
    obtain rfl : v' = v := hsame
    exact ih hnext

/-! ### Undoing what is applied -/

/-- A commit of the transaction has failed: it is rolled back, and the elements of `s₀` are there, or
it is failed, and what is there can be rolled back. -/
structure Aborting (s₀ : Store) (t : Transaction) (u : Store) : Prop where
  inTime : t.timedOut = false
  kept : ∀ entry ∈ t.log, entry.rollback = entry.mutation.kept s₀
  state : (t.state = .failed ∧ Revocable s₀ t.log t.applied u) ∨
    (t.state = .rolledBack ∧ u.SameElements s₀)

/-- What undoing the applied entries makes of a transaction and a store. -/
theorem revoke_spec (hb : b.Keeps store steady) (hs₀ : s₀.WellFormed) (hnull : s₀.NullFree)
    (hin : t.timedOut = false) (hkept : ∀ entry ∈ t.log, entry.rollback = entry.mutation.kept s₀)
    (hrev : Revocable s₀ t.log t.applied (store v)) (reason : RollbackReason) :
    let outcome := t.revoke b reason v
    (steady v → steady outcome.2.2) ∧ outcome.2.1.Aborting s₀ (store outcome.2.2) ∧
      ((outcome.1 = .ok () ∧ outcome.2.1.state = .rolledBack ∧ outcome.2.1.error = t.error) ∨
        (¬ steady v ∧ (∃ e, outcome.1 = .error e) ∧ outcome.2.1.state = .failed)) := by
  obtain ⟨hle, s, happlied, hrec⟩ := hrev
  obtain ⟨hsteady, hcases⟩ := undoEach_spec hb hs₀ hnull happlied
    (fun entry hmem => hkept entry (List.mem_of_mem_take hmem)) hrec
  unfold revoke
  rcases hrun : undoEach b (t.log.take t.applied).reverse v with ⟨_ | fault, remaining, v'⟩
  · rw [hrun] at hsteady hcases
    rcases hcases with ⟨-, -, hsame⟩ | ⟨-, ⟨fault, hfault⟩, -⟩
    · exact ⟨hsteady, ⟨hin, hkept, Or.inr ⟨rfl, hsame⟩⟩, Or.inl ⟨rfl, rfl, rfl⟩⟩
    · cases hfault
  · rw [hrun] at hsteady hcases
    rcases hcases with ⟨hnone, -⟩ | ⟨hunsteady, -, hle', s', happlied', hrec'⟩
    · cases hnone
    · -- the first entries of those that were applied are the first entries of the log
      rw [show (some fault, remaining, v').2.1 = remaining from rfl] at hle' happlied' hrec'
      rw [List.length_take] at hle'
      have htake : (t.log.take t.applied).take remaining = t.log.take remaining := by
        rw [List.take_take, Nat.min_eq_left (by omega)]
      rw [htake] at happlied' hrec'
      have hrev : Revocable s₀ t.log remaining (store v') :=
        ⟨by omega, s', happlied', hrec'⟩
      exact ⟨hsteady, ⟨hin, hkept, Or.inl ⟨rfl, hrev⟩⟩, Or.inr ⟨hunsteady, ⟨fault, rfl⟩, rfl⟩⟩

/-! ### Failing commits and their rollbacks -/

theorem commit_error_spec (hb : b.Keeps store steady) (hs : (store v).WellFormed)
    (hnull : (store v).NullFree) (ht : t.Gathering (store v)) {fault : Error}
    (h : t.commit b v = (.error fault, t', v')) :
    (∃ place < t.log.length, ∃ operation cause, fault = .mutationFailed place operation cause) ∧
      (steady v → steady v') ∧ t'.Aborting (store v) (store v') ∧
      (t.config.autoRollback = false → t'.state = .failed) ∧
      (steady v → t.config.autoRollback = true → t'.state = .rolledBack ∧ t'.error = some fault) := by
  have happly := applyFrom_spec hb t.log (s := v) (@Applied.nil (store v))
  rw [List.nil_append] at happly
  unfold commit at h
  rw [ht.requirePending] at h
  dsimp only at h
  rcases hrun : applyFrom b 0 t.log v with ⟨_ | fault', applied, w⟩
  · rw [hrun] at h
    cases h
  · rw [List.length_nil, hrun] at happly
    obtain ⟨hsteady, hle, happlied, hfault⟩ := happly
    obtain ⟨hlt, hnamed⟩ := hfault fault' rfl
    rw [hrun] at h
    obtain ⟨hanswer, hafter⟩ := Prod.mk.inj h
    obtain rfl := Except.error.inj hanswer
    have hrev : Revocable (store v) t.log applied (store w) :=
      ⟨hle, _, happlied, happlied.recoverable hs⟩
    refine ⟨⟨applied, hlt, hnamed⟩, ?_⟩
    set broken := { { t with deadline := none } with applied }.recordError fault' with hbroken
    unfold afterFailure at hafter
    rw [show broken.config.autoRollback = t.config.autoRollback from rfl] at hafter
    cases hauto : t.config.autoRollback with
    | false =>
      -- what was applied stays applied
      rw [hauto, if_neg Bool.false_ne_true] at hafter
      obtain ⟨rfl, rfl⟩ := Prod.mk.inj hafter
      exact ⟨hsteady, ⟨ht.inTime, ht.kept, Or.inl ⟨rfl, hrev⟩⟩, fun _ => rfl, fun _ h => by cases h⟩
    | true =>
      -- the failure of the commit is its answer even where undoing fails as well
      rw [hauto, if_pos rfl] at hafter
      have hspec := revoke_spec (t := broken) hb hs hnull ht.inTime ht.kept hrev .commitFailed
      dsimp only at hspec
      rw [hafter] at hspec
      obtain ⟨hsteady', habort, hcases⟩ := hspec
      refine ⟨fun h => hsteady' (hsteady h), habort, fun h => (by cases h), fun h _ => ?_⟩
      rcases hcases with ⟨-, hstate, herror⟩ | ⟨hunsteady, -⟩
      · exact ⟨hstate, herror⟩
      · exact absurd (hsteady h) hunsteady

/-- A rollback of a failed transaction succeeds or leaves it as it found it: failed. -/
theorem Aborting.rollback_spec (hb : b.Keeps store steady) (hs₀ : s₀.WellFormed)
    (hnull : s₀.NullFree) (ht : t.Aborting s₀ (store v)) (hfailed : t.state = .failed) :
    let outcome := t.rollback b v
    (steady v → steady outcome.2.2) ∧ outcome.2.1.Aborting s₀ (store outcome.2.2) ∧
      (((∃ result, outcome.1 = .ok result) ∧ outcome.2.1.state = .rolledBack) ∨
        (¬ steady v ∧ (∃ e, outcome.1 = .error e) ∧ outcome.2.1.state = .failed)) := by
  have hrevocable : t.requireRevocable = .ok () := by
    unfold requireRevocable
    rw [ht.inTime, hfailed]
    rfl
  rcases ht.state with ⟨-, hrev⟩ | ⟨hrolled, -⟩
  · have hspec := revoke_spec (t := { t with deadline := none }) hb hs₀ hnull ht.inTime ht.kept
      hrev .explicit
    unfold rollback
    rw [hrevocable]
    dsimp only at hspec ⊢
    rcases hrun : { t with deadline := none }.revoke b .explicit v with ⟨e | u, t', v'⟩
    · rw [hrun] at hspec ⊢
      obtain ⟨hsteady, habort, ⟨hok, -⟩ | hfail⟩ := hspec
      · cases hok
      · exact ⟨hsteady, habort, Or.inr ⟨hfail.1, ⟨e, rfl⟩, hfail.2.2⟩⟩
    · rw [hrun] at hspec ⊢
      obtain ⟨hsteady, habort, ⟨-, hstate, -⟩ | ⟨-, ⟨e, he⟩, -⟩⟩ := hspec
      · exact ⟨hsteady, habort, Or.inl ⟨⟨_, rfl⟩, hstate⟩⟩
      · cases he
  · rw [hfailed] at hrolled
    cases hrolled

theorem Aborting.sameElements {u : Store} (h : t.Aborting s₀ u) (hrolled : t.state = .rolledBack) :
    u.SameElements s₀ := by
  rcases h.state with ⟨hfailed, -⟩ | ⟨-, hsame⟩
  · rw [hrolled] at hfailed
    cases hfailed
  · exact hsame

/-! ### A store that refuses nothing -/

/-- **Atomicity of a failed commit.**  Let a transaction that has just begun be asked for any
mutations of a store without nulls, and let its commit fail.  What failed is one of the entries of
its log, and nothing fails in undoing those before it: the transaction is rolled back at once, or,
without an automatic rollback, by the next one.  Then all lookups answer as before. -/
theorem failed_commit_leaves_no_trace {s s₁ s' : Store} (hs : s.Reachable) (hnull : s.NullFree)
    {t₀ t t' : Transaction} (ht : t₀.JustBegun) {calls : List Mutation}
    (hcalls : enqueueAll Store.backend calls t₀ s = (t, s₁)) {fault : Error}
    (hfail : t.commit Store.backend s₁ = (.error fault, t', s')) :
    (∃ place < t.log.length, ∃ operation cause, fault = .mutationFailed place operation cause) ∧
      (t.config.autoRollback = true →
        t'.state = .rolledBack ∧ t'.error = some fault ∧ s'.SameElements s) ∧
      (t.config.autoRollback = false →
        t'.state = .failed ∧ ∃ result t'' s'',
          t'.rollback Store.backend s' = (.ok result, t'', s'') ∧
            t''.state = .rolledBack ∧ s''.SameElements s) := by
  obtain ⟨hgather, hsame⟩ := (ht.gathering s).enqueueAll Store.backend_keeps calls
  rw [hcalls] at hgather hsame
  obtain rfl : s₁ = s := hsame
  obtain ⟨hplace, -, habort, hfailed, hrolled⟩ :=
    commit_error_spec Store.backend_keeps hs.wellFormed hnull hgather hfail
  refine ⟨hplace, fun hauto => ?_, fun hauto => ?_⟩
  · obtain ⟨hstate, herror⟩ := hrolled trivial hauto
    exact ⟨hstate, herror, habort.sameElements hstate⟩
  · have hstate := hfailed hauto
    obtain ⟨-, habort', ⟨⟨result, hok⟩, hstate'⟩ | ⟨hunsteady, -⟩⟩ :=
      habort.rollback_spec Store.backend_keeps hs.wellFormed hnull hstate
    · exact ⟨hstate, result, _, _, Prod.ext hok rfl, hstate', habort'.sameElements hstate'⟩
    · exact absurd trivial hunsteady

theorem nullFree_pair : Store.pair.NullFree := Store.nullFree_of_entries (by decide) (by decide)

/-- The update is accepted, but the edge is gone when its turn comes. -/
def removalThenUpdate : List Mutation :=
  [.removeNode "a", .updateEdge ⟨"a", "b", "knows"⟩ (.ofList [("since", .int 2001)])]

theorem failed_update_leaves_no_trace :
    ∃ t t' s' fault,
      enqueueAll Store.backend removalThenUpdate (begin { id := "t" } 0).2 Store.pair
          = (t, Store.pair) ∧
        t.commit Store.backend Store.pair = (.error fault, t', s') ∧
        t'.state = .rolledBack ∧ s'.SameElements Store.pair := by
  have hbegun := justBegun_begin "t" {} [] 0
  have hsame := ((hbegun.gathering Store.pair).enqueueAll (v := Store.pair) Store.backend_keeps
    removalThenUpdate).2
  have hrun : (let t := (enqueueAll Store.backend removalThenUpdate (begin { id := "t" } 0).2
        Store.pair).1
      ((t.commit Store.backend Store.pair).1.toBool, t.config.autoRollback)) = (false, true) := by
    decide +kernel
  rcases hcalls : enqueueAll Store.backend removalThenUpdate (begin { id := "t" } 0).2 Store.pair
    with ⟨t, s₁⟩
  rw [hcalls] at hrun hsame
  obtain rfl : s₁ = Store.pair := hsame
  rcases hfail : t.commit Store.backend Store.pair with ⟨fault | result, t', s'⟩
  · obtain ⟨-, hrolled, -⟩ := failed_commit_leaves_no_trace Store.reachable_pair nullFree_pair
      hbegun hcalls hfail
    obtain ⟨hstate, -, hsame⟩ := hrolled (Prod.mk.inj hrun).2
    exact ⟨t, t', s', fault, rfl, hfail, hstate, hsame⟩
  · simp [hfail, Except.toBool] at hrun

/-! ### A store that refuses writes -/

/-- Some rollbacks of a transaction one after the other.  Each finds a store that refuses writes on
a schedule of its own. -/
inductive Retried (t : Transaction) (u : UnreliableStore) : Transaction → UnreliableStore → Prop where
  | none : Retried t u t u
  | again {t' : Transaction} {u' : UnreliableStore} (refusals : List Bool) : Retried t u t' u' →
    Retried t u (t'.rollback UnreliableStore.backend { u' with refusals }).2.1
      (t'.rollback UnreliableStore.backend { u' with refusals }).2.2

theorem Retried.aborting {t₁ t₂ : Transaction} {u₁ u₂ : UnreliableStore} (h : Retried t₁ u₁ t₂ u₂)
    (hs₀ : s₀.WellFormed) (hnull : s₀.NullFree) (ht : t₁.Aborting s₀ u₁.store) :
    t₂.Aborting s₀ u₂.store := by
  induction h with
  | none => exact ht
  | @again t' u' refusals _ ih =>
    rcases ih.state with ⟨hfailed, -⟩ | ⟨hrolled, -⟩
    · exact (ih.rollback_spec (v := { u' with refusals }) UnreliableStore.backend_keeps hs₀ hnull
        hfailed).2.1
    · -- a transaction that is rolled back stays as it is
      have hrefused : t'.requireRevocable = .error (.alreadyRolledBack t'.id) := by
        unfold requireRevocable
        rw [ih.inTime, hrolled]
        rfl
      unfold rollback
      rw [hrefused]
      exact ih

/-- **Undoing can be repeated.**  Let a transaction that has just begun be asked for any mutations of
a store without nulls that refuses writes on any schedule, let its commit fail, and let any rollbacks
follow.  The transaction is failed or rolled back.  If it is rolled back then all lookups answer as
before.  If it is failed then another rollback fails and leaves it failed, or it succeeds, and the
transaction is rolled back; where no write is refused it succeeds. -/
theorem retried_rollback_restores {u u₁ u₂ u₃ : UnreliableStore} (hs : u.store.Reachable)
    (hnull : u.store.NullFree) {t₀ t t₁ t₂ : Transaction} (ht : t₀.JustBegun)
    {calls : List Mutation} (hcalls : enqueueAll UnreliableStore.backend calls t₀ u = (t, u₁))
    {fault : Error} (hfail : t.commit UnreliableStore.backend u₁ = (.error fault, t₁, u₂))
    (hretried : Retried t₁ u₂ t₂ u₃) :
    (t₂.state = .failed ∨ t₂.state = .rolledBack) ∧
      (t₂.state = .rolledBack → u₃.store.SameElements u.store) ∧
      (t₂.state = .failed → ∀ refusals answer t₃ u₄,
        t₂.rollback UnreliableStore.backend { u₃ with refusals } = (answer, t₃, u₄) →
          (∀ e, answer = .error e → t₃.state = .failed) ∧
          (∀ result, answer = .ok result →
            t₃.state = .rolledBack ∧ u₄.store.SameElements u.store) ∧
          (true ∉ refusals → ∃ result, answer = .ok result)) := by
  obtain ⟨hgather, hsame⟩ :=
    (ht.gathering u.store).enqueueAll UnreliableStore.backend_keeps calls
  rw [hcalls] at hgather hsame
  obtain rfl : u₁ = u := hsame
  obtain ⟨-, -, habort, -⟩ :=
    commit_error_spec UnreliableStore.backend_keeps hs.wellFormed hnull hgather hfail
  have habort₂ := hretried.aborting hs.wellFormed hnull habort
  refine ⟨habort₂.state.imp And.left And.left, habort₂.sameElements,
    fun hfailed refusals answer t₃ u₄ hrun => ?_⟩
  have hspec := habort₂.rollback_spec (v := { u₃ with refusals }) UnreliableStore.backend_keeps
    hs.wellFormed hnull hfailed
  dsimp only at hspec
  rw [hrun] at hspec
  obtain ⟨-, habort₃, ⟨⟨result, hok⟩, hstate⟩ | ⟨hunsteady, ⟨e, he⟩, hstate⟩⟩ := hspec
  · refine ⟨fun e he => ?_, fun _ _ => ⟨hstate, habort₃.sameElements hstate⟩,
      fun _ => ⟨result, hok⟩⟩
    rw [show answer = .ok result from hok] at he
    cases he
  · refine ⟨fun _ _ => hstate, fun result hok => ?_, fun hsteady => absurd hsteady hunsteady⟩
    rw [show answer = .error e from he] at hok
    cases hok

/-- The commit comes to nothing at its second write, its undoing at the fourth, where the node is back
and its edge is not, and the first rollback at the write after that. -/
theorem refused_undoing_restores :
    ∃ t t₁ t₂ u₁ u₂ u₃ fault cause,
      enqueueAll UnreliableStore.backend removalThenUpdate (begin { id := "t" } 0).2
          ⟨Store.pair, [false, false, false, true]⟩ = (t, u₁) ∧
        t.commit UnreliableStore.backend u₁ = (.error fault, t₁, u₂) ∧
        t₁.rollback UnreliableStore.backend { u₂ with refusals := [true] }
          = (.error cause, t₂, u₃) ∧ t₂.state = .failed ∧
        ∃ result t₃ u₄, t₂.rollback UnreliableStore.backend { u₃ with refusals := [] }
            = (.ok result, t₃, u₄) ∧
          t₃.state = .rolledBack ∧ u₄.store.SameElements Store.pair := by
  have hrun :
      (let gathered := enqueueAll UnreliableStore.backend removalThenUpdate
          (begin { id := "t" } 0).2 ⟨Store.pair, [false, false, false, true]⟩
        let committed := gathered.1.commit UnreliableStore.backend gathered.2
        let retried := committed.2.1.rollback UnreliableStore.backend
          { committed.2.2 with refusals := [true] }
        (committed.1.toBool, retried.1.toBool, retried.2.1.state)) = (false, false, .failed) := by
    decide +kernel
  rcases hcalls : enqueueAll UnreliableStore.backend removalThenUpdate (begin { id := "t" } 0).2
    ⟨Store.pair, [false, false, false, true]⟩ with ⟨t, u₁⟩
  rcases hfail : t.commit UnreliableStore.backend u₁ with ⟨fault | result, t₁, u₂⟩
  · rcases hretry : t₁.rollback UnreliableStore.backend { u₂ with refusals := [true] }
      with ⟨cause | result, t₂, u₃⟩
    · simp only [hcalls, hfail, hretry] at hrun
      have hfailed : t₂.state = .failed := (Prod.mk.inj (Prod.mk.inj hrun).2).2
      have hretried : Retried t₁ u₂ t₂ u₃ := by
        have := (@Retried.none t₁ u₂).again [true]
        rwa [hretry] at this
      obtain ⟨-, -, hnext⟩ := retried_rollback_restores Store.reachable_pair nullFree_pair
        (justBegun_begin "t" {} [] 0) hcalls hfail hretried
      rcases hrun : t₂.rollback UnreliableStore.backend { u₃ with refusals := [] }
        with ⟨answer, t₃, u₄⟩
      obtain ⟨-, hrolled, hsteady⟩ := hnext hfailed [] answer t₃ u₄ hrun
      obtain ⟨result, rfl⟩ := hsteady List.not_mem_nil
      exact ⟨t, t₁, t₂, u₁, u₂, u₃, fault, cause, rfl, hfail, hretry, hfailed, result, t₃, u₄,
        hrun, hrolled result rfl⟩
    · simp [hcalls, hfail, hretry, Except.toBool] at hrun
  · simp [hcalls, hfail, Except.toBool] at hrun

end PropertyGraph.Transaction
