import PropertyGraph.Proofs.Store.Backend
import PropertyGraph.Transaction.Lifecycle

/-!
# The life of a transaction

A `Step` is one call on a transaction, or the running out of its time; `Step.runAll` takes steps in any
order on any backend.  `Sound` is what holds of a transaction behind each of them, and `Step.leads` says
what one step can do to it.

A backend can be made to take down the writes that are issued to it (`Backend.recorded`).  Reading
issues none (`ReadsOnly`), and neither does undoing where nothing is applied, so only two kinds of steps
write (`Step.issues_no_write`).  `lifecycle` puts these together.
-/

namespace PropertyGraph

variable {σ α β : Type}

/-! ### Writes taken down -/

/-- A state with the writes that were issued, the last one at the end. -/
structure Recorded (σ : Type) where
  state : σ
  writes : List WriteKind := []

namespace Recorded

def read (call : Access σ α) : Access (Recorded σ) α := fun r =>
  let (answer, state) := call.perform r.state
  (answer, { r with state })

def write (kind : WriteKind) (call : Access σ α) : Access (Recorded σ) α := fun r =>
  let (answer, state) := call.perform r.state
  (answer, { state, writes := r.writes ++ [kind] })

end Recorded

/-- The backend that takes down which writes are issued, those that fail included. -/
def Backend.recorded (b : Backend σ) : Backend (Recorded σ) where
  node? id := Recorded.read (b.node? id)
  edge? key := Recorded.read (b.edge? key)
  edgesAt id := Recorded.read (b.edgesAt id)
  addNode n := Recorded.write .addNode (b.addNode n)
  updateNode id updates := Recorded.write .updateNode (b.updateNode id updates)
  removeNode id := Recorded.write .removeNode (b.removeNode id)
  addEdge e := Recorded.write .addEdge (b.addEdge e)
  updateEdge key updates := Recorded.write .updateEdge (b.updateEdge key updates)
  removeEdge key := Recorded.write .removeEdge (b.removeEdge key)

/-- The call issues no write. -/
def ReadsOnly (call : Access (Recorded σ) α) : Prop :=
  ∀ r, (call.perform r).2.writes = r.writes

namespace ReadsOnly

theorem of_pure (a : α) : ReadsOnly (pure a : Access (Recorded σ) α) := fun _ => rfl

theorem of_throw (e : Error) : ReadsOnly (throw e : Access (Recorded σ) α) := fun _ => rfl

theorem of_read (call : Access σ α) : ReadsOnly (Recorded.read call) := fun _ => rfl

theorem andThen {x : Access (Recorded σ) α} {f : α → Access (Recorded σ) β} (hx : ReadsOnly x)
    (hf : ∀ a, ReadsOnly (f a)) : ReadsOnly (x >>= f) := by
  intro r
  have hfirst := hx r
  rw [Access.perform_bind]
  rcases hrun : x.perform r with ⟨e | a, r'⟩
  · rw [hrun] at hfirst
    exact hfirst
  · rw [hrun] at hfirst
    exact (hf a r').trans hfirst

end ReadsOnly

/-- What undoing a mutation will need is read, whatever the mutation is. -/
theorem RollbackData.capture_readsOnly (b : Backend σ) (log : List LogEntry) (m : Mutation) :
    ReadsOnly (capture b.recorded log m) := by
  have hcreated : ∀ (created : Bool) (fault : Error),
      ReadsOnly (if created then return .createdInTransaction else throw fault :
        Access (Recorded σ) RollbackData) := by
    intro created fault
    cases created with
    | true => exact ReadsOnly.of_pure _
    | false => exact ReadsOnly.of_throw _
  have hnode : ∀ (id : NodeId) (kept : Node → Access (Recorded σ) RollbackData),
      (∀ n, ReadsOnly (kept n)) → ReadsOnly (ofNode b.recorded log id kept) := by
    intro id kept hkept
    refine (ReadsOnly.of_read (b.node? id)).andThen fun found => ?_
    cases found with
    | some n => exact hkept n
    | none => exact hcreated _ _
  have hedge : ∀ (key : EdgeKey) (kept : Edge → RollbackData),
      ReadsOnly (ofEdge b.recorded log key kept) := by
    intro key kept
    refine (ReadsOnly.of_read (b.edge? key)).andThen fun found => ?_
    cases found with
    | some e => exact ReadsOnly.of_pure _
    | none => exact hcreated _ _
  cases m with
  | addNode n => exact ReadsOnly.of_pure _
  | addEdge e => exact ReadsOnly.of_pure _
  | removeNode id =>
    exact hnode id _ fun n =>
      (ReadsOnly.of_read (b.edgesAt id)).andThen fun edges => ReadsOnly.of_pure _
  | updateNode id updates => exact hnode id _ fun n => ReadsOnly.of_pure _
  | removeEdge key => exact hedge key _
  | updateEdge key updates => exact hedge key _

/-! ### Moves between states -/

/-- The moves of a transaction from one state to another. -/
inductive TransactionState.Moves : TransactionState → TransactionState → Prop where
  | begins : Moves .new .pending
  | commits : Moves .pending .committed
  | revokes : Moves .pending .rolledBack
  | breaks : Moves .pending .failed
  | recovers : Moves .failed .rolledBack
  | failsAgain : Moves .failed .failed

namespace Transaction

/-! ### Steps -/

/-- A call on a transaction, or the running out of its time. -/
inductive Step where
  | begin (now : Nat)
  | enqueue (m : Mutation)
  | commit
  | rollback
  | expire

namespace Step

/-- Takes a step.  Of the answer only the success or the failure is kept. -/
def take (b : Backend σ) : Step → Transaction → σ → Outcome σ Unit
  | .begin now, t, s => ((t.begin now).1, (t.begin now).2, s)
  | .enqueue m, t, s => t.enqueue b m s
  | .commit, t, s => ((t.commit b s).1.map fun _ => (), (t.commit b s).2)
  | .rollback, t, s => ((t.rollback b s).1.map fun _ => (), (t.rollback b s).2)
  | .expire, t, s => (.ok (), t.expire b s)

/-- Takes some steps one after the other, whatever they answer. -/
def runAll (b : Backend σ) (steps : List Step) (t : Transaction) (s : σ) : Transaction × σ :=
  steps.foldl (fun p step => (step.take b p.1 p.2).2) (t, s)

end Step

/-- What holds of a transaction behind every step. -/
structure Sound (t : Transaction) : Prop where
  count : t.mutationCount = t.log.length
  applied_le : t.applied ≤ t.log.length
  applied_eq_zero : t.state ≠ .failed → t.applied = 0
  of_timedOut : t.timedOut = true → t.state = .rolledBack ∨ t.state = .failed

/-- The transaction has come to an end that no step changes. -/
def Finished (t : Transaction) : Prop :=
  t.state = .committed ∨ t.state = .rolledBack ∨ t.timedOut = true

theorem Sound.of_new (id : TransactionId) (config : TransactionConfig)
    (listeners : List Listener) : Sound { id, config, listeners } where
  count := rfl
  applied_le := Nat.zero_le _
  applied_eq_zero _ := rfl
  of_timedOut h := by cases h

variable {b : Backend σ} {t : Transaction} {s : σ}

theorem not_finished (hin : t.timedOut = false)
    (hstate : t.state = .new ∨ t.state = .pending ∨ t.state = .failed) : ¬ t.Finished := by
  unfold Finished
  rw [hin]
  rintro (hcommitted | hrolled | hout)
  · rcases hstate with hstate | hstate | hstate <;> rw [hstate] at hcommitted <;> cases hcommitted
  · rcases hstate with hstate | hstate | hstate <;> rw [hstate] at hrolled <;> cases hrolled
  · cases hout

/-- Only what is rolled back or failed can have run out of time. -/
theorem Sound.inTime (h : t.Sound) (hstate : t.state = .new ∨ t.state = .pending) :
    t.timedOut = false := by
  cases hout : t.timedOut with
  | false => rfl
  | true =>
    rcases h.of_timedOut hout with hended | hended <;> rw [hended] at hstate <;>
      rcases hstate with hstate | hstate <;> cases hstate

/-! ### What guards a step -/

theorem requirePending_spec (t : Transaction) :
    (t.requirePending = .ok () ∧ t.timedOut = false ∧ t.state = .pending) ∨
      ((∃ e, t.requirePending = .error e) ∧ (t.timedOut = true ∨ t.state ≠ .pending)) := by
  unfold requirePending
  cases t.timedOut with
  | true => exact Or.inr ⟨⟨_, rfl⟩, Or.inl rfl⟩
  | false =>
    cases t.state with
    | pending => exact Or.inl ⟨rfl, rfl, rfl⟩
    | new => exact Or.inr ⟨⟨_, rfl⟩, Or.inr (by decide)⟩
    | committed => exact Or.inr ⟨⟨_, rfl⟩, Or.inr (by decide)⟩
    | rolledBack => exact Or.inr ⟨⟨_, rfl⟩, Or.inr (by decide)⟩
    | failed => exact Or.inr ⟨⟨_, rfl⟩, Or.inr (by decide)⟩

theorem requireRevocable_spec (t : Transaction) :
    (t.requireRevocable = .ok () ∧ t.timedOut = false ∧
        (t.state = .pending ∨ t.state = .failed)) ∨
      ∃ e, t.requireRevocable = .error e := by
  unfold requireRevocable
  cases t.timedOut with
  | true => exact Or.inr ⟨_, rfl⟩
  | false =>
    cases t.state with
    | pending => exact Or.inl ⟨rfl, rfl, Or.inl rfl⟩
    | failed => exact Or.inl ⟨rfl, rfl, Or.inr rfl⟩
    | new => exact Or.inr ⟨_, rfl⟩
    | committed => exact Or.inr ⟨_, rfl⟩
    | rolledBack => exact Or.inr ⟨_, rfl⟩

/-! ### Applying and undoing -/

theorem applyFrom_le (b : Backend σ) (place : Nat) (entries : List LogEntry) (s : σ) :
    (applyFrom b place entries s).2.1 ≤ place + entries.length := by
  induction entries generalizing place s with
  | nil => exact Nat.le_refl _
  | cons entry rest ih =>
    unfold applyFrom
    rcases (entry.mutation.apply b).perform s with ⟨cause | _, s'⟩
    · exact Nat.le_add_right _ _
    · have hrest := ih (place + 1) s'
      show (applyFrom b (place + 1) rest s').2.1 ≤ _
      rw [List.length_cons]
      omega

theorem undoEach_le (b : Backend σ) (entries : List LogEntry) (s : σ) :
    (undoEach b entries s).2.1 ≤ entries.length ∧
      ((undoEach b entries s).1 = none → (undoEach b entries s).2.1 = 0) := by
  induction entries generalizing s with
  | nil => exact ⟨Nat.le_refl _, fun _ => rfl⟩
  | cons entry rest ih =>
    unfold undoEach
    rcases (entry.undo b).perform s with ⟨cause | _, s'⟩
    · exact ⟨Nat.le_refl _, fun h => by cases h⟩
    · obtain ⟨hle, hzero⟩ := ih s'
      exact ⟨Nat.le_succ_of_le hle, hzero⟩

/-- Another transaction with the same log, of which some entries are still applied if it has failed and
none if it is rolled back. -/
structure EndedBy (t t' : Transaction) : Prop where
  log : t'.log = t.log
  count : t'.mutationCount = t.mutationCount
  timedOut : t'.timedOut = t.timedOut
  state : (t'.state = .rolledBack ∧ t'.applied = 0) ∨
    (t'.state = .failed ∧ t'.applied ≤ t.log.length)

theorem EndedBy.sound {t' : Transaction} (h : EndedBy t t') (hcount : t.mutationCount = t.log.length) :
    t'.Sound where
  count := by rw [h.log, h.count, hcount]
  applied_le := by
    rw [h.log]
    rcases h.state with ⟨-, hzero⟩ | ⟨-, hle⟩
    · rw [hzero]
      exact Nat.zero_le _
    · exact hle
  applied_eq_zero hstate := by
    rcases h.state with ⟨-, hzero⟩ | ⟨hfailed, -⟩
    · exact hzero
    · exact absurd hfailed hstate
  of_timedOut _ := h.state.imp And.left And.left

theorem revoke_endedBy (b : Backend σ) (t : Transaction) (reason : RollbackReason) (s : σ) :
    EndedBy t (t.revoke b reason s).2.1 := by
  obtain ⟨hle, hzero⟩ := undoEach_le b (t.log.take t.applied).reverse s
  unfold revoke
  rcases hrun : undoEach b (t.log.take t.applied).reverse s with ⟨_ | fault, remaining, s'⟩
  · rw [hrun] at hzero
    exact ⟨rfl, rfl, rfl, Or.inl ⟨rfl, hzero rfl⟩⟩
  · rw [hrun, List.length_reverse, List.length_take] at hle
    exact ⟨rfl, rfl, rfl, Or.inr ⟨rfl, Nat.le_trans hle (Nat.min_le_right _ _)⟩⟩

/-- Where nothing is applied there is nothing to undo. -/
theorem revoke_of_applied_eq_zero (h : t.applied = 0) (reason : RollbackReason) :
    (t.revoke b reason s).2.2 = s := by
  unfold revoke
  rw [h]
  rfl

theorem afterFailure_endedBy (b : Backend σ) (s : σ) (h : t.applied ≤ t.log.length) :
    EndedBy t (t.afterFailure b s).1 := by
  unfold afterFailure
  split_ifs
  · exact revoke_endedBy b t .commitFailed s
  · exact ⟨rfl, rfl, rfl, Or.inr ⟨rfl, h⟩⟩

/-! ### What one step can do -/

/-- What a step makes of a transaction. -/
structure Step.Leads (step : Step) (answer : Except Error Unit) (t t' : Transaction) : Prop where
  sound : t'.Sound
  state : t'.state = t.state ∨ t.state.Moves t'.state
  /-- What is finished stays as it is. -/
  finished : t.Finished → t' = t
  /-- The log takes the mutations that are accepted, and those only while the transaction is pending. -/
  log : match step, answer with
    | .enqueue m, .ok () => t.state = .pending ∧ ∃ rollback, t'.log = t.log ++ [⟨m, rollback⟩]
    | _, _ => t'.log = t.log

/-- A step that is refused. -/
theorem Step.Leads.refused {step : Step} (h : t.Sound) (e : Error) :
    step.Leads (.error e) t t where
  sound := h
  state := Or.inl rfl
  finished _ := rfl
  log := by cases step <;> rfl

/-- A step that ends a transaction whose time has not run out. -/
theorem Step.Leads.ended {step : Step} {answer : Except Error Unit} {t' : Transaction} (h : t.Sound)
    (hin : t.timedOut = false) (hstate : t.state = .pending ∨ t.state = .failed)
    (hended : EndedBy t t') (hstep : ∀ m, step ≠ .enqueue m) : step.Leads answer t t' where
  sound := hended.sound h.count
  state := by
    rcases hstate with hpending | hfailed
    · rw [hpending]
      rcases hended.state with ⟨hrolled, -⟩ | ⟨hbroken, -⟩
      · exact Or.inr (hrolled ▸ .revokes)
      · exact Or.inr (hbroken ▸ .breaks)
    · rw [hfailed]
      rcases hended.state with ⟨hrolled, -⟩ | ⟨hbroken, -⟩
      · exact Or.inr (hrolled ▸ .recovers)
      · exact Or.inr (hbroken ▸ .failsAgain)
  finished hfinished := absurd hfinished (not_finished hin (Or.inr hstate))
  log := by
    cases step with
    | enqueue m => exact absurd rfl (hstep m)
    | begin now => exact hended.log
    | commit => exact hended.log
    | rollback => exact hended.log
    | expire => exact hended.log

theorem begin_leads (h : t.Sound) (now : Nat) :
    (Step.begin now).Leads (t.begin now).1 t (t.begin now).2 := by
  unfold begin
  split
  · next hnew =>
    have hin := h.inTime (Or.inl hnew)
    refine ⟨⟨h.count, h.applied_le, fun _ => ?_, fun hout => ?_⟩, Or.inr (hnew ▸ .begins),
      fun hfinished => absurd hfinished (not_finished hin (Or.inl hnew)), rfl⟩
    · exact h.applied_eq_zero (by rw [hnew]; decide)
    · rw [show _ = t.timedOut from rfl, hin] at hout
      cases hout
  · exact .refused h _

theorem enqueue_leads (b : Backend σ) (h : t.Sound) (m : Mutation) (s : σ) :
    (Step.enqueue m).Leads (t.enqueue b m s).1 t (t.enqueue b m s).2.1 := by
  unfold enqueue
  rcases requirePending_spec t with ⟨hok, hin, hpending⟩ | ⟨⟨e, he⟩, -⟩
  · rw [hok]
    rcases hrun : (RollbackData.capture b t.log m).perform s with ⟨e | rollback, s'⟩
    · exact .refused h e
    · have hzero := h.applied_eq_zero (by rw [hpending]; decide)
      refine ⟨⟨rfl, ?_, fun _ => hzero, h.of_timedOut⟩, Or.inl rfl,
        fun hfinished => absurd hfinished (not_finished hin (Or.inr (Or.inl hpending))), hpending,
        rollback, rfl⟩
      rw [show _ = 0 from hzero]
      exact Nat.zero_le _
  · rw [he]
    exact .refused h e

theorem commit_leads (b : Backend σ) (h : t.Sound) (s : σ) :
    Step.commit.Leads ((t.commit b s).1.map fun _ => ()) t (t.commit b s).2.1 := by
  unfold commit
  rcases requirePending_spec t with ⟨hok, hin, hpending⟩ | ⟨⟨e, he⟩, -⟩
  · rw [hok]
    dsimp only
    have hle := applyFrom_le b 0 t.log s
    rcases hrun : applyFrom b 0 t.log s with ⟨_ | fault, applied, s'⟩
    · refine ⟨⟨h.count, Nat.zero_le _, fun _ => rfl, fun hout => ?_⟩, Or.inr (hpending ▸ .commits),
        fun hfinished => absurd hfinished (not_finished hin (Or.inr (Or.inl hpending))), rfl⟩
      rw [show _ = t.timedOut from rfl, hin] at hout
      cases hout
    · rw [hrun, Nat.zero_add] at hle
      have hended := @afterFailure_endedBy σ
        ({ { t with deadline := none } with applied }.recordError fault) b s' hle
      exact .ended h hin (Or.inl hpending)
        ⟨hended.log, hended.count, hended.timedOut, hended.state⟩ fun _ => Step.noConfusion
  · rw [he]
    exact .refused h e

theorem rollback_leads (b : Backend σ) (h : t.Sound) (s : σ) :
    Step.rollback.Leads ((t.rollback b s).1.map fun _ => ()) t (t.rollback b s).2.1 := by
  unfold rollback
  rcases requireRevocable_spec t with ⟨hok, hin, hstate⟩ | ⟨e, he⟩
  · rw [hok]
    dsimp only
    have hended := revoke_endedBy b { t with deadline := none } .explicit s
    rcases hrun : { t with deadline := none }.revoke b .explicit s with ⟨e | _, t', s'⟩
    · rw [hrun] at hended ⊢
      exact .ended h hin hstate ⟨hended.log, hended.count, hended.timedOut, hended.state⟩
        fun _ => Step.noConfusion
    · rw [hrun] at hended ⊢
      exact .ended h hin hstate ⟨hended.log, hended.count, hended.timedOut, hended.state⟩
        fun _ => Step.noConfusion
  · rw [he]
    exact .refused h e

theorem expire_leads (b : Backend σ) (h : t.Sound) (s : σ) :
    Step.expire.Leads (.ok ()) t (t.expire b s).1 := by
  unfold expire
  split
  · next hpending =>
    have hin := h.inTime (Or.inr hpending)
    have hnot := not_finished hin (Or.inr (Or.inl hpending))
    dsimp only
    split_ifs
    · have hended := revoke_endedBy b
        { { t with timedOut := true, deadline := none }.emit (.timeout t.config.timeoutMs) with
          error := some t.timeoutError } .timeout s
      refine ⟨hended.sound h.count, ?_, fun hfinished => absurd hfinished hnot, hended.log⟩
      rw [hpending]
      rcases hended.state with ⟨hrolled, -⟩ | ⟨hbroken, -⟩
      · exact Or.inr (hrolled ▸ .revokes)
      · exact Or.inr (hbroken ▸ .breaks)
    · exact ⟨⟨h.count, h.applied_le, fun hfailed => absurd rfl hfailed, fun _ => Or.inr rfl⟩,
        Or.inr (hpending ▸ .breaks), fun hfinished => absurd hfinished hnot, rfl⟩
  · exact ⟨h, Or.inl rfl, fun _ => rfl, rfl⟩

namespace Step

/-- What a step does to a transaction for which `Sound` holds. -/
theorem leads (b : Backend σ) (h : t.Sound) (step : Step) (s : σ) :
    step.Leads (step.take b t s).1 t (step.take b t s).2.1 := by
  cases step with
  | begin now => exact begin_leads h now
  | enqueue m => exact enqueue_leads b h m s
  | commit => exact commit_leads b h s
  | rollback => exact rollback_leads b h s
  | expire => exact expire_leads b h s

/-- Whatever steps are taken, the transaction stays sound. -/
theorem sound_runAll (b : Backend σ) (h : t.Sound) (steps : List Step) (s : σ) :
    (runAll b steps t s).1.Sound := by
  induction steps generalizing t s with
  | nil => exact h
  | cons step rest ih => exact ih (step.leads b h s).sound _

end Step

/-! ### Which steps write -/

theorem enqueue_writes (b : Backend σ) (t : Transaction) (m : Mutation) (r : Recorded σ) :
    (t.enqueue b.recorded m r).2.2.writes = r.writes := by
  have hread := RollbackData.capture_readsOnly b t.log m r
  unfold enqueue
  rcases requirePending_spec t with ⟨hok, -, -⟩ | ⟨⟨e, he⟩, -⟩
  · rw [hok]
    rcases hrun : (RollbackData.capture b.recorded t.log m).perform r with ⟨e | rollback, r'⟩
    · rw [hrun] at hread
      exact hread
    · rw [hrun] at hread
      exact hread
  · rw [he]

theorem commit_writes (b : Backend σ) (h : t.state ≠ .pending) (r : Recorded σ) :
    (t.commit b.recorded r).2.2.writes = r.writes := by
  unfold commit
  rcases requirePending_spec t with ⟨-, -, hpending⟩ | ⟨⟨e, he⟩, -⟩
  · exact absurd hpending h
  · rw [he]

theorem rollback_writes (b : Backend σ) (h : t.Sound) (hstate : t.state ≠ .failed)
    (r : Recorded σ) : (t.rollback b.recorded r).2.2.writes = r.writes := by
  have hsame := @revoke_of_applied_eq_zero _ b.recorded { t with deadline := none } r
    (h.applied_eq_zero hstate) .explicit
  unfold rollback
  rcases requireRevocable_spec t with ⟨hok, -⟩ | ⟨e, he⟩
  · rw [hok]
    dsimp only
    rcases hrun : { t with deadline := none }.revoke b.recorded .explicit r with ⟨e | _, t', r'⟩
    · rw [hrun] at hsame ⊢
      exact congrArg Recorded.writes hsame
    · rw [hrun] at hsame ⊢
      exact congrArg Recorded.writes hsame
  · rw [he]

theorem expire_writes (b : Backend σ) (h : t.Sound) (r : Recorded σ) :
    (t.expire b.recorded r).2.writes = r.writes := by
  unfold expire
  split
  · next hpending =>
    -- a pending transaction has applied nothing
    have hzero := h.applied_eq_zero (by rw [hpending]; decide)
    dsimp only
    split_ifs
    · refine congrArg Recorded.writes (revoke_of_applied_eq_zero ?_ .timeout)
      exact hzero
    · rfl
  · rfl

/-- Only a commit of a pending transaction and a rollback of a failed one issue writes. -/
theorem Step.issues_no_write (b : Backend σ) (h : t.Sound) {step : Step}
    (hcommit : step = .commit → t.state ≠ .pending)
    (hrollback : step = .rollback → t.state ≠ .failed) (r : Recorded σ) :
    (step.take b.recorded t r).2.2.writes = r.writes := by
  cases step with
  | begin now => rfl
  | enqueue m => exact enqueue_writes b t m r
  | commit => exact commit_writes b (hcommit rfl) r
  | rollback => exact rollback_writes b h (hrollback rfl) r
  | expire => exact expire_writes b h r

/-! ### A whole life -/

/-- **Life of a transaction.**  Let a new transaction take any steps in any order, on a backend whose
calls may do and answer anything.  It counts the mutations in its log; no more of them are applied than
the log has, and none unless it has failed.  Whatever step is next, the transaction stays in its state
or moves from new to pending, from pending to committed, rolled back or failed, or from failed to rolled
back or failed; once it is committed or rolled back or its time has run out it does not change any more;
and its log grows by the mutation that a pending transaction accepts, and otherwise stays.  A write is
issued by no step but a commit of a pending transaction and a rollback of a failed one. -/
theorem lifecycle (b : Backend σ) (id : TransactionId) (config : TransactionConfig)
    (listeners : List Listener) (steps : List Step) (s : σ) :
    (let (t, s') := Step.runAll b steps { id, config, listeners } s
     t.mutationCount = t.log.length ∧ t.applied ≤ t.log.length ∧
      (t.state ≠ .failed → t.applied = 0) ∧
      ∀ step : Step,
        let (answer, t', _) := step.take b t s'
        (t'.state = t.state ∨ t.state.Moves t'.state) ∧
          (t.state = .committed ∨ t.state = .rolledBack ∨ t.timedOut = true → t' = t) ∧
          match step, answer with
          | .enqueue m, .ok () =>
            t.state = .pending ∧ ∃ rollback, t'.log = t.log ++ [⟨m, rollback⟩]
          | _, _ => t'.log = t.log) ∧
    let (t, r) := Step.runAll b.recorded steps { id, config, listeners } { state := s }
    ∀ step : Step, (step.take b.recorded t r).2.2.writes ≠ r.writes →
      step = .commit ∧ t.state = .pending ∨ step = .rollback ∧ t.state = .failed := by
  have hnew := Sound.of_new id config listeners
  refine ⟨?_, fun step hwrites => ?_⟩
  · have hsound := Step.sound_runAll b hnew steps s
    refine ⟨hsound.count, hsound.applied_le, hsound.applied_eq_zero, fun step => ?_⟩
    have hleads := step.leads b hsound (Step.runAll b steps { id, config, listeners } s).2
    exact ⟨hleads.state, hleads.finished, hleads.log⟩
  · have hsound := Step.sound_runAll b.recorded hnew steps { state := s }
    by_contra hnone
    rw [not_or, not_and, not_and] at hnone
    exact hwrites (Step.issues_no_write b hsound hnone.1 hnone.2 _)

end Transaction

end PropertyGraph
