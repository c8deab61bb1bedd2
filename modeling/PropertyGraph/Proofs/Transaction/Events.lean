import Mathlib.Data.List.Induction
import PropertyGraph.Proofs.Transaction.Lifecycle

/-!
# Events of a transaction

`Tells` says which events the listeners of a transaction have taken down between two moments of its
life.  `Step.Course` is the list of all that one step can do to a transaction, together with the events
that it tells; a run of any steps then keeps a `Chronicle`, in which every end of a transaction is told
once and under its own name (`Step.chronicle_runAll`).  `completion_events` reads the chronicle off the
deliveries.
-/

namespace PropertyGraph

variable {σ : Type}

/-! ### Deliveries -/

namespace TransactionEvent

/-- What listeners take down of an event: each one that listens to its kind takes it down once. -/
def heardBy (listeners : List Listener) (event : TransactionEvent) : List TransactionEvent :=
  (listeners.filter fun l => l.kind == event.kind).map fun _ => event

theorem eq_of_mem_heardBy {listeners : List Listener} {event e : TransactionEvent}
    (h : e ∈ event.heardBy listeners) : e = event := by
  obtain ⟨_, -, heq⟩ := List.mem_map.mp h
  exact heq.symm

/-- Of the events of a kind is heard what is told of them. -/
theorem filter_heardBy (listeners : List Listener) (events : List TransactionEvent)
    (kind : EventKind) :
    (events.flatMap (heardBy listeners)).filter (fun e => e.kind == kind)
      = (events.filter fun e => e.kind == kind).flatMap (heardBy listeners) := by
  induction events with
  | nil => rfl
  | cons event rest ih =>
    rw [List.flatMap_cons, List.filter_append, ih, List.filter_cons]
    by_cases hkind : (event.kind == kind) = true
    · have hall : (event.heardBy listeners).filter (fun e => e.kind == kind)
          = event.heardBy listeners :=
        List.filter_eq_self.mpr fun e he => eq_of_mem_heardBy he ▸ hkind
      rw [hall, if_pos hkind, List.flatMap_cons]
    · have hnone : (event.heardBy listeners).filter (fun e => e.kind == kind) = [] :=
        List.filter_eq_nil_iff.mpr fun e he => eq_of_mem_heardBy he ▸ hkind
      rw [hnone, if_neg hkind, List.nil_append]

end TransactionEvent

namespace Transaction

variable {t t' t'' : Transaction} {events more : List TransactionEvent}

/-- What those who listen to a kind of events have taken down. -/
def heard (t : Transaction) (kind : EventKind) : List TransactionEvent :=
  t.deliveries.filter fun e => e.kind == kind

/-- The other transaction is a later one with the same listeners, who have taken these events down
since. -/
structure Tells (t : Transaction) (events : List TransactionEvent) (t' : Transaction) : Prop where
  config : t'.config = t.config
  listeners : t'.listeners = t.listeners
  deliveries : t'.deliveries = t.deliveries ++ events.flatMap (·.heardBy t.listeners)

theorem Tells.refl (t : Transaction) : t.Tells [] t where
  config := rfl
  listeners := rfl
  deliveries := (List.append_nil _).symm

theorem Tells.trans (h : t.Tells events t') (h' : t'.Tells more t'') :
    t.Tells (events ++ more) t'' where
  config := h'.config.trans h.config
  listeners := h'.listeners.trans h.listeners
  deliveries := by
    rw [h'.deliveries, h.deliveries, h.listeners, List.flatMap_append, List.append_assoc]

/-- Listeners that register no others take an event down, and that is all. -/
theorem emit_tells (hquiet : ∀ l ∈ t.listeners, l.registered = []) (event : TransactionEvent) :
    t.Tells [event] (t.emit event) where
  config := rfl
  listeners := by
    have hnone : (t.listeners.filter fun l => l.kind == event.kind).flatMap Listener.registered
        = [] :=
      List.flatMap_eq_nil_iff.mpr fun l hl => hquiet l (List.mem_of_mem_filter hl)
    show t.listeners ++ _ = _
    rw [hnone, List.append_nil]
  deliveries := by
    rw [List.flatMap_singleton]
    rfl

theorem recordError_tells (hquiet : ∀ l ∈ t.listeners, l.registered = []) (fault : Error) :
    t.Tells [.error fault] (t.recordError fault) := by
  have h := emit_tells (t := { t with error := some fault }) hquiet (.error fault)
  exact ⟨h.config, h.listeners, h.deliveries⟩

/-- An undoing tells how many entries it has undone, or why it failed. -/
theorem revoke_tells (hquiet : ∀ l ∈ t.listeners, l.registered = []) (b : Backend σ)
    (reason : RollbackReason) (s : σ) :
    let t' := (t.revoke b reason s).2.1
    t'.timedOut = t.timedOut ∧
      (t'.state = .rolledBack ∧ t.Tells [.rollback t.applied reason] t' ∨
        t'.state = .failed ∧ ∃ fault, t.Tells [.error fault] t') := by
  unfold revoke
  rcases undoEach b (t.log.take t.applied).reverse s with ⟨_ | fault, remaining, s'⟩
  · have h := emit_tells (t := { t with state := .rolledBack, applied := remaining }) hquiet
      (.rollback t.applied reason)
    exact ⟨rfl, Or.inl ⟨rfl, h.config, h.listeners, h.deliveries⟩⟩
  · have h := recordError_tells (t := { t with state := .failed, applied := remaining }) hquiet fault
    exact ⟨rfl, Or.inr ⟨rfl, fault, h.config, h.listeners, h.deliveries⟩⟩

namespace Step

/-! ### What one step tells -/

/-- How many entries of the log are applied when a step comes to undo them.  A commit applies entries
before; the other steps find what is applied. -/
def standing (b : Backend σ) : Step → Transaction → σ → Nat
  | .commit, t, s => (applyFrom b 0 t.log s).2.1
  | .begin _, t, _ | .enqueue _, t, _ | .rollback, t, _ | .expire, t, _ => t.applied

/-- What a step can do to a transaction, and the events that it tells.  If it comes to undo entries,
so many of them are applied then. -/
inductive Course (standing : Nat) (t t' : Transaction) : List TransactionEvent → Prop where
  /-- It is refused, or there is nothing to do. -/
  | rests (h : t' = t) : Course standing t t' []
  | takes (hstate : t.state = .pending) (hstate' : t'.state = .pending)
      (htimedOut : t'.timedOut = t.timedOut) : Course standing t t' []
  | begins (hstate : t.state = .new) (hstate' : t'.state = .pending)
      (htimedOut : t'.timedOut = t.timedOut) : Course standing t t' [.begin]
  | commits (hstate : t.state = .pending) (hstate' : t'.state = .committed)
      (htimedOut : t'.timedOut = t.timedOut) : Course standing t t' [.commit t'.log.length]
  /-- It fails, or its time runs out, or it is rolled back, in this order as far as it happens. -/
  | ends {first last : List TransactionEvent} (faults : List Error)
      (hstate : t.state = .pending ∨ t.state = .failed) (hin : t.timedOut = false)
      (hfirst : t'.timedOut = false ∧ first = [] ∨
        t'.timedOut = true ∧ first = [.timeout t.config.timeoutMs])
      (hlast : t'.state = .failed ∧ last = [] ∨
        t'.state = .rolledBack ∧ ∃ reason, last = [.rollback standing reason]) :
      Course standing t t' (first ++ faults.map .error ++ last)

/-- The end of a failed commit, or of a rollback: whatever was told before, an undoing follows. -/
theorem Course.of_revoke {first : List TransactionEvent} {standing : Nat} (faults : List Error)
    (hquiet : ∀ l ∈ t'.listeners, l.registered = []) (htells : t.Tells (first ++ faults.map .error) t')
    (hstate : t.state = .pending ∨ t.state = .failed) (hin : t.timedOut = false)
    (hfirst : t'.timedOut = false ∧ first = [] ∨
      t'.timedOut = true ∧ first = [.timeout t.config.timeoutMs])
    (hstanding : t'.applied = standing) (b : Backend σ) (reason : RollbackReason) (s : σ) :
    ∃ events, t.Tells events (t'.revoke b reason s).2.1 ∧
      Course standing t (t'.revoke b reason s).2.1 events := by
  obtain ⟨htimedOut, ⟨hstate', hlast⟩ | ⟨hstate', fault, hlast⟩⟩ := revoke_tells hquiet b reason s
  · rw [hstanding] at hlast
    refine ⟨_, htells.trans hlast, .ends faults hstate hin ?_ (Or.inr ⟨hstate', reason, rfl⟩)⟩
    rwa [htimedOut]
  · have htells' := htells.trans hlast
    rw [List.append_assoc] at htells'
    refine ⟨_, htells', ?_⟩
    have hcourse : Course standing t (t'.revoke b reason s).2.1
        (first ++ (faults ++ [fault]).map .error ++ []) := by
      refine .ends _ hstate hin ?_ (Or.inl ⟨hstate', rfl⟩)
      rwa [htimedOut]
    rwa [List.append_nil, List.map_append] at hcourse

end Step

theorem begin_course (hquiet : ∀ l ∈ t.listeners, l.registered = []) (now standing : Nat) :
    ∃ events, t.Tells events (t.begin now).2 ∧ Step.Course standing t (t.begin now).2 events := by
  unfold begin
  split
  · next hnew =>
    have h := emit_tells (t := { t with state := .pending, startedAt := some now }) hquiet .begin
    exact ⟨_, ⟨h.config, h.listeners, h.deliveries⟩, .begins hnew rfl rfl⟩
  · exact ⟨_, .refl t, .rests rfl⟩

theorem enqueue_course (b : Backend σ) (m : Mutation) (s : σ) (standing : Nat) :
    ∃ events, t.Tells events (t.enqueue b m s).2.1 ∧
      Step.Course standing t (t.enqueue b m s).2.1 events := by
  unfold enqueue
  rcases requirePending_spec t with ⟨hok, -, hpending⟩ | ⟨⟨e, he⟩, -⟩
  · rw [hok]
    rcases (RollbackData.capture b t.log m).perform s with ⟨e | rollback, s'⟩
    · exact ⟨_, .refl t, .rests rfl⟩
    · exact ⟨[], ⟨rfl, rfl, (List.append_nil _).symm⟩, .takes hpending hpending rfl⟩
  · rw [he]
    exact ⟨_, .refl t, .rests rfl⟩

theorem commit_course (hquiet : ∀ l ∈ t.listeners, l.registered = []) (b : Backend σ) (s : σ) :
    ∃ events, t.Tells events (t.commit b s).2.1 ∧
      Step.Course (applyFrom b 0 t.log s).2.1 t (t.commit b s).2.1 events := by
  unfold commit
  rcases requirePending_spec t with ⟨hok, hin, hpending⟩ | ⟨⟨e, he⟩, -⟩
  · rw [hok]
    dsimp only
    rcases applyFrom b 0 t.log s with ⟨_ | fault, applied, s'⟩
    · have h := emit_tells (t := { t with deadline := none, state := .committed, applied := 0 }) hquiet
        (.commit t.log.length)
      exact ⟨_, ⟨h.config, h.listeners, h.deliveries⟩, .commits hpending rfl rfl⟩
    · -- the failure is told first, and what becomes of the undoing behind it
      have hfault := recordError_tells (t := { t with deadline := none, applied }) hquiet fault
      have htells : t.Tells [.error fault] ({ t with deadline := none, applied }.recordError fault) :=
        ⟨hfault.config, hfault.listeners, hfault.deliveries⟩
      have hquiet' : ∀ l ∈ ({ t with deadline := none, applied }.recordError fault).listeners,
          l.registered = [] := by
        rw [htells.listeners]
        exact hquiet
      unfold afterFailure
      dsimp only
      split_ifs
      · exact Step.Course.of_revoke [fault] hquiet' htells (Or.inl hpending) hin (Or.inl ⟨hin, rfl⟩) rfl
          b _ s'
      · have hcourse : Step.Course applied t
            { { t with deadline := none, applied }.recordError fault with state := .failed }
            ([] ++ [fault].map .error ++ []) :=
          .ends [fault] (Or.inl hpending) hin (Or.inl ⟨hin, rfl⟩) (Or.inl ⟨rfl, rfl⟩)
        exact ⟨_, ⟨htells.config, htells.listeners, htells.deliveries⟩, hcourse⟩
  · rw [he]
    exact ⟨_, .refl t, .rests rfl⟩

theorem rollback_course (hquiet : ∀ l ∈ t.listeners, l.registered = []) (b : Backend σ) (s : σ) :
    ∃ events, t.Tells events (t.rollback b s).2.1 ∧
      Step.Course t.applied t (t.rollback b s).2.1 events := by
  unfold rollback
  rcases requireRevocable_spec t with ⟨hok, hin, hstate⟩ | ⟨e, he⟩
  · rw [hok]
    dsimp only
    have htells : t.Tells [] { t with deadline := none } := ⟨rfl, rfl, (List.append_nil _).symm⟩
    have hquiet' : ∀ l ∈ ({ t with deadline := none } : Transaction).listeners,
        l.registered = [] := hquiet
    have hcourse := Step.Course.of_revoke [] hquiet' htells hstate hin (Or.inl ⟨hin, rfl⟩) rfl
      b .explicit s
    rcases hrun : { t with deadline := none }.revoke b .explicit s with ⟨e | _, t', s'⟩
    · rw [hrun] at hcourse ⊢
      exact hcourse
    · rw [hrun] at hcourse ⊢
      exact hcourse
  · rw [he]
    exact ⟨_, .refl t, .rests rfl⟩

theorem expire_course (hsound : t.Sound) (hquiet : ∀ l ∈ t.listeners, l.registered = [])
    (b : Backend σ) (s : σ) :
    ∃ events, t.Tells events (t.expire b s).1 ∧ Step.Course t.applied t (t.expire b s).1 events := by
  unfold expire
  split
  · next hpending =>
    have hin := hsound.inTime (Or.inr hpending)
    have hout := emit_tells (t := { t with timedOut := true, deadline := none }) hquiet
      (.timeout t.config.timeoutMs)
    have htells : t.Tells [.timeout t.config.timeoutMs]
        { { t with timedOut := true, deadline := none }.emit (.timeout t.config.timeoutMs) with
          error := some t.timeoutError } := ⟨hout.config, hout.listeners, hout.deliveries⟩
    dsimp only
    split_ifs
    · refine Step.Course.of_revoke [] ?_ htells (Or.inl hpending) hin (Or.inr ⟨rfl, rfl⟩) rfl b _ s
      intro l hl
      exact hquiet l (hout.listeners ▸ hl)
    · refine ⟨_, ⟨htells.config, htells.listeners, htells.deliveries⟩, ?_⟩
      have hlast : [TransactionEvent.timeout t.config.timeoutMs]
          = [.timeout t.config.timeoutMs] ++ [].map .error ++ [] := rfl
      rw [hlast]
      exact .ends [] (Or.inl hpending) hin (Or.inr ⟨rfl, rfl⟩) (Or.inl ⟨rfl, rfl⟩)
  · exact ⟨_, .refl t, .rests rfl⟩

/-- Every step takes one of the courses. -/
theorem Step.course (b : Backend σ) (hsound : t.Sound) (hquiet : ∀ l ∈ t.listeners, l.registered = [])
    (step : Step) (s : σ) :
    ∃ events, t.Tells events (step.take b t s).2.1 ∧
      Step.Course (step.standing b t s) t (step.take b t s).2.1 events := by
  cases step with
  | begin now => exact begin_course hquiet now t.applied
  | enqueue m => exact enqueue_course b m s t.applied
  | commit => exact commit_course hquiet b s
  | rollback => exact rollback_course hquiet b s
  | expire => exact expire_course hsound hquiet b s

/-! ### What a whole run tells -/

/-- What is true of the events that a transaction has told since it was new. -/
structure Chronicle (t : Transaction) (events : List TransactionEvent) : Prop where
  /-- The beginning is told first, and once. -/
  begun : t.state = .new ∧ events = [] ∨
    t.state ≠ .new ∧ ∃ later, events = .begin :: later ∧ ∀ e ∈ later, e.kind ≠ .begin
  committed : events.filter (fun e => e.kind == .commit)
    = if t.state = .committed then [.commit t.log.length] else []
  timedOut : events.filter (fun e => e.kind == .timeout)
    = if t.timedOut then [.timeout t.config.timeoutMs] else []
  revoked : t.state ≠ .rolledBack → events.filter (fun e => e.kind == .rollback) = []

/-- What is told later does not begin the transaction again. -/
theorem Chronicle.begun_append (h : t.Chronicle events) (hstate : t.state ≠ .new)
    (hstate' : t'.state ≠ .new) (hmore : ∀ e ∈ more, e.kind ≠ .begin) :
    t'.state = .new ∧ events ++ more = [] ∨ t'.state ≠ .new ∧
      ∃ later, events ++ more = .begin :: later ∧ ∀ e ∈ later, e.kind ≠ .begin := by
  rcases h.begun with ⟨hnew, -⟩ | ⟨-, later, hevents, hlater⟩
  · exact absurd hnew hstate
  · refine Or.inr ⟨hstate', later ++ more, by rw [hevents]; rfl, fun e he => ?_⟩
    exact (List.mem_append.mp he).elim (hlater e) (hmore e)

theorem filter_faults {kind : EventKind} (hkind : kind ≠ .error) (faults : List Error) :
    (faults.map TransactionEvent.error).filter (fun e => e.kind == kind) = [] := by
  refine List.filter_eq_nil_iff.mpr fun e he => ?_
  obtain ⟨fault, -, rfl⟩ := List.mem_map.mp he
  rw [beq_iff_eq]
  exact hkind.symm

/-- Where a transaction ends, only the running out of its time and its rollback are told apart from
faults. -/
theorem filter_ended {first last : List TransactionEvent} {kind : EventKind} (hkind : kind ≠ .error)
    (hfirst : first = [] ∨ ∃ limit, first = [.timeout limit]) (faults : List Error)
    (hlast : last = [] ∨ ∃ undone reason, last = [.rollback undone reason]) :
    (first ++ faults.map TransactionEvent.error ++ last).filter (fun e => e.kind == kind)
      = match kind with
        | .timeout => first
        | .rollback => last
        | _ => [] := by
  rw [List.filter_append, List.filter_append, filter_faults hkind, List.append_nil]
  rcases hfirst with rfl | ⟨limit, rfl⟩ <;> rcases hlast with rfl | ⟨undone, reason, rfl⟩ <;>
    cases kind <;> rfl

/-- What holds of the events so far still holds when a step has told some more. -/
theorem Chronicle.step {standing : Nat} (h : t.Chronicle events) (hconfig : t'.config = t.config)
    (hcourse : Step.Course standing t t' more) : t'.Chronicle (events ++ more) := by
  have hcommitted := h.committed
  have htimedOut := h.timedOut
  cases hcourse with
  | rests hsame =>
    rw [hsame, List.append_nil]
    exact h
  | takes hstate hstate' hin =>
    rw [hstate, if_neg (by decide)] at hcommitted
    refine ⟨h.begun_append ?_ ?_ fun e he => (List.not_mem_nil he).elim, ?_, ?_, fun _ => ?_⟩
    · rw [hstate]; decide
    · rw [hstate']; decide
    · rw [List.append_nil, hcommitted, hstate', if_neg (by decide)]
    · rw [List.append_nil, htimedOut, hin, hconfig]
    · rw [List.append_nil]
      exact h.revoked (by rw [hstate]; decide)
  | begins hstate hstate' hin =>
    obtain rfl : events = [] := by
      rcases h.begun with ⟨-, hnone⟩ | ⟨hbegun, -⟩
      · exact hnone
      · exact absurd hstate hbegun
    refine ⟨Or.inr ⟨by rw [hstate']; decide, [], rfl, fun e he => (List.not_mem_nil he).elim⟩, ?_, ?_,
      fun _ => rfl⟩
    · rw [hstate', if_neg (by decide)]
      rfl
    · rw [hin, hconfig, ← htimedOut]
      rfl
  | commits hstate hstate' hin =>
    rw [hstate, if_neg (by decide)] at hcommitted
    refine ⟨h.begun_append ?_ ?_ fun e he => ?_, ?_, ?_, fun _ => ?_⟩
    · rw [hstate]; decide
    · rw [hstate']; decide
    · rw [List.mem_singleton.mp he]
      exact EventKind.noConfusion
    · rw [List.filter_append, hcommitted, hstate', if_pos rfl]
      rfl
    · rw [List.filter_append, htimedOut, hin, hconfig]
      exact List.append_nil _
    · rw [List.filter_append, h.revoked (by rw [hstate]; decide)]
      rfl
  | @ends first last faults hstate hin hfirst hlast =>
    have hopen : t.state ≠ .new ∧ t.state ≠ .committed ∧ t.state ≠ .rolledBack := by
      rcases hstate with hstate | hstate <;> rw [hstate] <;> decide
    have hended : t'.state ≠ .new ∧ t'.state ≠ .committed := by
      rcases hlast with ⟨hstate', -⟩ | ⟨hstate', -⟩ <;> rw [hstate'] <;> decide
    have htold := fun kind (hkind : kind ≠ EventKind.error) => filter_ended hkind
      (hfirst.imp And.right fun h => ⟨t.config.timeoutMs, h.2⟩) faults
      (hlast.imp And.right fun h => ⟨standing, h.2⟩)
    rw [if_neg hopen.2.1] at hcommitted
    refine ⟨h.begun_append hopen.1 hended.1 fun e he hbegin => ?_, ?_, ?_, fun hstate' => ?_⟩
    · have hnone := htold .begin (by decide)
      exact List.filter_eq_nil_iff.mp hnone e he (beq_iff_eq.mpr hbegin)
    · rw [List.filter_append, hcommitted, htold .commit (by decide), if_neg hended.2]
      rfl
    · rw [hin] at htimedOut
      rw [List.filter_append, htimedOut, htold .timeout (by decide), hconfig]
      rcases hfirst with ⟨hin', rfl⟩ | ⟨hout, rfl⟩
      · rw [hin']
        rfl
      · rw [hout]
        rfl
    · rw [List.filter_append, h.revoked hopen.2.2, htold .rollback (by decide)]
      rcases hlast with ⟨-, rfl⟩ | ⟨hrolled, -⟩
      · rfl
      · exact absurd hrolled hstate'

namespace Step

/-- The step takes the transaction to where it is rolled back. -/
def RollsBack (b : Backend σ) (step : Step) (t : Transaction) (s : σ) : Prop :=
  t.state ≠ .rolledBack ∧ (step.take b t s).2.1.state = .rolledBack

theorem runAll_concat (b : Backend σ) (steps : List Step) (step : Step) (t : Transaction) (s : σ) :
    runAll b (steps ++ [step]) t s
      = (step.take b (runAll b steps t s).1 (runAll b steps t s).2).2 :=
  List.foldl_concat ..

/-- A step that rolls a transaction back tells so once. -/
theorem Course.rollback_told {standing : Nat} (h : Course standing t t' events)
    (hbefore : t.state ≠ .rolledBack) (hafter : t'.state = .rolledBack) :
    ∃ reason, events.filter (fun e => e.kind == .rollback) = [.rollback standing reason] := by
  cases h with
  | rests hsame => exact absurd (hsame ▸ hafter) hbefore
  | takes _ hstate' _ => rw [hstate'] at hafter; cases hafter
  | begins _ hstate' _ => rw [hstate'] at hafter; cases hafter
  | commits _ hstate' _ => rw [hstate'] at hafter; cases hafter
  | ends faults _ _ hfirst hlast =>
    rcases hlast with ⟨hfailed, -⟩ | ⟨-, reason, rfl⟩
    · rw [hfailed] at hafter; cases hafter
    · have hkind : EventKind.rollback ≠ .error := by decide
      exact ⟨reason, filter_ended hkind
        (hfirst.imp And.right fun h => ⟨t.config.timeoutMs, h.2⟩) faults
        (Or.inr ⟨standing, reason, rfl⟩)⟩

/-- What is rolled back tells nothing more. -/
theorem Course.eq_nil {standing : Nat} (h : Course standing t t' events)
    (hstate : t.state = .rolledBack) : events = [] := by
  cases h with
  | rests _ => rfl
  | takes _ _ _ => rfl
  | begins hnew _ _ => rw [hnew] at hstate; cases hstate
  | commits hpending _ _ => rw [hpending] at hstate; cases hstate
  | ends _ hopen _ _ _ => rcases hopen with hopen | hopen <;> rw [hopen] at hstate <;> cases hstate

/-- Whatever steps a new transaction takes, it keeps a chronicle; and if it is rolled back then by one of
the steps, and what is told of it is how many entries were applied when that step came to undo them. -/
theorem chronicle_runAll (b : Backend σ) (hnew : t.state = .new) (hin : t.timedOut = false)
    (hsound : t.Sound) (hquiet : ∀ l ∈ t.listeners, l.registered = []) (steps : List Step) (s : σ) :
    ∃ events, t.Tells events (runAll b steps t s).1 ∧ (runAll b steps t s).1.Chronicle events ∧
      ((runAll b steps t s).1.state = .rolledBack → ∃ before step after reason,
        steps = before ++ step :: after ∧
          step.RollsBack b (runAll b before t s).1 (runAll b before t s).2 ∧
          events.filter (fun e => e.kind == .rollback) =
            [.rollback (step.standing b (runAll b before t s).1 (runAll b before t s).2) reason]) := by
  induction steps using List.reverseRecOn with
  | nil =>
    refine ⟨[], .refl t, ⟨Or.inl ⟨hnew, rfl⟩, ?_, ?_, fun _ => rfl⟩, fun hrolled => ?_⟩
    · rw [show (runAll b [] t s).1.state = .new from hnew, if_neg (by decide)]
      rfl
    · rw [show (runAll b [] t s).1.timedOut = false from hin]
      rfl
    · rw [show (runAll b [] t s).1.state = .new from hnew] at hrolled
      cases hrolled
  | append_singleton steps step ih =>
    obtain ⟨events, htells, hchronicle, hrolled⟩ := ih
    have hquiet' : ∀ l ∈ (runAll b steps t s).1.listeners, l.registered = [] := by
      rw [htells.listeners]
      exact hquiet
    obtain ⟨more, htells', hcourse⟩ :=
      step.course b (sound_runAll b hsound steps s) hquiet' (runAll b steps t s).2
    rw [runAll_concat]
    refine ⟨events ++ more, htells.trans htells', hchronicle.step htells'.config hcourse,
      fun hrolled' => ?_⟩
    by_cases hstate : (runAll b steps t s).1.state = .rolledBack
    · obtain ⟨before, step', after, reason, rfl, hrolls, hevents⟩ := hrolled hstate
      refine ⟨before, step', after ++ [step], reason, ?_, hrolls, ?_⟩
      · rw [List.append_assoc, List.cons_append]
      · rw [hcourse.eq_nil hstate, List.append_nil, hevents]
    · obtain ⟨reason, hmore⟩ := hcourse.rollback_told hstate hrolled'
      refine ⟨steps, step, [], reason, rfl, ⟨hstate, hrolled'⟩, ?_⟩
      rw [List.filter_append, hchronicle.revoked hstate, hmore]
      rfl

/-! ### When time runs out -/

/-- Time runs out for what is pending, and no step but the expiry counts it as run out. -/
theorem timedOut_take (b : Backend σ) (step : Step) (t : Transaction) (s : σ) :
    (step.take b t s).2.1.timedOut = true ↔
      t.timedOut = true ∨ step = .expire ∧ t.state = .pending := by
  have hrevoke : ∀ (t' : Transaction) reason (s' : σ), t'.timedOut = t.timedOut →
      (t'.revoke b reason s').2.1.timedOut = t.timedOut :=
    fun t' reason s' h => (revoke_endedBy b t' reason s').timedOut.trans h
  have hsame : ∀ {t' : Transaction}, t'.timedOut = t.timedOut → step ≠ .expire →
      (t'.timedOut = true ↔ t.timedOut = true ∨ step = .expire ∧ t.state = .pending) := by
    intro t' h hstep
    rw [h]
    exact (or_iff_left fun hexpire => hstep hexpire.1).symm
  cases step with
  | begin now =>
    refine hsame ?_ Step.noConfusion
    unfold take Transaction.begin
    dsimp only
    split <;> rfl
  | enqueue m =>
    refine hsame ?_ Step.noConfusion
    unfold take Transaction.enqueue
    dsimp only
    split
    · rfl
    · split <;> rfl
  | commit =>
    refine hsame ?_ Step.noConfusion
    unfold take Transaction.commit
    dsimp only
    split
    · rfl
    · split
      · rfl
      · unfold afterFailure
        split_ifs
        · exact hrevoke _ _ _ rfl
        · rfl
  | rollback =>
    refine hsame ?_ Step.noConfusion
    unfold take Transaction.rollback
    dsimp only
    split
    · rfl
    · have h := hrevoke { t with deadline := none } .explicit s rfl
      split
      · next hrun => rw [hrun] at h; exact h
      · next hrun => rw [hrun] at h; exact h
  | expire =>
    unfold take Transaction.expire
    dsimp only
    split
    · next hpending =>
      refine iff_of_true ?_ (Or.inr ⟨rfl, hpending⟩)
      split_ifs
      · exact (revoke_endedBy b _ _ _).timedOut
      · rfl
    · next hstate => exact (or_iff_left fun h => hstate h.2).symm

/-- A run has run out of time if and only if time ran out while the transaction was pending. -/
theorem timedOut_runAll_iff (b : Backend σ) (hin : t.timedOut = false) (steps : List Step) (s : σ) :
    (runAll b steps t s).1.timedOut = true ↔ ∃ before after,
      steps = before ++ .expire :: after ∧ (runAll b before t s).1.state = .pending := by
  induction steps using List.reverseRecOn with
  | nil =>
    refine iff_of_false ?_ ?_
    · rw [show (runAll b [] t s).1.timedOut = false from hin]
      exact Bool.false_ne_true
    · rintro ⟨before, after, hsteps, -⟩
      exact List.append_ne_nil_of_right_ne_nil before (List.cons_ne_nil _ _) hsteps.symm
  | append_singleton steps step ih =>
    rw [runAll_concat, timedOut_take, ih]
    constructor
    · rintro (⟨before, after, rfl, hpending⟩ | ⟨rfl, hpending⟩)
      · exact ⟨before, after ++ [step], by rw [List.append_assoc, List.cons_append], hpending⟩
      · exact ⟨steps, [], rfl, hpending⟩
    · rintro ⟨before, after, hsteps, hpending⟩
      rcases List.eq_nil_or_concat after with rfl | ⟨after, last, rfl⟩
      · obtain ⟨rfl, hlast⟩ := List.append_inj' hsteps rfl
        exact Or.inr ⟨List.singleton_inj.mp hlast, hpending⟩
      · refine Or.inl ⟨before, after, ?_, hpending⟩
        rw [List.concat_eq_append, ← List.cons_append, ← List.append_assoc] at hsteps
        exact (List.append_inj' hsteps rfl).1

end Step

/-! ### What the listeners hear -/

/-- Of a kind of events is heard what has been told of it since nothing was taken down yet. -/
theorem Tells.heard_eq (h : t.Tells events t') (hfresh : t.deliveries = []) (kind : EventKind) :
    t'.heard kind = (events.filter fun e => e.kind == kind).flatMap (·.heardBy t.listeners) := by
  unfold heard
  rw [h.deliveries, hfresh, List.nil_append]
  exact TransactionEvent.filter_heardBy t.listeners events kind

/-- What is told once under a condition, and else not, is heard once under it, and else not. -/
theorem Tells.heard_ite (h : t.Tells events t') (hfresh : t.deliveries = []) {kind : EventKind}
    {c : Prop} [Decidable c] {event : TransactionEvent}
    (htold : events.filter (fun e => e.kind == kind) = if c then [event] else []) :
    t'.heard kind = if c then event.heardBy t.listeners else [] := by
  rw [h.heard_eq hfresh, htold]
  split_ifs
  · exact List.flatMap_singleton ..
  · rfl

/-- What has run out of time is rolled back or failed, so it is not committed. -/
theorem Sound.not_committed (h : t.Sound) (hout : t.timedOut = true) : t.state ≠ .committed := by
  intro hcommitted
  rcases h.of_timedOut hout with hended | hended <;> rw [hended] at hcommitted <;> cases hcommitted

/-- **Events of a transaction.**  Let a new transaction, with listeners that do nothing but take events
down, take any steps in any order, on a backend whose calls may do and answer anything.  Its beginning is
heard before all else and once, unless it is still new.  Its commit is heard once if it is committed, and
else not.  Its rollback is heard once if it is rolled back, and else not; what is heard is how many
entries of the log were applied when the step that rolled it back came to undo them.  That its time ran
out is heard once if it did, which is if it was pending at an expiry, and else not; and this is never
heard together with a commit. -/
theorem completion_events (b : Backend σ) (id : TransactionId) (config : TransactionConfig)
    (listeners : List Listener) (hquiet : ∀ l ∈ listeners, l.registered = []) (steps : List Step)
    (s : σ) :
    let run := fun steps => Step.runAll b steps { id, config, listeners } s
    let t := (run steps).1
    (if t.state = .new then t.deliveries = []
      else ∃ later, t.deliveries = TransactionEvent.begin.heardBy listeners ++ later ∧
        ∀ e ∈ later, e.kind ≠ .begin) ∧
    t.heard .commit = (if t.state = .committed
      then (TransactionEvent.commit t.log.length).heardBy listeners else []) ∧
    (if t.state = .rolledBack
      then ∃ before step after reason, steps = before ++ step :: after ∧
        step.RollsBack b (run before).1 (run before).2 ∧
        t.heard .rollback = (TransactionEvent.rollback
          (step.standing b (run before).1 (run before).2) reason).heardBy listeners
      else t.heard .rollback = []) ∧
    t.heard .timeout = (if t.timedOut
      then (TransactionEvent.timeout config.timeoutMs).heardBy listeners else []) ∧
    (t.timedOut = true ↔ ∃ before after, steps = before ++ .expire :: after ∧
      (run before).1.state = .pending) ∧
    (t.heard .timeout = [] ∨ t.heard .commit = []) := by
  intro run t
  have hsound := Sound.of_new id config listeners
  obtain ⟨events, htells, hchronicle, hrolled⟩ :=
    Step.chronicle_runAll b (t := { id, config, listeners }) rfl rfl hsound hquiet steps s
  have hconfig : t.config = config := htells.config
  have hcommit : t.heard .commit = (if t.state = .committed
      then (TransactionEvent.commit t.log.length).heardBy listeners else []) :=
    htells.heard_ite rfl hchronicle.committed
  have htimeout : t.heard .timeout = (if t.timedOut
      then (TransactionEvent.timeout config.timeoutMs).heardBy listeners else []) :=
    htells.heard_ite rfl (hconfig ▸ hchronicle.timedOut)
  refine ⟨?_, hcommit, ?_, htimeout, Step.timedOut_runAll_iff b rfl steps s, ?_⟩
  · have hdeliveries : t.deliveries = events.flatMap (·.heardBy listeners) := htells.deliveries
    rcases hchronicle.begun with ⟨hnew, rfl⟩ | ⟨hbegun, later, rfl, hlater⟩
    · rw [if_pos hnew]
      exact hdeliveries
    · rw [if_neg hbegun]
      rw [List.flatMap_cons] at hdeliveries
      refine ⟨later.flatMap (·.heardBy listeners), hdeliveries, fun e he => ?_⟩
      obtain ⟨event, hevent, he⟩ := List.mem_flatMap.mp he
      rw [TransactionEvent.eq_of_mem_heardBy he]
      exact hlater event hevent
  · split_ifs with hstate
    · obtain ⟨before, step, after, reason, hsteps, hrolls, hevents⟩ := hrolled hstate
      refine ⟨before, step, after, reason, hsteps, hrolls, ?_⟩
      rw [htells.heard_eq rfl, hevents]
      exact List.flatMap_singleton ..
    · rw [htells.heard_eq rfl, hchronicle.revoked hstate]
      rfl
  · by_cases hout : t.timedOut = true
    · have hended := (Step.sound_runAll b hsound steps s).not_committed hout
      exact Or.inr (by rw [hcommit, if_neg hended])
    · exact Or.inl (by rw [htimeout, if_neg hout])

/-- One listener to each kind of events. -/
def listenersToAll : List Listener := EventKind.all.map fun kind => { kind }

/-- A commit that fails at its second mutation, with a rollback and an expiry behind it. -/
def lateRecovery : List Step :=
  [.begin 0, .enqueue (.addNode ⟨"c", [], .empty⟩), .enqueue (.addNode ⟨"a", [], .empty⟩), .commit,
    .rollback, .expire]

theorem completion_events_recovery :
    (∀ l ∈ listenersToAll, l.registered = []) ∧
      let t := (Step.runAll Store.backend lateRecovery
        { id := "t", config := { autoRollback := false }, listeners := listenersToAll } Store.pair).1
      t.state = .rolledBack ∧ t.heard .rollback = [.rollback 1 .explicit] ∧ t.heard .commit = [] ∧
        t.heard .timeout = [] ∧
        ∃ later, t.deliveries = .begin :: later ∧ ∀ e ∈ later, e.kind ≠ .begin := by
  have hquiet : ∀ l ∈ listenersToAll, l.registered = [] := by decide
  refine ⟨hquiet, ?_⟩
  intro t
  have hstate : t.state = .rolledBack := by decide +kernel
  have hundone : t.heard .rollback = [.rollback 1 .explicit] := rfl
  obtain ⟨hbegin, hcommit, -, htimeout, -⟩ :=
    completion_events Store.backend "t" { autoRollback := false } listenersToAll hquiet lateRecovery
      Store.pair
  exact ⟨hstate, hundone, hcommit, htimeout, hbegin⟩

end Transaction

end PropertyGraph
