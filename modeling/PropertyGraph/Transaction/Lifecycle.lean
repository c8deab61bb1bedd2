import PropertyGraph.Transaction.Basic

/-!
# The life of a transaction

A new transaction is begun, takes mutations while it is pending, and is then committed or rolled
back, or its time runs out.  A commit applies the log in order; if that fails, what was applied is
undone at once, or later by a rollback.  An undoing that fails can be tried again, from the entry
at which it failed.
-/

namespace PropertyGraph.Transaction

variable {σ : Type}

/-- What a step of a transaction answers, and the transaction and the store after it. -/
abbrev Outcome (σ α : Type) := Except Error α × Transaction × σ

/-! ### Beginning -/

/-- Starts a new transaction at a time of the clock, and with it its timer. -/
def begin (t : Transaction) (now : Nat) : Except Error Unit × Transaction :=
  match t.state with
  | .new =>
    let t := { t with state := .pending, startedAt := some now }.emit .begin
    (.ok (), { t with
      deadline := if t.config.timeoutMs = 0 then none else some (now + t.config.timeoutMs) })
  | _ => (.error (.alreadyStarted t.id), t)

/-! ### Taking mutations -/

/-- Adds a mutation to the log of a pending transaction, with what undoing it will need. -/
def enqueue (b : Backend σ) (t : Transaction) (m : Mutation) (s : σ) : Outcome σ Unit :=
  match t.requirePending with
  | .error e => (.error e, t, s)
  | .ok () =>
    match (RollbackData.capture b t.log m).perform s with
    | (.error e, s) => (.error e, t, s)
    | (.ok rollback, s) =>
      let log := t.log ++ [⟨m, rollback⟩]
      (.ok (), { t with log, mutationCount := log.length }, s)

/-! ### Applying and undoing -/

/-- Applies entries in order, of which the first has the given place in the log.  Gives the
failure that ended it and how many entries of the log are applied then. -/
def applyFrom (b : Backend σ) (place : Nat) : List LogEntry → σ → Option Error × Nat × σ
  | [], s => (none, place, s)
  | entry :: rest, s =>
    match (entry.mutation.apply b).perform s with
    | (.ok (), s) => applyFrom b (place + 1) rest s
    | (.error cause, s) => (some (.mutationFailed place entry.name cause), place, s)

/-- Undoes entries, given from the last one on.  Gives the failure that ended it and how many
entries are still applied then. -/
def undoEach (b : Backend σ) : List LogEntry → σ → Option Error × Nat × σ
  | [], s => (none, 0, s)
  | entry :: rest, s =>
    match (entry.undo b).perform s with
    | (.ok (), s) => undoEach b rest s
    | (.error cause, s) =>
      (some (.mutationFailed rest.length ("undo " ++ entry.name) cause), rest.length + 1, s)

/-- Undoes what is applied.  The transaction is rolled back then, or failed if that fails. -/
def revoke (b : Backend σ) (t : Transaction) (reason : RollbackReason) (s : σ) :
    Outcome σ Unit :=
  match undoEach b (t.log.take t.applied).reverse s with
  | (none, remaining, s) =>
    let undone := t.applied
    (.ok (), { t with state := .rolledBack, applied := remaining }.emit (.rollback undone reason),
      s)
  | (some fault, remaining, s) =>
    (.error fault, { t with state := .failed, applied := remaining }.recordError fault, s)

/-! ### Finishing -/

/-- What becomes of a transaction whose commit failed. -/
def afterFailure (b : Backend σ) (t : Transaction) (s : σ) : Transaction × σ :=
  if t.config.autoRollback then (t.revoke b .commitFailed s).2
  else ({ t with state := .failed }, s)

/-- Applies the whole log.  If an entry fails, its failure is the answer, whatever becomes of the
undoing. -/
def commit (b : Backend σ) (t : Transaction) (s : σ) : Outcome σ TransactionResult :=
  match t.requirePending with
  | .error e => (.error e, t, s)
  | .ok () =>
    let t := { t with deadline := none }
    match applyFrom b 0 t.log s with
    | (none, _, s) =>
      let t := { t with state := .committed, applied := 0 }.emit (.commit t.log.length)
      (.ok (t.result true), t, s)
    | (some fault, applied, s) =>
      (.error fault, afterFailure b ({ t with applied }.recordError fault) s)

/-- Gives up what is pending, or undoes what a failed commit left applied. -/
def rollback (b : Backend σ) (t : Transaction) (s : σ) : Outcome σ TransactionResult :=
  match t.requireRevocable with
  | .error e => (.error e, t, s)
  | .ok () =>
    match { t with deadline := none }.revoke b .explicit s with
    | (.ok (), t, s) => (.ok (t.result false), t, s)
    | (.error e, t, s) => (.error e, t, s)

/-- What happens when the time of a transaction runs out: if it is still pending, it ends. -/
def expire (b : Backend σ) (t : Transaction) (s : σ) : Transaction × σ :=
  match t.state with
  | .pending =>
    let t := { t with timedOut := true, deadline := none }.emit (.timeout t.config.timeoutMs)
    let t := { t with error := some t.timeoutError }
    if t.config.autoRollback then (t.revoke b .timeout s).2
    else ({ t with state := .failed }, s)
  | _ => (t, s)

/-- Lets the clock reach a time. -/
def advance (b : Backend σ) (t : Transaction) (now : Nat) (s : σ) : Transaction × σ :=
  match t.deadline with
  | some deadline => if deadline ≤ now then t.expire b s else (t, s)
  | none => (t, s)

end PropertyGraph.Transaction
