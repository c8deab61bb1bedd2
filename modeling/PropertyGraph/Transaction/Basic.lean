import PropertyGraph.Transaction.Event
import PropertyGraph.Transaction.Mutation

/-!
# Transactions

A `Transaction` gathers mutations in a log, applies them together and undoes what it applied if
one of them fails.  It knows how many entries of its log are applied to the store at the moment,
whether its time ran out, and to whom events are to be delivered.
-/

namespace PropertyGraph

structure Transaction where
  id : TransactionId
  config : TransactionConfig := {}
  state : TransactionState := .new
  /-- When it began, in milliseconds of the clock. -/
  startedAt : Option Nat := none
  /-- When its time runs out, unless it is finished before. -/
  deadline : Option Nat := none
  log : List LogEntry := []
  /-- How many mutations were taken. -/
  mutationCount : Nat := 0
  /-- How many entries at the start of the log are applied and not undone. -/
  applied : Nat := 0
  timedOut : Bool := false
  /-- The last failure. -/
  error : Option Error := none
  listeners : List Listener := []
  /-- The events that listeners have taken down, one for each listener. -/
  deliveries : List TransactionEvent := []

/-- How a commit or a rollback ended. -/
structure TransactionResult where
  /-- The mutations took effect. -/
  success : Bool
  transaction : TransactionId
  mutationCount : Nat
  error : Option Error

namespace Transaction

def isPending (t : Transaction) : Bool := t.state == .pending

/-! ### Listeners -/

def listen (t : Transaction) (l : Listener) : Transaction :=
  { t with listeners := t.listeners ++ [l] }

/-- Delivers an event to those who listen to its kind at this moment. -/
def emit (t : Transaction) (event : TransactionEvent) : Transaction :=
  let called := t.listeners.filter fun l => l.kind == event.kind
  { t with
    listeners := t.listeners ++ called.flatMap Listener.registered
    deliveries := t.deliveries ++ called.map fun _ => event }

/-- The transaction as if no event had been delivered yet. -/
def withoutDeliveries (t : Transaction) : Transaction := { t with deliveries := [] }

/-- Keeps a failure and reports it. -/
def recordError (t : Transaction) (fault : Error) : Transaction :=
  { t with error := some fault }.emit (.error fault)

/-! ### States -/

def timeoutError (t : Transaction) : Error := .timeout t.id t.config.timeoutMs

/-- Fails unless mutations can be added and committed. -/
def requirePending (t : Transaction) : Except Error Unit :=
  if t.timedOut then .error t.timeoutError
  else
    match t.state with
    | .pending => .ok ()
    | .committed => .error (.alreadyCommitted t.id)
    | .rolledBack => .error (.alreadyRolledBack t.id)
    | .new | .failed => .error (.notPending t.id t.state)

/-- Fails unless the transaction can be rolled back. -/
def requireRevocable (t : Transaction) : Except Error Unit :=
  if t.timedOut then .error t.timeoutError
  else
    match t.state with
    | .pending | .failed => .ok ()
    | .committed => .error (.alreadyCommitted t.id)
    | .rolledBack => .error (.alreadyRolledBack t.id)
    | .new => .error (.notPending t.id t.state)

def result (t : Transaction) (success : Bool) : TransactionResult where
  success := success
  transaction := t.id
  mutationCount := t.log.length
  error := none

end Transaction

end PropertyGraph
