import PropertyGraph.Error

/-!
# Events of a transaction

A transaction tells its listeners what becomes of it.  A listener is described by the kind of event
that it listens to and by what it does when one is delivered.
-/

namespace PropertyGraph

inductive EventKind where
  | begin
  | commit
  | rollback
  | error
  | timeout
deriving DecidableEq

namespace EventKind

def all : List EventKind := [.begin, .commit, .rollback, .error, .timeout]

def name : EventKind → String
  | .begin => "begin"
  | .commit => "commit"
  | .rollback => "rollback"
  | .error => "error"
  | .timeout => "timeout"

def ofName? (name : String) : Option EventKind := all.find? fun kind => kind.name == name

end EventKind

/-- Why a transaction was rolled back. -/
inductive RollbackReason where
  | explicit
  | commitFailed
  | timeout
deriving DecidableEq

def RollbackReason.name : RollbackReason → String
  | .explicit => "Explicit"
  | .commitFailed => "CommitFailed"
  | .timeout => "Timeout"

inductive TransactionEvent where
  | begin
  | commit (mutations : Nat)
  /-- The number of mutations that had been applied and were undone. -/
  | rollback (undone : Nat) (reason : RollbackReason)
  | error (fault : Error)
  | timeout (timeoutMs : Nat)

def TransactionEvent.kind : TransactionEvent → EventKind
  | .begin => .begin
  | .commit _ => .commit
  | .rollback _ _ => .rollback
  | .error _ => .error
  | .timeout _ => .timeout

/-- What a listener does after it has taken an event down. -/
inductive Reaction where
  | done
  /-- It reports an error, which nobody hears of. -/
  | fail
  /-- It breaks down, which does not harm the transaction or other listeners. -/
  | breakDown
  /-- It registers another listener, which does nothing but take events down. -/
  | register (kind : EventKind)
deriving DecidableEq

structure Listener where
  kind : EventKind
  reaction : Reaction := .done
deriving DecidableEq

/-- The listeners that a listener registers when an event is delivered to it. -/
def Listener.registered (l : Listener) : List Listener :=
  match l.reaction with
  | .register kind => [{ kind }]
  | .done | .fail | .breakDown => []

end PropertyGraph
