/-!
# States and configuration of a transaction
-/

namespace PropertyGraph

/-- What names a transaction in messages. -/
abbrev TransactionId := String

inductive TransactionState where
  /-- Created and not begun. -/
  | new
  | pending
  | committed
  | rolledBack
  /-- A commit or rollback failed, or time ran out without an automatic rollback. -/
  | failed
deriving DecidableEq

namespace TransactionState

def name : TransactionState → String
  | .new => "new"
  | .pending => "pending"
  | .committed => "committed"
  | .rolledBack => "rolled_back"
  | .failed => "failed"

def isTerminal : TransactionState → Bool
  | .committed | .rolledBack | .failed => true
  | .new | .pending => false

end TransactionState

structure TransactionConfig where
  /-- The time from the beginning until the transaction runs out; `0` for no limit. -/
  timeoutMs : Nat := 5000
  /-- Undo what was applied when a commit fails or time runs out. -/
  autoRollback : Bool := true
deriving DecidableEq

end PropertyGraph
