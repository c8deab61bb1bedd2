import PropertyGraph.Pattern.Fault
import PropertyGraph.Projection.Fault
import PropertyGraph.Query.Fault
import PropertyGraph.Snapshot.Fault
import PropertyGraph.Store.Fault
import PropertyGraph.Transaction.State

/-!
# Errors

Every operation of the library that can fail does so with an `Error`, which says what was wrong.
`Error.message` puts it into words and `Error.kind` tells callers whether to mend their input, to
try again or to look at the store.
-/

namespace PropertyGraph

inductive Error where
  | invalidQuery (fault : QueryFault)
  | unknownOperator (name : String)
  | unknownAggregation (field op : String)
  | queryTooDeep (depth max : Nat)
  | invalidPlan (fault : PlanFault)
  | patternSyntax (position : Nat) (fault : SyntaxFault)
  | invalidSpec (fault : SpecFault)
  | invalidConfig
  | circularDependency (steps : List String)
  | unknownDependency (step dependency : String)
  | invalidSnapshot (fault : SnapshotFault)
  | alreadyStarted (tx : TransactionId)
  | notPending (tx : TransactionId) (state : TransactionState)
  | alreadyCommitted (tx : TransactionId)
  | alreadyRolledBack (tx : TransactionId)
  | timeout (tx : TransactionId) (timeoutMs : Nat)
  /-- The mutation at a place of the log failed, or its undoing did. -/
  | mutationFailed (index : Nat) (operation : String) (cause : Error)
  | storage (fault : StoreFault)
  | notFound (what : Absence)
  | constraintViolation (what : Conflict)

/-- What an error calls for. -/
inductive ErrorKind where
  /-- Malformed input: a query, a pattern, a specification or a configuration. -/
  | validation
  /-- An operation in the wrong state of a transaction. -/
  | state
  /-- Plans and snapshots that do not hold together. -/
  | structural
  | timeout
  /-- Raised by the store. -/
  | storage
deriving DecidableEq

def ErrorKind.name : ErrorKind → String
  | .validation => "Validation"
  | .state => "State"
  | .structural => "Structural"
  | .timeout => "Timeout"
  | .storage => "Storage"

namespace Error

/-- What sort of error it is, for programs. -/
def name : Error → String
  | .invalidQuery _ => "InvalidQuery"
  | .unknownOperator _ => "UnknownOperator"
  | .unknownAggregation _ _ => "UnknownAggregation"
  | .queryTooDeep _ _ => "QueryTooDeep"
  | .invalidPlan _ => "InvalidPlan"
  | .patternSyntax _ _ => "PatternSyntax"
  | .invalidSpec _ => "InvalidSpec"
  | .invalidConfig => "InvalidConfig"
  | .circularDependency _ => "CircularDependency"
  | .unknownDependency _ _ => "UnknownDependency"
  | .invalidSnapshot _ => "InvalidSnapshot"
  | .alreadyStarted _ => "AlreadyStarted"
  | .notPending _ _ => "NotPending"
  | .alreadyCommitted _ => "AlreadyCommitted"
  | .alreadyRolledBack _ => "AlreadyRolledBack"
  | .timeout _ _ => "Timeout"
  | .mutationFailed _ _ _ => "MutationFailed"
  | .storage _ => "StorageError"
  | .notFound _ => "NotFound"
  | .constraintViolation _ => "ConstraintViolation"

/-- What is wrong, for people. -/
def message : Error → String
  | .invalidQuery fault => "Invalid query: " ++ fault.message
  | .unknownOperator name => "Unknown operator: " ++ name
  | .unknownAggregation field op => "Unknown aggregation '" ++ op ++ "' for field '" ++ field ++ "'"
  | .queryTooDeep depth max =>
    "Query plan too deep: depth " ++ toString depth ++ " exceeds " ++ toString max
  | .invalidPlan fault => "Invalid plan: " ++ fault.message
  | .patternSyntax position fault =>
    "Pattern syntax error at position " ++ toString position ++ ": " ++ fault.message
  | .invalidSpec fault => "Invalid projection spec: " ++ fault.message
  | .invalidConfig => "Invalid configuration"
  | .circularDependency steps =>
    "Circular dependency between steps: " ++ String.intercalate ", " steps
  | .unknownDependency step dependency =>
    "Step '" ++ step ++ "' depends on unknown step '" ++ dependency ++ "'"
  | .invalidSnapshot fault => "Invalid snapshot: " ++ fault.message
  | .alreadyStarted tx => "Transaction " ++ tx ++ " already started"
  | .notPending tx state => "Transaction " ++ tx ++ " is " ++ state.name ++ ", not pending"
  | .alreadyCommitted tx => "Transaction " ++ tx ++ " already committed"
  | .alreadyRolledBack tx => "Transaction " ++ tx ++ " already rolled back"
  | .timeout tx timeoutMs =>
    "Transaction " ++ tx ++ " timed out after " ++ toString timeoutMs ++ "ms"
  | .mutationFailed index operation cause =>
    "Mutation " ++ toString index ++ " (" ++ operation ++ ") failed: " ++ cause.message
  | .storage fault => "Storage error: " ++ fault.message
  | .notFound what => "Not found: " ++ what.message
  | .constraintViolation what => "Constraint violation: " ++ what.message

/-- A failed mutation is of the kind of its cause. -/
def kind : Error → ErrorKind
  | .invalidQuery _ | .unknownOperator _ | .unknownAggregation _ _ | .queryTooDeep _ _
  | .patternSyntax _ _ | .invalidSpec _ | .invalidConfig => .validation
  | .invalidPlan _ | .circularDependency _ | .unknownDependency _ _ | .invalidSnapshot _ =>
    .structural
  | .alreadyStarted _ | .notPending _ _ | .alreadyCommitted _ | .alreadyRolledBack _ => .state
  | .timeout _ _ => .timeout
  | .mutationFailed _ _ cause => cause.kind
  | .storage _ | .notFound _ | .constraintViolation _ => .storage

end Error

end PropertyGraph
