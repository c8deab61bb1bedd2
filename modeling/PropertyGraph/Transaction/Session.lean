import PropertyGraph.Collection.SortedMap
import PropertyGraph.Transaction.Lifecycle

/-!
# Sessions

A `Session` runs transactions, each under a name, over one store and by one clock.  Nothing keeps
them apart: each reads and writes the store as the others left it.
-/

namespace PropertyGraph

variable {σ α : Type}

structure Session (σ : Type) where
  backend : Backend σ
  store : σ
  /-- The time in milliseconds. -/
  clock : Nat := 0
  transactions : SortedMap String Transaction := .empty
  /-- What transactions that are gone delivered under their names and nobody has read. -/
  unread : SortedMap String (List TransactionEvent) := .empty

namespace Session

def transaction? (s : Session σ) (name : String) : Option Transaction :=
  s.transactions.find? name

/-- The session with a transaction, in place of one of the same name. -/
def keep (s : Session σ) (name : String) (t : Transaction) : Session σ :=
  { s with transactions := s.transactions.insert name t }

/-- What was delivered under a name and not read. -/
def deliveries (s : Session σ) (name : String) : List TransactionEvent :=
  match s.transaction? name with
  | some t => t.deliveries
  | none => (s.unread.find? name).getD []

/-- A new transaction that is to have a name, with what was delivered under the name before. -/
def inherit (s : Session σ) (name : String) (t : Transaction) : Transaction :=
  { t with deliveries := s.deliveries name ++ t.deliveries }

/-- The session without a transaction, whose timer goes with it.  What it delivered stays. -/
def drop (s : Session σ) (name : String) : Session σ :=
  { s with
    transactions := s.transactions.erase name
    unread := s.unread.insert name (s.deliveries name) }

/-- Makes a call on the store. -/
def perform (s : Session σ) (call : Access σ α) : Except Error α × Session σ :=
  let (answer, store) := call.perform s.store
  (answer, { s with store })

/-- Lets a transaction that has a name take a step on the store. -/
def take (s : Session σ) (name : String) (t : Transaction)
    (step : Backend σ → Transaction → σ → Transaction.Outcome σ α) :
    Except Error α × Session σ :=
  let (answer, t, store) := step s.backend t s.store
  (answer, { s with store }.keep name t)

/-- Begins a transaction at the time of the clock. -/
def begin (s : Session σ) (name : String) (t : Transaction) : Except Error Unit × Session σ :=
  let (answer, t) := t.begin s.clock
  (answer, s.keep name t)

/-- Lets some time pass.  Transactions whose time runs out meanwhile end. -/
def elapse (s : Session σ) (milliseconds : Nat) : Session σ :=
  let clock := s.clock + milliseconds
  s.transactions.entries.foldl (fun s e =>
    let (t, store) := e.2.advance s.backend clock s.store
    { s with store }.keep e.1 t) { s with clock }

end Session

end PropertyGraph
