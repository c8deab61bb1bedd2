import PropertyGraph.Query.Operator
import PropertyGraph.Value.Json
import PropertyGraph.Value.Path

/-!
# Filters

A `Filter` combines conditions on the fields of a row.  A filter record reads as the list of its
entries, all of which must hold: a field with a plain value asks for loose equality, a field with
an object of operators asks for all of them, and `$and` and `$or` hold lists of filter records.
-/

namespace PropertyGraph

variable {ρ : Type} [RegexEngine ρ]

/-- One test of a field. -/
structure Condition where
  field : String
  operator : Operator
  value : Value

/-- The row passes the test. -/
def Condition.holds (c : Condition) (row : Value) : Bool :=
  c.operator.evaluate (row.lookup? c.field) c.value

inductive Filter where
  | condition (c : Condition)
  | all (parts : List Filter)
  | any (parts : List Filter)

namespace Filter

/-! ### Meaning -/

mutual

/-- The row passes the filter. -/
def holds (row : Value) : Filter → Bool
  | .condition c => c.holds row
  | .all parts => allHold row parts
  | .any parts => anyHolds row parts

def allHold (row : Value) : List Filter → Bool
  | [] => true
  | f :: rest => holds row f && allHold row rest

def anyHolds (row : Value) : List Filter → Bool
  | [] => false
  | f :: rest => holds row f || anyHolds row rest

end

mutual

/-- The conditions of a filter from left to right. -/
def conditions : Filter → List Condition
  | .condition c => [c]
  | .all parts => conditionsOfAll parts
  | .any parts => conditionsOfAll parts

def conditionsOfAll : List Filter → List Condition
  | [] => []
  | f :: rest => conditions f ++ conditionsOfAll rest

end

/-! ### Filter records -/

/-- A name reserved for an operator. -/
def isOperatorName (key : String) : Bool :=
  match key.toList with
  | '$' :: _ => true
  | _ => false

/-- The conditions of an object of operators on a field. -/
def operatorConditions (field : String) : List (String × Json) → Except Error (List Filter)
  | [] => .ok []
  | (name, operand) :: rest => do
    let operator ← Operator.ofName name
    let value := Value.ofJson operand
    operator.check value
    let others ← operatorConditions field rest
    return .condition ⟨field, operator, value⟩ :: others

/-- What an entry of a filter record asks of a field. -/
def ofField (field : String) (given : Json) : Except Error (List Filter) :=
  let literal : Except Error (List Filter) :=
    .ok [.condition ⟨field, .eq, Value.ofJson given⟩]
  match given with
  | .object members =>
    if !members.isEmpty && members.all (fun m => isOperatorName m.1) then
      operatorConditions field members
    else literal
  | _ => literal

/-- A list of filters that must all hold as one filter. -/
def conjunction : List Filter → Filter
  | [f] => f
  | parts => .all parts

mutual

/-- The filters of a filter record, all of which must hold. -/
def ofJson : Json → Except Error (List Filter)
  | .object members => ofMembers members
  | given => .error (.invalidQuery (.filterNotAnObject given))

/-- The filters of the entries of a record in their order. -/
def ofMembers : List (String × Json) → Except Error (List Filter)
  | [] => .ok []
  | (key, given) :: rest =>
    if key = "$and" ∨ key = "$or" then do
      let parts ← ofGroup key given
      let others ← ofMembers rest
      return (if key = "$and" then .all parts else .any parts) :: others
    else if isOperatorName key then .error (.unknownOperator key)
    else do
      let parts ← ofField key given
      let others ← ofMembers rest
      return parts ++ others

/-- The members of an `$and` or `$or`. -/
def ofGroup (key : String) : Json → Except Error (List Filter)
  | .array items => ofItems items
  | _ => .error (.invalidQuery (.groupNotAnArray key))

def ofItems : List Json → Except Error (List Filter)
  | [] => .ok []
  | item :: rest => do
    let parts ← ofJson item
    let others ← ofItems rest
    return conjunction parts :: others

end

end Filter

end PropertyGraph
