import PropertyGraph.Json.Reader
import PropertyGraph.Query.Optimization
import PropertyGraph.Query.Validation

/-!
# Query records

A query is a record with a `select` clause and, if they are asked for, the clauses `traverse`,
`filter`, `aggregate`, `sort` and `limit`.  `PlanTree.ofRecord` reads one into a plan tree, in
which every clause stands on the one before it.
-/

namespace PropertyGraph

variable {ρ : Type} [RegexEngine ρ]

/-- The names of the clauses. -/
def clauseNames : List String := ["select", "traverse", "filter", "aggregate", "sort", "limit"]

/-- A fault of the query record. -/
def queryError {α : Type} (fault : QueryFault) : Except Error α := .error (.invalidQuery fault)

/-- The contents of something optional, or else an error. -/
def orFault {α : Type} (x : Option α) (fault : QueryFault) : Except Error α :=
  match x with
  | some x => .ok x
  | none => queryError fault

/-- A count that is given for something. -/
def countOf (what : String) (given : Json) : Except Error Nat :=
  orFault given.count? (.badCount what given)

/-! ### Select -/

/-- The text that follows a given start, if it starts so. -/
def afterStart? (start text : String) : Option String :=
  if start.toList.isPrefixOf text.toList then
    some (String.ofList (text.toList.drop start.length))
  else none

/-- The labels and properties of a criteria record, added to those of the entries before. -/
def criteriaOf (labels : List String) (properties : PropertyMap) :
    List (String × Json) → Except Error (List String × PropertyMap)
  | [] => .ok (labels, properties)
  | (key, given) :: rest => do
    if key = "label" then
      let label ← orFault given.string? .labelNotAString
      criteriaOf (labels ++ [label]) properties rest
    else if key = "labels" then
      let items ← orFault given.array? .labelsNotAnArray
      let more ← items.mapM fun item => orFault item.string? .labelsNotStrings
      criteriaOf (labels ++ more) properties rest
    else if key = "properties" then
      let members ← orFault given.object? .propertiesNotAnObject
      let added := members.foldl (fun m e => m.insert e.1 (Value.ofJson e.2)) properties
      criteriaOf labels added rest
    else criteriaOf labels (properties.insert key (Value.ofJson given)) rest

def Selector.ofJson (given : Json) : Except Error Selector :=
  match given with
  | .string s =>
    if s = "" then queryError .emptySelect
    else if s = "*" then .ok .all
    else
      match afterStart? "label:" s with
      | some name => if name = "" then queryError .emptyLabelPattern else .ok (.label name)
      | none => .ok (.id s)
  | .array [] => queryError .emptyIdList
  | .array items => do
    let list ← items.mapM fun item => orFault item.string? (.idNotAString item)
    return .ids list
  | .object members => do
    let (labels, properties) ← criteriaOf [] .empty members
    if labels.isEmpty && properties.isEmpty then queryError .emptyCriteria
    else return .criteria labels properties
  | other => queryError (.badSelector other.kindName)

/-! ### Traverse -/

/-- The first of two members that an object has. -/
def eitherMember? (first second : String) (members : List (String × Json)) : Option Json :=
  match Json.findMember? first members with
  | some given => some given
  | none => Json.findMember? second members

/-- A member of an object that is not null. -/
def presentMember? (name : String) (members : List (String × Json)) : Option Json :=
  (Json.findMember? name members).filter fun given => !given.isNull

def Traversal.ofJson (given : Json) : Except Error Traversal := do
  let members ← orFault given.object? .traverseNotAnObject
  let direction ←
    match Json.findMember? "direction" members with
    | none => pure .outgoing
    | some given => orFault (given.string?.bind Direction.ofName?) (.badDirection given)
  let edgeType ←
    match eitherMember? "edgeType" "type" members with
    | none => pure none
    | some given => do
      let name ← orFault given.string? .edgeTypeNotAString
      pure (if name = "*" ∨ name = "" then none else some name)
  let maxDepth ←
    match eitherMember? "depth" "maxDepth" members with
    | none => pure 1
    | some given => countOf "traverse depth" given
  let minDepth ←
    match Json.findMember? "minDepth" members with
    | none => pure 1
    | some given => countOf "traverse minDepth" given
  if maxDepth = 0 ∨ maxDepth < minDepth then queryError (.emptyDepthRange minDepth maxDepth)
  let filter ←
    match presentMember? "filter" members with
    | none => pure []
    | some given => Filter.ofJson given
  return { direction, edgeType, minDepth, maxDepth, filter }

/-! ### Aggregate and sort -/

/-- One column of an aggregate record. -/
def Aggregation.ofMember (field : String) (given : Json) : Except Error Aggregation :=
  match given with
  | .string name => do
    let op ← AggregateOp.ofName field name
    return ⟨field, op, field ++ "_" ++ name⟩
  | .object members => do
    let name ← orFault ((Json.findMember? "op" members).bind Json.string?)
      (.aggregateWithoutOp field)
    let op ← AggregateOp.ofName field name
    match Json.findMember? "as" members with
    | some (.string column) => return ⟨field, op, column⟩
    | some other => queryError (.aliasNotAString other)
    | none => return ⟨field, op, field ++ "_" ++ name⟩
  | other => queryError (.badAggregate field other)

def aggregationsOf (given : Json) : Except Error (List Aggregation) := do
  let members ← orFault given.object? .aggregateNotAnObject
  let columns ← members.mapM fun m => Aggregation.ofMember m.1 m.2
  if columns.isEmpty then queryError .emptyAggregate else return columns

/-- The sort key of a field with a direction of `1` or `-1`. -/
def SortKey.ofMember (field : String) (direction : Json) : Except Error SortKey :=
  if direction.int64? = some 1 then .ok ⟨field, .ascending⟩
  else if direction.int64? = some (-1) then .ok ⟨field, .descending⟩
  else queryError (.badSortDirection field direction)

def sortKeysOf (given : Json) : Except Error (List SortKey) := do
  let keys ←
    match given with
    | .string field => pure [⟨field, .ascending⟩]
    | .array fields => fields.mapM fun given => do
      let field ← orFault given.string? (.sortFieldNotAString given)
      pure ⟨field, .ascending⟩
    | .object members => members.mapM fun m => SortKey.ofMember m.1 m.2
    | other => queryError (.badSort other.kindName)
  if keys.isEmpty then queryError .emptySort else return keys

/-! ### Records -/

/-- Adds the step of a clause, if the record has it, on top of a plan. -/
def addClause (name : String) (read : Json → Except Error (Option PlanStep))
    (members : List (String × Json)) (below : PlanTree) : Except Error PlanTree :=
  match presentMember? name members with
  | none => .ok below
  | some given => do
    match ← read given with
    | some step => return .wrap step below
    | none => return below

/-- The plan tree of a query record. -/
def PlanTree.ofRecord (record : Json) : Except Error PlanTree := do
  let members ← orFault record.object? (.notAnObject record.kindName)
  match members.find? fun m => !clauseNames.contains m.1 with
  | some m => queryError (.unknownClause m.1)
  | none => pure ()
  let select ← orFault (Json.findMember? "select" members) .missingSelect
  let selector ← Selector.ofJson select
  let tree := PlanTree.leaf (.select selector)
  let tree ← addClause "traverse" (fun given => do
    return some (.traverse (← Traversal.ofJson given))) members tree
  let tree ← addClause "filter" (fun given => do
    let conditions ← Filter.ofJson given
    -- A filter without conditions leaves no step.
    return if conditions.isEmpty then none else some (.filter conditions)) members tree
  let tree ← addClause "aggregate" (fun given => do
    return some (.aggregate (← aggregationsOf given))) members tree
  let tree ← addClause "sort" (fun given => do
    return some (.sort (← sortKeysOf given))) members tree
  addClause "limit" (fun given => do
    return some (.limit (← countOf "'limit'" given))) members tree

namespace QueryPlan

/-- The plan of a query record, as it was written. -/
def ofRecord (record : Json) : Except Error QueryPlan := do
  return QueryPlan.of (← PlanTree.ofRecord record)

/-- The plan of a query record given as text. -/
def ofText (text : String) : Except Error QueryPlan := do
  let record ← orFault (Json.read? text) .notJson
  ofRecord record

end QueryPlan

end PropertyGraph
