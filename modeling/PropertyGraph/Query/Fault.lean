import PropertyGraph.Json.Printer
import PropertyGraph.Value.Text

/-!
# What can be wrong with a query or a plan

`QueryFault` lists the faults of a query record and its filters, `PlanFault` those of a plan tree
or a list of steps.  Each has its wording in `message`.
-/

namespace PropertyGraph

/-- The kinds of plan steps. -/
inductive StepKind where
  | select
  | traverse
  | filter
  | aggregate
  | sort
  | limit
deriving DecidableEq

def StepKind.name : StepKind → String
  | .select => "select"
  | .traverse => "traverse"
  | .filter => "filter"
  | .aggregate => "aggregate"
  | .sort => "sort"
  | .limit => "limit"

/-- The name of a kind of JSON value. -/
def Json.kindName : Json → String
  | .null => "null"
  | .bool _ => "boolean"
  | .number _ => "number"
  | .string _ => "string"
  | .array _ => "array"
  | .object _ => "object"

/-! ### Query records -/

inductive QueryFault where
  | notJson
  | notAnObject (kind : String)
  | unknownClause (name : String)
  | missingSelect
  | emptySelect
  | emptyLabelPattern
  | emptyIdList
  | idNotAString (item : Json)
  | badSelector (kind : String)
  | labelNotAString
  | labelsNotAnArray
  | labelsNotStrings
  | propertiesNotAnObject
  | emptyCriteria
  | traverseNotAnObject
  | badDirection (given : Json)
  | edgeTypeNotAString
  | badCount (what : String) (given : Json)
  | emptyDepthRange (min max : Nat)
  | aggregateNotAnObject
  | aggregateWithoutOp (field : String)
  | aliasNotAString (given : Json)
  | badAggregate (field : String) (given : Json)
  | emptyAggregate
  | sortFieldNotAString (given : Json)
  | badSortDirection (field : String) (given : Json)
  | badSort (kind : String)
  | emptySort
  | filterNotAnObject (given : Json)
  | groupNotAnArray (key : String)
  | operandNotAString (operator typeName : String)
  | invalidRegex (pattern : String)

def QueryFault.message : QueryFault → String
  | .notJson => "query is not valid JSON"
  | .notAnObject kind => "query must be an object, got " ++ kind
  | .unknownClause name => "unknown query clause '" ++ name ++ "'"
  | .missingSelect => "missing 'select' clause"
  | .emptySelect => "'select' must not be empty"
  | .emptyLabelPattern => "'select' label pattern names no label"
  | .emptyIdList => "'select' id list is empty"
  | .idNotAString item => "'select' ids must be strings, got " ++ item.compact
  | .badSelector kind => "'select' must be an id, id list, pattern or criteria object, got " ++ kind
  | .labelNotAString => "'label' must be a string"
  | .labelsNotAnArray => "'labels' must be an array"
  | .labelsNotStrings => "labels must be strings"
  | .propertiesNotAnObject => "'properties' must be an object"
  | .emptyCriteria => "'select' criteria object is empty"
  | .traverseNotAnObject => "'traverse' must be an object"
  | .badDirection given =>
    "invalid traverse direction " ++ given.compact ++ "; expected out, in or both"
  | .edgeTypeNotAString => "traverse edge type must be a string"
  | .badCount what given => what ++ " must be a non-negative integer, got " ++ given.compact
  | .emptyDepthRange min max =>
    "traverse depth range " ++ toString min ++ ".." ++ toString max ++ " is empty"
  | .aggregateNotAnObject => "'aggregate' must be an object"
  | .aggregateWithoutOp field => "aggregate for '" ++ field ++ "' needs an 'op'"
  | .aliasNotAString given => "aggregate alias must be a string, got " ++ given.compact
  | .badAggregate field given =>
    "aggregate for '" ++ field ++ "' must be an operation name or \x7bop, as\x7d, got " ++
      given.compact
  | .emptyAggregate => "'aggregate' names no fields"
  | .sortFieldNotAString given => "sort fields must be strings, got " ++ given.compact
  | .badSortDirection field given =>
    "sort direction for '" ++ field ++ "' must be 1 or -1, got " ++ given.compact
  | .badSort kind => "'sort' must be a field, field list or field→direction map, got " ++ kind
  | .emptySort => "'sort' names no fields"
  | .filterNotAnObject given => "filter must be an object, got " ++ given.compact
  | .groupNotAnArray key => key ++ " expects an array of filters"
  | .operandNotAString operator typeName =>
    operator ++ " operand must be a string, got " ++ typeName
  | .invalidRegex pattern => "invalid regex '" ++ pattern ++ "'"

/-! ### Plans -/

/-- What can be wrong with one step of a plan tree. -/
inductive StepFault where
  | selectWithInputs (inputs : Nat)
  | missingInput
  | manyInputs (inputs : Nat)
  | emptyIdList
  | emptyCriteria
  | badDepthRange (min max : Nat)
  | noConditions
  | noAggregations
  | noSortKeys

def StepFault.message : StepFault → String
  | .selectWithInputs n => "select must be a leaf, has " ++ toString n ++ " inputs"
  | .missingInput => "missing input step"
  | .manyInputs n => "expected exactly one input, has " ++ toString n
  | .emptyIdList => "empty id list"
  | .emptyCriteria => "empty criteria"
  | .badDepthRange min max => "invalid depth range " ++ toString min ++ ".." ++ toString max
  | .noConditions => "no conditions"
  | .noAggregations => "no aggregations"
  | .noSortKeys => "no sort keys"

inductive PlanFault where
  | atStep (kind : StepKind) (level : Nat) (fault : StepFault)
  | branching (kind : StepKind) (inputs : Nat)
  | rowWithoutId (row : Value)
  | duplicateStep (id : String)

def PlanFault.message : PlanFault → String
  | .atStep kind level fault =>
    kind.name ++ " step at depth " ++ toString level ++ ": " ++ fault.message
  | .branching kind inputs =>
    kind.name ++ " step has " ++ toString inputs ++ " inputs; only linear plans execute"
  | .rowWithoutId row => "traverse input row has no node id: " ++ row.toText
  | .duplicateStep id => "duplicate step id '" ++ id ++ "'"

end PropertyGraph
