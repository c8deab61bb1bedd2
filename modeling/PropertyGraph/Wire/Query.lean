import PropertyGraph.Query.Plan
import PropertyGraph.Wire.Graph

/-!
# Query plans on the wire

A filter is written as an object with one member, which says what kind of filter it is; so is a
selector, but for the one of all nodes, which is a word.  A step of a plan is written as its kind
and its configuration.
-/

namespace PropertyGraph

open Wire (encode read? ofNames optional readRecord? readBesideTag? readWord? required)

/-! ### Filters -/

instance : Wire Operator := ofNames Operator.all Operator.name

instance : Wire Condition where
  encode c := .object [
    ("field", encode c.field), ("operator", encode c.operator), ("value", encode c.value)]
  read? := readRecord? do
    return ⟨← required "field", ← required "operator", ← required "value"⟩

namespace Filter

mutual

def toWire : Filter → Json
  | .condition c => .object [("condition", encode c)]
  | .all parts => .object [("and", .array (toWireParts parts))]
  | .any parts => .object [("or", .array (toWireParts parts))]

def toWireParts : List Filter → List Json
  | [] => []
  | f :: rest => toWire f :: toWireParts rest

end

mutual

def ofWire? (r : Reading) : Json → Option Filter
  | .object [(tag, .array items)] =>
    if tag = "and" then (ofWireParts? r items).map .all
    else if tag = "or" then (ofWireParts? r items).map .any
    else if tag = "condition" then (read? r (.array items)).map .condition
    else none
  | .object [(tag, j)] => if tag = "condition" then (read? r j).map .condition else none
  | _ => none

def ofWireParts? (r : Reading) : List Json → Option (List Filter)
  | [] => some []
  | j :: rest => do return (← ofWire? r j) :: (← ofWireParts? r rest)

end

instance : Wire Filter := ⟨toWire, ofWire?⟩

end Filter

/-! ### Steps -/

/-- A record of labels and properties.  It may be an array only among kept contents. -/
def Selector.criteriaOfWire? (r : Reading) (j : Json) : Option Selector :=
  if r = .direct && j.array?.isSome then none
  else readRecord? (do return .criteria (← required "labels") (← required "properties")) r j

instance : Wire Selector where
  encode
    | .all => .string "all"
    | .id id => .object [("id", encode id)]
    | .ids ids => .object [("ids", encode ids)]
    | .label label => .object [("label", encode label)]
    | .criteria labels properties =>
      .object [("criteria",
        .object [("labels", encode labels), ("properties", encode properties)])]
  read?
    | r, .object [("id", j)] => (read? r j).map .id
    | r, .object [("ids", j)] => (read? r j).map .ids
    | r, .object [("label", j)] => (read? r j).map .label
    | r, .object [("criteria", j)] => Selector.criteriaOfWire? r j
    | r, j => readWord? [("all", .all)] r j

instance : Wire Traversal where
  encode t := .object [
    ("direction", encode t.direction), ("edge_type", encode t.edgeType),
    ("min_depth", encode t.minDepth), ("max_depth", encode t.maxDepth),
    ("filter", encode t.filter)]
  read? := readRecord? do
    return ⟨← required "direction", ← optional "edge_type", ← required "min_depth",
      ← required "max_depth", ← required "filter"⟩

instance : Wire AggregateOp := ofNames AggregateOp.all AggregateOp.name

instance : Wire Aggregation where
  encode a := .object [
    ("field", encode a.field), ("op", encode a.op), ("alias", encode a.column)]
  read? := readRecord? do return ⟨← required "field", ← required "op", ← required "alias"⟩

/-- The word for an order. -/
def SortOrder.word : SortOrder → String
  | .ascending => "asc"
  | .descending => "desc"

instance : Wire SortOrder := ofNames [.ascending, .descending] SortOrder.word

instance : Wire SortKey where
  encode k := .object [("field", encode k.field), ("order", encode k.order)]
  read? := readRecord? do return ⟨← required "field", ← required "order"⟩

namespace PlanStep

/-- The configuration of a step. -/
def configuration : PlanStep → Json
  | .select selector => .object [("selector", encode selector)]
  | .traverse traversal => encode traversal
  | .filter conditions => .object [("conditions", encode conditions)]
  | .aggregate columns => .object [("aggregations", encode columns)]
  | .sort keys => .object [("keys", encode keys)]
  | .limit count => .object [("count", encode count)]

/-- How to read the configuration of each kind of step. -/
def configurations : List (String × (Reading → Json → Option PlanStep)) := [
  (StepKind.select.name, readRecord? do return .select (← required "selector")),
  (StepKind.traverse.name, fun r j => (read? r j).map .traverse),
  (StepKind.filter.name, readRecord? do return .filter (← required "conditions")),
  (StepKind.aggregate.name, readRecord? do return .aggregate (← required "aggregations")),
  (StepKind.sort.name, readRecord? do return .sort (← required "keys")),
  (StepKind.limit.name, readRecord? do return .limit (← required "count"))]

instance : Wire PlanStep where
  encode s := Wire.besideTag "kind" "config" s.kind.name s.configuration
  read? := readBesideTag? "kind" "config" configurations

end PlanStep

/-! ### Plans -/

namespace PlanTree

mutual

def toWire : PlanTree → Json
  | .node step inputs =>
    .object [("step", encode step), ("children", .array (toWireInputs inputs))]

def toWireInputs : List PlanTree → List Json
  | [] => []
  | t :: rest => toWire t :: toWireInputs rest

end

mutual

def ofWire? (r : Reading) : Json → Option PlanTree
  | .object members => do
    let step ← read? r (← Wire.soleMember? "step" members)
    return .node step (← ofWireMembers? r members)
  | .array [step] => (read? r step).map .leaf
  | .array [step, .array items] => do return .node (← read? r step) (← ofWireInputs? r items)
  | _ => none

/-- The inputs that are among the members of an object; there may be none. -/
def ofWireMembers? (r : Reading) : List (String × Json) → Option (List PlanTree)
  | [] => some []
  | (name, .array items) :: rest =>
    if name = "children" then
      if (rest.any fun m => m.1 == "children") then none else ofWireInputs? r items
    else ofWireMembers? r rest
  | (name, _) :: rest => if name = "children" then none else ofWireMembers? r rest

def ofWireInputs? (r : Reading) : List Json → Option (List PlanTree)
  | [] => some []
  | j :: rest => do return (← ofWire? r j) :: (← ofWireInputs? r rest)

end

instance : Wire PlanTree := ⟨toWire, ofWire?⟩

end PlanTree

instance : Wire IndexType :=
  ofNames [.label, .property, .sort, .edgeType, .fullText] IndexType.name

instance : Wire IndexHint where
  encode h := .object [("name", encode h.name), ("index_type", encode h.indexType)]
  read? := readRecord? do return ⟨← required "name", ← required "index_type"⟩

instance : Wire QueryPlan where
  encode p := .object [
    ("root", encode p.root), ("estimated_cost", encode p.cost), ("indexes", encode p.indexes)]
  read? := readRecord? do
    return ⟨← required "root", ← required "estimated_cost", ← required "indexes"⟩

end PropertyGraph
