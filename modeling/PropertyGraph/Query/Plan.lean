import PropertyGraph.Graph.Element
import PropertyGraph.Query.Filter
import PropertyGraph.Query.IndexHint

/-!
# Plan trees

A plan is a tree of steps.  The inputs of a step run before it and feed it; a plan read from a
query record is a chain `limit (sort (aggregate (filter (traverse select))))` in which steps that
the record does not ask for are left out.

`PlanTree.chain` lists the steps of a linear plan from the leaf to the root.
-/

namespace PropertyGraph

/-! ### Steps -/

/-- Where a plan starts from. -/
inductive Selector where
  | id (id : NodeId)
  | ids (ids : List NodeId)
  | all
  | label (label : String)
  /-- Nodes with all the labels and with properties loosely equal to those given. -/
  | criteria (labels : List String) (properties : PropertyMap)

/-- Which edges to follow, how far, and what to ask of the nodes that are reached. -/
structure Traversal where
  direction : Direction := .outgoing
  /-- Any edge if there is none. -/
  edgeType : Option String := none
  minDepth : Nat := 1
  maxDepth : Nat := 1
  filter : List Filter := []

inductive AggregateOp where
  | count
  | sum
  | avg
  | min
  | max
  | first
  | last
deriving DecidableEq

namespace AggregateOp

def name : AggregateOp → String
  | .count => "count"
  | .sum => "sum"
  | .avg => "avg"
  | .min => "min"
  | .max => "max"
  | .first => "first"
  | .last => "last"

def all : List AggregateOp := [.count, .sum, .avg, .min, .max, .first, .last]

def ofName? (name : String) : Option AggregateOp := all.find? fun op => op.name == name

/-- The aggregation of a name, asked for on a field. -/
def ofName (field name : String) : Except Error AggregateOp :=
  match ofName? name with
  | some op => .ok op
  | none => .error (.unknownAggregation field name)

end AggregateOp

/-- One column of an aggregate. -/
structure Aggregation where
  field : String
  op : AggregateOp
  /-- The name of the column. -/
  column : String

inductive SortOrder where
  | ascending
  | descending
deriving DecidableEq

structure SortKey where
  field : String
  order : SortOrder
deriving DecidableEq

inductive PlanStep where
  | select (selector : Selector)
  | traverse (traversal : Traversal)
  | filter (conditions : List Filter)
  | aggregate (columns : List Aggregation)
  | sort (keys : List SortKey)
  | limit (count : Nat)

def PlanStep.kind : PlanStep → StepKind
  | .select _ => .select
  | .traverse _ => .traverse
  | .filter _ => .filter
  | .aggregate _ => .aggregate
  | .sort _ => .sort
  | .limit _ => .limit

/-! ### Trees -/

inductive PlanTree where
  | node (step : PlanStep) (inputs : List PlanTree)

namespace PlanTree

def step : PlanTree → PlanStep
  | .node step _ => step

def inputs : PlanTree → List PlanTree
  | .node _ inputs => inputs

/-- A step on its own. -/
def leaf (step : PlanStep) : PlanTree := .node step []

/-- Puts a step on top of its only input. -/
def wrap (step : PlanStep) (input : PlanTree) : PlanTree := .node step [input]

mutual

/-- The number of levels. -/
def depth : PlanTree → Nat
  | .node _ inputs => 1 + depthOfAll inputs

/-- The largest depth of a list of trees. -/
def depthOfAll : List PlanTree → Nat
  | [] => 0
  | t :: rest => max (depth t) (depthOfAll rest)

end

mutual

/-- The nodes with their levels, each before its inputs; the root is at the given level. -/
def preorder (level : Nat) : PlanTree → List (PlanTree × Nat)
  | .node step inputs => (.node step inputs, level) :: preorderOfAll (level + 1) inputs

def preorderOfAll (level : Nat) : List PlanTree → List (PlanTree × Nat)
  | [] => []
  | t :: rest => preorder level t ++ preorderOfAll level rest

end

/-- The nodes with their levels from the root on, each before its inputs. -/
def nodes (t : PlanTree) : List (PlanTree × Nat) := t.preorder 0

/-- The steps from the leaf to the root of a plan whose steps have at most one input each. -/
def chain : PlanTree → Except Error (List PlanStep)
  | .node step [] => .ok [step]
  | .node step [input] => do
    let below ← chain input
    return below ++ [step]
  | .node step inputs => .error (.invalidPlan (.branching step.kind inputs.length))

end PlanTree

/-- A plan tree with its estimated cost and the indexes that would help it. -/
structure QueryPlan where
  root : PlanTree
  cost : Binary64
  indexes : List IndexHint

end PropertyGraph
