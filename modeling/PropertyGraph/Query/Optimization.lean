import PropertyGraph.Query.Cost

/-!
# Optimizing plans

Three rules, applied from the leaves to the root until none fits:

* a filter on a traversal becomes part of the traversal's own filter;
* a filter on a filter becomes one filter, the inner conditions first;
* a sort on a limit becomes a limit on a sort.

The inputs of a step are optimized first, so each rule is tried once at the step, but for the sort,
which moves down through all limits below it.
-/

namespace PropertyGraph.PlanTree

/-- Puts a sort on optimized inputs, below the limits that it meets. -/
def placeSort (keys : List SortKey) : List PlanTree → PlanTree
  | [.node (.limit count) inputs] => .node (.limit count) [placeSort keys inputs]
  | inputs => .node (.sort keys) inputs

/-- Puts a filter on optimized inputs, joining it to a traversal or a filter that it meets. -/
def placeFilter (conditions : List Filter) : List PlanTree → PlanTree
  | [.node (.traverse t) inputs] =>
    .node (.traverse { t with filter := t.filter ++ conditions }) inputs
  | [.node (.filter inner) inputs] => .node (.filter (inner ++ conditions)) inputs
  | inputs => .node (.filter conditions) inputs

/-- Puts a step on optimized inputs. -/
def place : PlanStep → List PlanTree → PlanTree
  | .sort keys, inputs => placeSort keys inputs
  | .filter conditions, inputs => placeFilter conditions inputs
  | step, inputs => .node step inputs

mutual

/-- The plan in which no rule fits any more. -/
def optimize : PlanTree → PlanTree
  | .node step inputs => place step (optimizeAll inputs)

def optimizeAll : List PlanTree → List PlanTree
  | [] => []
  | t :: rest => optimize t :: optimizeAll rest

end

end PropertyGraph.PlanTree

namespace PropertyGraph

/-- The optimized plan, with its own cost and index hints. -/
def QueryPlan.optimize (p : QueryPlan) : QueryPlan := QueryPlan.of p.root.optimize

end PropertyGraph
