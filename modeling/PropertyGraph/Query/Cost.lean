import PropertyGraph.Numeric.CostNumber
import PropertyGraph.Query.Plan
import PropertyGraph.Staging.Step

/-!
# Estimated costs

A rough count of rows and a cost for every step, in any type of cost numbers.  `PlanTree.estimate`
gives the rows and the cost of a whole plan, `PlanTree.stepCost` the share of its root, and
`PlanTree.costedSteps` lists all steps with their shares and what they wait for.
-/

namespace PropertyGraph

variable {κ : Type} [CostNumber κ]

open CostNumber (add mul ofNat)

/-- The rows assumed behind an unrestricted scan. -/
def scanRows : κ := ofNat 1000

/-- The rows assumed behind a label. -/
def labelRows : κ := ofNat 100

/-- The nodes assumed to be reached by one hop. -/
def fanOut : κ := ofNat 5

/-- The exponent of the fan-out: one hop at least, and no more than 32 bits hold. -/
def Traversal.estimatedHops (t : Traversal) : Nat := min (max t.maxDepth 1) (Nat.pow 2 31 - 1)

/-- The rows a selector is assumed to yield. -/
def Selector.estimatedRows : Selector → κ
  | .id _ => ofNat 1
  | .ids list => ofNat list.length
  | .label _ => labelRows
  | .criteria labels _ => if labels.isEmpty then scanRows else labelRows
  | .all => scanRows

/-- The rows and the cost of a step on its own, given the rows of its input. -/
def PlanStep.estimate (input : κ) : PlanStep → κ × κ
  | .select selector => (selector.estimatedRows, selector.estimatedRows)
  | .traverse t =>
    let reached := mul input (CostNumber.pow fanOut t.estimatedHops)
    (if t.filter.isEmpty then reached else mul reached CostNumber.half, reached)
  | .filter _ => (mul input CostNumber.half, input)
  | .aggregate _ => (ofNat 1, input)
  | .sort _ =>
    let n := CostNumber.max input (ofNat 1)
    (input, mul n (CostNumber.max (CostNumber.log2 n) (ofNat 1)))
  | .limit count => (CostNumber.min input (ofNat count), ofNat 1)

namespace PlanTree

mutual

/-- The estimated rows and cost of a plan. -/
def estimate : PlanTree → κ × κ
  | .node step inputs =>
    let below : κ × κ := estimateAll (CostNumber.zero, CostNumber.zero) inputs
    let own : κ × κ := step.estimate below.1
    (own.1, add below.2 own.2)

/-- Adds the estimates of a list of plans to those of the plans before them. -/
def estimateAll (before : κ × κ) : List PlanTree → κ × κ
  | [] => before
  | t :: rest =>
    let e : κ × κ := estimate t
    estimateAll (add before.1 e.1, add before.2 e.2) rest

end

/-- The cost of the root of a plan on its own. -/
def stepCost (t : PlanTree) : κ :=
  let input : κ := CostNumber.sum (t.inputs.map fun input => (estimate input : κ × κ).1)
  (t.step.estimate input).2

/-- The identity of a step in the list of steps: its place in preorder and its kind. -/
def stepId (place : Nat) (t : PlanTree) : String := toString place ++ ":" ++ t.step.kind.name

mutual

/-- The steps of a plan in preorder, the root at a given place. -/
def costedStepsAt (place : Nat) : PlanTree → List (CostedStep κ)
  | .node step inputs =>
    let below : List String × List (CostedStep κ) := costedStepsOfAll (place + 1) inputs
    ⟨stepId place (.node step inputs), stepCost (.node step inputs), below.1⟩ :: below.2

/-- The identities of a list of plans and all their steps, from a given place on. -/
def costedStepsOfAll (place : Nat) : List PlanTree → List String × List (CostedStep κ)
  | [] => ([], [])
  | t :: rest =>
    let steps : List (CostedStep κ) := costedStepsAt place t
    let others := costedStepsOfAll (place + steps.length) rest
    (stepId place t :: others.1, steps ++ others.2)

end

/-- The steps of a plan in preorder, each waiting for its inputs. -/
def costedSteps (t : PlanTree) : List (CostedStep κ) := costedStepsAt 0 t

end PlanTree

/-! ### Index hints -/

/-- The index that would help a condition. -/
def Condition.indexHint (c : Condition) : IndexHint :=
  IndexHint.of (if c.operator.isTextual then .fullText else .property) c.field

/-- The indexes that would help a list of filters. -/
def Filter.indexHints (filters : List Filter) : List IndexHint :=
  (Filter.conditionsOfAll filters).map Condition.indexHint

/-- The indexes that would help a step. -/
def PlanStep.indexHints : PlanStep → List IndexHint
  | .select (.label label) => [IndexHint.of .label label]
  | .select (.criteria labels properties) =>
    labels.map (IndexHint.of .label) ++ properties.keys.map (IndexHint.of .property)
  | .select _ => []
  | .traverse t => t.edgeType.toList.map (IndexHint.of .edgeType) ++ Filter.indexHints t.filter
  | .filter conditions => Filter.indexHints conditions
  | .sort keys => keys.map fun k => IndexHint.of .sort k.field
  | .aggregate _ | .limit _ => []

/-- The indexes that would help a plan, in order and each once. -/
def PlanTree.requiredIndexes (t : PlanTree) : List IndexHint :=
  IndexHint.sortedUnique (t.nodes.flatMap fun n => n.1.step.indexHints)

/-- The plan of a tree. -/
def QueryPlan.of (root : PlanTree) : QueryPlan :=
  ⟨root, (root.estimate : Binary64 × Binary64).2, root.requiredIndexes⟩

end PropertyGraph
