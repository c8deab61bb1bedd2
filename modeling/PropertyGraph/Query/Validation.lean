import PropertyGraph.Query.Plan

/-!
# Checking plans

`PlanTree.validate` reports what is wrong with a plan tree and warns of steps that may be slow.
-/

namespace PropertyGraph

/-- What is slow about a plan. -/
inductive PlanWarning where
  | deepTraversal (depth : Nat)
  | anyEdgeType
  | unfilteredScan
  | unlimitedSort

def PlanWarning.message : PlanWarning → String
  | .deepTraversal depth =>
    "traverse depth " ++ toString depth ++ " may expand a large part of the graph"
  | .anyEdgeType => "traverse follows every edge type"
  | .unfilteredScan => "query scans every node without a filter"
  | .unlimitedSort => "sort without limit orders the full result set"

structure PlanReport where
  errors : List Error
  warnings : List PlanWarning

namespace PlanReport

def isValid (r : PlanReport) : Bool := r.errors.isEmpty

end PlanReport

/-- The depth above which a traversal is warned of. -/
def deepTraversal : Nat := 3

namespace PlanStep

/-- What is wrong with the number of inputs of a step. -/
def arityFaults (step : PlanStep) (inputs : Nat) : List StepFault :=
  match step.kind, inputs with
  | .select, 0 => []
  | .select, n => [.selectWithInputs n]
  | _, 1 => []
  | _, 0 => [.missingInput]
  | _, n => [.manyInputs n]

/-- What is wrong with what a step asks for. -/
def configFaults : PlanStep → List StepFault
  | .select (.ids []) => [.emptyIdList]
  | .select (.criteria [] properties) => if properties.isEmpty then [.emptyCriteria] else []
  | .select _ => []
  | .traverse t =>
    if t.maxDepth = 0 ∨ t.maxDepth < t.minDepth then [.badDepthRange t.minDepth t.maxDepth] else []
  | .filter [] => [.noConditions]
  | .aggregate [] => [.noAggregations]
  | .sort [] => [.noSortKeys]
  | _ => []

/-- The warnings of a step. -/
def warnings : PlanStep → List PlanWarning
  | .traverse t =>
    (if deepTraversal < t.maxDepth then [.deepTraversal t.maxDepth] else []) ++
      (if t.edgeType.isNone then [.anyEdgeType] else [])
  | _ => []

/-- The step looks at every node. -/
def scansAll : PlanStep → Bool
  | .select .all => true
  | .select (.criteria [] properties) => !properties.isEmpty
  | _ => false

/-- The step leaves rows out. -/
def filters : PlanStep → Bool
  | .filter _ => true
  | .traverse t => !t.filter.isEmpty
  | _ => false

end PlanStep

namespace PlanTree

/-- The errors of one node of a tree, at its level. -/
def nodeErrors (n : PlanTree × Nat) : List Error :=
  (n.1.step.arityFaults n.1.inputs.length ++ n.1.step.configFaults).map fun fault =>
    .invalidPlan (.atStep n.1.step.kind n.2 fault)

/-- The errors and warnings of a plan that may have a given number of levels. -/
def validate (maxDepth : Nat) (t : PlanTree) : PlanReport :=
  let steps := t.nodes.map fun n => n.1.step
  let tooDeep : List Error :=
    if maxDepth < t.depth then [.queryTooDeep t.depth maxDepth] else []
  let scan : List PlanWarning :=
    if steps.any PlanStep.scansAll && !steps.any PlanStep.filters then [.unfilteredScan] else []
  let sorting : List PlanWarning :=
    if steps.any (fun s => s.kind == .sort) && !steps.any (fun s => s.kind == .limit) then
      [.unlimitedSort]
    else []
  { errors := tooDeep ++ t.nodes.flatMap nodeErrors
    warnings := steps.flatMap PlanStep.warnings ++ scan ++ sorting }

end PlanTree

end PropertyGraph
