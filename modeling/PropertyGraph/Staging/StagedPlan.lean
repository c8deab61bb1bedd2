import PropertyGraph.Staging.Stage

/-!
# Staged plans

`StagedPlan.of` divides a list of steps into stages and measures what is gained by running the
steps of a stage at the same time.
-/

namespace PropertyGraph

structure StagingMetrics (κ : Type) where
  totalSteps : Nat
  stageCount : Nat
  /-- The cost of running the steps one after the other. -/
  sequentialCost : κ
  /-- The cost of running the stages one after the other. -/
  parallelCost : κ
  criticalPathCost : κ
  speedup : κ

structure StagedPlan (κ : Type) where
  stages : List (Stage κ)
  /-- The mean number of steps in a stage. -/
  parallelism : κ
  /-- The costliest chain of steps each of which waits for the one before. -/
  criticalPath : List String
  metrics : StagingMetrics κ

namespace StagedPlan

variable {κ : Type} [CostNumber κ]

/-- The plan that runs the given groups of steps one after the other. -/
def ofGroups (steps : List (CostedStep κ)) (groups : List (List (CostedStep κ)))
    (critical : StepOrder.Chain κ) : StagedPlan κ :=
  let stages := groups.mapIdx Stage.of
  let sequential := CostNumber.sum (steps.map (·.cost))
  let parallel := CostNumber.sum (stages.map (·.cost))
  { stages
    parallelism :=
      if stages.isEmpty then CostNumber.zero
      else CostNumber.div (CostNumber.ofNat steps.length) (CostNumber.ofNat stages.length)
    criticalPath := critical.steps
    metrics :=
      { totalSteps := steps.length
        stageCount := stages.length
        sequentialCost := sequential
        parallelCost := parallel
        criticalPathCost := critical.cost
        speedup :=
          if CostNumber.isPositive parallel then CostNumber.div sequential parallel
          else CostNumber.ofNat 1 } }

/-- Divides steps into stages.  Fails if an identity is repeated or unknown or if steps wait for
each other in a circle. -/
def of (config : StagingConfig) (steps : List (CostedStep κ)) : Except Error (StagedPlan κ) := do
  let order ← StepOrder.of steps
  return ofGroups steps (Stage.groups config steps order) (StepOrder.criticalChain order)

end StagedPlan

end PropertyGraph
