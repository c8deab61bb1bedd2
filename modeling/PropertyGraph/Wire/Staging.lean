import PropertyGraph.Staging.StagedPlan
import PropertyGraph.Wire.Basic

/-!
# Staged plans on the wire
-/

namespace PropertyGraph

open Wire (encode readRecord? required withDefault)

/-- Steps that are to be staged. -/
structure StepGraph where
  steps : List (CostedStep Binary64)

instance : Wire (CostedStep Binary64) where
  encode s := .object [
    ("id", encode s.id), ("estimatedCost", encode s.cost), ("dependsOn", encode s.dependsOn)]
  read? := readRecord? do
    return ⟨← required "id", ← required "estimatedCost", ← withDefault "dependsOn" []⟩

instance : Wire StepGraph where
  encode g := .object [("steps", encode g.steps)]
  read? := readRecord? do return ⟨← required "steps"⟩

instance : Wire (Stage Binary64) where
  encode s := .object [
    ("index", encode s.index), ("operations", encode s.steps), ("estimated_cost", encode s.cost)]
  read? := readRecord? do
    return ⟨← required "index", ← required "operations", ← required "estimated_cost"⟩

instance : Wire (StagingMetrics Binary64) where
  encode m := .object [
    ("total_operations", encode m.totalSteps), ("stage_count", encode m.stageCount),
    ("sequential_cost", encode m.sequentialCost), ("parallel_cost", encode m.parallelCost),
    ("critical_path_cost", encode m.criticalPathCost), ("theoretical_speedup", encode m.speedup)]
  read? := readRecord? do
    return ⟨← required "total_operations", ← required "stage_count",
      ← required "sequential_cost", ← required "parallel_cost",
      ← required "critical_path_cost", ← required "theoretical_speedup"⟩

instance : Wire (StagedPlan Binary64) where
  encode p := .object [
    ("stages", encode p.stages), ("estimated_parallelism", encode p.parallelism),
    ("critical_path", encode p.criticalPath), ("metrics", encode p.metrics)]
  read? := readRecord? do
    return ⟨← required "stages", ← required "estimated_parallelism",
      ← required "critical_path", ← required "metrics"⟩

end PropertyGraph
