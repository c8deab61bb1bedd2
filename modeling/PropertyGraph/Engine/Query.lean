import PropertyGraph.Engine.Config
import PropertyGraph.Query.Cost
import PropertyGraph.Query.Execution
import PropertyGraph.Query.Optimization
import PropertyGraph.Query.Record
import PropertyGraph.Query.Validation
import PropertyGraph.Regex.Parser
import PropertyGraph.Staging.StagedPlan

/-!
# Answering queries

A query record is read, checked against the limits of the configuration, optimized and run.  Its
rows can be projected, and the steps of its plan can be staged instead of being run.

Any engine of regular expressions will do; programs get `Regex` with this module.
-/

namespace PropertyGraph.EngineConfig

variable {ρ : Type} [RegexEngine ρ]

/-- The plan of a query record, optimized; a record whose plan is not valid is refused. -/
def plan (config : EngineConfig) (record : Json) : Except Error QueryPlan := do
  let plan ← QueryPlan.ofRecord record
  match (plan.root.validate config.parser.maxDepth).errors with
  | fault :: _ => throw fault
  | [] => return plan.optimize

/-- The rows that a query record asks for. -/
def query (config : EngineConfig) (v : GraphView) (record : Json) : Except Error QueryResult := do
  (← config.plan record).root.execute v config.matcher

/-- The projection of the rows that a query record asks for. -/
def queryProjected (config : EngineConfig) (v : GraphView) (record : Json)
    (spec : ProjectionSpec) : Except Error Projection := do
  let answer ← config.query v record
  ((Projector.project answer.rows spec).run { config := config.projector }).1

/-- The stages in which the steps of a query record could be run. -/
def stages (config : EngineConfig) (record : Json) : Except Error (StagedPlan Binary64) := do
  StagedPlan.of config.staging (← config.plan record).root.costedSteps

end PropertyGraph.EngineConfig
