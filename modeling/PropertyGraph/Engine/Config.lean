import PropertyGraph.Json.Printer
import PropertyGraph.Json.Record
import PropertyGraph.Pattern.Matching
import PropertyGraph.Projection.Projector
import PropertyGraph.Snapshot.Comparison
import PropertyGraph.Staging.Stage
import PropertyGraph.Transaction.State
import PropertyGraph.Wire.Basic

/-!
# Configuration

`EngineConfig` gathers the settings of all parts.  In JSON every section and every setting may be
left out and has its default then.
-/

namespace PropertyGraph

structure ParserConfig where
  /-- The deepest plan that is accepted. -/
  maxDepth : Nat := 10

structure EngineConfig where
  parser : ParserConfig := {}
  staging : StagingConfig := {}
  matcher : MatcherConfig := {}
  transaction : TransactionConfig := {}
  diff : DiffConfig := {}
  projector : ProjectorConfig := {}

namespace EngineConfig

open Wire (encode withDefault readRecord?)

instance : Wire ParserConfig where
  encode c := .object [("max_depth", encode c.maxDepth)]
  read? := readRecord? do return ⟨← withDefault "max_depth" 10⟩

instance : Wire StagingConfig where
  encode c := .object [
    ("max_parallel_ops", encode c.maxParallel), ("merge_stages", encode c.mergeStages)]
  read? := readRecord? do
    return ⟨← withDefault "max_parallel_ops" 8, ← withDefault "merge_stages" true⟩

instance : Wire MatcherConfig where
  encode c := .object [
    ("max_results_per_pattern", encode c.maxResults), ("max_var_length_hops", encode c.maxHops)]
  read? := readRecord? do
    return ⟨← withDefault "max_results_per_pattern" 10000, ← withDefault "max_var_length_hops" 10⟩

instance : Wire TransactionConfig where
  encode c := .object [
    ("timeout_ms", encode c.timeoutMs), ("auto_rollback", encode c.autoRollback)]
  read? := readRecord? do
    return ⟨← withDefault "timeout_ms" 5000, ← withDefault "auto_rollback" true⟩

instance : Wire DiffConfig where
  encode c := .object [("ignore_fields", encode c.ignoreFields)]
  read? := readRecord? do
    return ⟨← withDefault "ignore_fields" ({} : DiffConfig).ignoreFields⟩

instance : Wire ProjectorConfig where
  encode c := .object [
    ("flatten_max_depth", encode c.flattenDepth), ("cache_accessors", encode c.cacheAccessors)]
  read? := readRecord? do
    return ⟨← withDefault "flatten_max_depth" 5, ← withDefault "cache_accessors" true⟩

instance : Wire EngineConfig where
  encode c := .object [
    ("parser", encode c.parser), ("optimizer", encode c.staging), ("matcher", encode c.matcher),
    ("transaction", encode c.transaction), ("diff", encode c.diff),
    ("projector", encode c.projector)]
  read? := readRecord? do
    return ⟨← withDefault "parser" {}, ← withDefault "optimizer" {}, ← withDefault "matcher" {},
      ← withDefault "transaction" {}, ← withDefault "diff" {}, ← withDefault "projector" {}⟩

/-- The configuration that a JSON value describes. -/
def ofJson (j : Json) : Except Error EngineConfig :=
  match Wire.decode? j with
  | some config => .ok config
  | none => .error .invalidConfig

/-- The sections of a configuration and their settings, as fields of a JSON text. -/
def fields : List (String × Json.Reader.Step Json) :=
  let sections : List (String × List String) := [
    ("parser", ["max_depth"]),
    ("optimizer", ["max_parallel_ops", "merge_stages"]),
    ("matcher", ["max_results_per_pattern", "max_var_length_hops"]),
    ("transaction", ["timeout_ms", "auto_rollback"]),
    ("diff", ["ignore_fields"]),
    ("projector", ["flatten_max_depth", "cache_accessors"])]
  sections.map fun (name, settings) =>
    (name, Json.Reader.record (settings.map fun setting => (setting, Json.Reader.whole)))

/-- The configuration that a JSON text describes. -/
def ofText (text : String) : Except Error EngineConfig :=
  match Json.readRecord? fields text with
  | some j => ofJson j
  | none => .error .invalidConfig

/-- The JSON text of a configuration, with all of its settings. -/
def toText (config : EngineConfig) : String := (encode config).pretty

end EngineConfig

end PropertyGraph
