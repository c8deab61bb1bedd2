import PropertyGraph.Pattern.Matching
import PropertyGraph.Query.Rows

/-!
# Running plans

`PlanTree.execute` runs the steps of a linear plan from the leaf to the root; each step makes new
rows of those of the step before it.  The statistics count the work done on the way.
-/

namespace PropertyGraph

variable {ρ : Type} [RegexEngine ρ]

structure QueryStats where
  steps : Nat := 0
  nodesScanned : Nat := 0
  edgesTraversed : Nat := 0

structure QueryResult where
  rows : List Value := []
  stats : QueryStats := {}

/-- The ids of the rows that are nodes. -/
def QueryResult.ids (r : QueryResult) : List NodeId := r.rows.filterMap rowId?

/-- A node carries all labels and, under each key, a value loosely equal to the one asked for. -/
def Node.meets (n : Node) (labels : List String) (properties : PropertyMap) : Bool :=
  labels.all n.hasLabel &&
    properties.entries.all fun (key, wanted) =>
      match n.property? key with
      | some v => v.looseEquals wanted
      | none => false

/-- The nodes that a selector looks at and those of them that it selects. -/
def Selector.select (v : GraphView) : Selector → Except Error (List Node × List Node)
  | .id wanted => let found := (v.node? wanted).toList; .ok (found, found)
  | .ids wanted => let found := wanted.filterMap v.node?; .ok (found, found)
  | .all => do let nodes ← v.allNodes; return (nodes, nodes)
  | .label wanted => do let nodes ← v.nodesWithLabel wanted; return (nodes, nodes)
  | .criteria labels properties => do
    let nodes ←
      match labels with
      | first :: _ => v.nodesWithLabel first
      | [] => v.allNodes
    return (nodes, nodes.filter fun n => n.meets labels properties)

/-! ### Traversals -/

namespace Traversal

/-- What a traversal follows, as a pattern. -/
def relationship (t : Traversal) : RelationshipPattern :=
  { types := t.edgeType.toList, direction := t.direction }

/-- The nodes that a traversal has found, with the edges it has looked at. -/
structure Progress where
  found : List Node := []
  examined : Nat := 0

/-- Adds the nodes at the ends of paths that pass the filter, each node once. -/
def collect (t : Traversal) (p : Progress) (e : Expansion) : Progress :=
  let reached := (e.paths.filterMap Path.end?).filter fun n => Filter.allHold n.toValue t.filter
  { found := reached.foldl
      (fun found n => if found.any fun m => m.id == n.id then found else found ++ [n]) p.found
    examined := p.examined + e.examined }

/-- Goes on from the node of a row; a row of a node that is not there is passed over. -/
def fromRow (t : Traversal) (v : GraphView) (limit : Nat) (p : Progress) (row : Value) :
    Except Error Progress :=
  match rowId? row with
  | none => .error (.invalidPlan (.rowWithoutId row))
  | some id =>
    match v.node? id with
    | none => .ok p
    | some start => .ok (t.collect p (v.expand start t.relationship t.minDepth t.maxDepth limit))

/-- The nodes reached from any of the rows. -/
def fromRows (t : Traversal) (v : GraphView) (limit : Nat) (rows : List Value) :
    Except Error Progress :=
  rows.foldlM (t.fromRow v limit) {}

end Traversal

/-! ### Plans -/

/-- Runs a step on the result of the step before it. -/
def PlanStep.run (v : GraphView) (config : MatcherConfig) (before : QueryResult) (step : PlanStep) :
    Except Error QueryResult := do
  let stats := { before.stats with steps := before.stats.steps + 1 }
  match step with
  | .select selector =>
    let (seen, selected) ← selector.select v
    return ⟨selected.map Node.toValue,
      { stats with nodesScanned := stats.nodesScanned + seen.length }⟩
  | .traverse t =>
    let p ← t.fromRows v config.maxResults before.rows
    return ⟨p.found.map Node.toValue,
      { stats with edgesTraversed := stats.edgesTraversed + p.examined }⟩
  | .filter conditions =>
    return ⟨before.rows.filter fun row => Filter.allHold row conditions, stats⟩
  | .aggregate columns => return ⟨[Aggregation.ofRows columns before.rows], stats⟩
  | .sort keys => return ⟨SortKey.sortRows keys before.rows, stats⟩
  | .limit count => return ⟨before.rows.take count, stats⟩

/-- Runs a linear plan. -/
def PlanTree.execute (t : PlanTree) (v : GraphView) (config : MatcherConfig) :
    Except Error QueryResult := do
  (← t.chain).foldlM (PlanStep.run v config) {}

end PropertyGraph
