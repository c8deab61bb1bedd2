import PropertyGraph.Pattern.Bindings
import PropertyGraph.Pattern.Expansion

/-!
# Matching patterns

`GraphView.matchPattern` finds the ways in which a pattern fits a graph.  A partial match has bound
the variables up to some node of the pattern and stands on a node of the graph; each segment of
the pattern extends it in every possible way.  A variable that occurs again has to be the same
element again.

`GraphView.matchAll` finds the ways in which several patterns fit together.
-/

namespace PropertyGraph

variable {ρ : Type} [RegexEngine ρ]

structure MatcherConfig where
  /-- The most partial matches that are kept behind each part of a pattern. -/
  maxResults : Nat := 10000
  /-- The upper bound of a range of hops that has none. -/
  maxHops : Nat := 10

structure Match where
  bindings : Bindings
  /-- How specific the match is; more specific ones come first. -/
  score : Binary64

structure MatchOptions where
  limit : Option Nat := none
  offset : Nat := 0
  /-- What variables are bound to from the start. -/
  initial : Bindings := {}

structure PartialMatch where
  bindings : Bindings
  /-- The node from which the next segment goes on. -/
  current : Node
  /-- The number of edges followed so far. -/
  hops : Nat

namespace PartialMatch

/-- Binds what a hop has followed and the node it has led to, which the node pattern must accept. -/
def step? (p : PartialMatch) (hop : RelationshipPattern) (node : NodePattern) (followed : Binding)
    (reached : Node) (hops : Nat) : Option PartialMatch := do
  if node.accepts reached then
    let bindings ← p.bindings.bind? hop.name followed
    let bindings ← bindings.bind? node.name (.node reached)
    return ⟨bindings, reached, p.hops + hops⟩
  else none

/-- The extensions of a partial match by one edge. -/
def alongEdges (v : GraphView) (p : PartialMatch) (hop : RelationshipPattern)
    (node : NodePattern) : List PartialMatch :=
  (v.edgesToward p.current.id hop.direction).filterMap fun e => do
    if hop.accepts e then
      let reached ← v.node? (← e.otherNode? p.current.id)
      p.step? hop node (.edge e) reached 1
    else none

/-- The extensions of a partial match by a path of several hops. -/
def alongPaths (v : GraphView) (config : MatcherConfig) (p : PartialMatch)
    (hop : RelationshipPattern) (node : NodePattern) : List PartialMatch :=
  let (min, max) := hop.hopRange config.maxHops
  (v.expand p.current hop min max config.maxResults).paths.filterMap fun path => do
    p.step? hop node (.path path) (← path.end?) path.length

/-- The extensions of a partial match by a segment of a pattern. -/
def extensions (v : GraphView) (config : MatcherConfig)
    (segment : RelationshipPattern × NodePattern) (p : PartialMatch) : List PartialMatch :=
  if segment.1.isVariableLength then p.alongPaths v config segment.1 segment.2
  else p.alongEdges v segment.1 segment.2

end PartialMatch

/-! ### Results -/

namespace Match

/-- The result of a partial match that has come to the end of a pattern. -/
def ofPartial (pattern : PathPattern) (p : PartialMatch) : Match :=
  ⟨p.bindings,
    (((Binary64.ofNat 1).add pattern.specificity).add
      ((Binary64.ofRatio 1 2).mul (.ofNat p.hops))).add
      ((Binary64.ofRatio 1 4).mul (.ofNat p.bindings.size))⟩

/-- The results from the highest score to the lowest. -/
def ranked (results : List Match) : List Match :=
  stableSortBy (fun a b => b.score.totalCompare a.score) results

/-- The page of the results that is asked for. -/
def page (options : MatchOptions) (results : List Match) : List Match :=
  let later := results.drop options.offset
  match options.limit with
  | some n => later.take n
  | none => later

end Match

/-! ### Matching -/

namespace GraphView

/-- The nodes that a pattern may start from, without regard to its conditions. -/
def candidates (v : GraphView) (start : NodePattern) : Except Error (List Node) :=
  match start.labels with
  | label :: _ =>
    if v.capabilities.labelIndex || !v.capabilities.fullScan then v.nodesWithLabel label
    else v.allNodes
  | [] => v.allNodes

/-- The partial matches at the start of a pattern: the node its variable is bound to, as it is now,
or all nodes that the pattern accepts. -/
def starts (v : GraphView) (config : MatcherConfig) (start : NodePattern) (initial : Bindings) :
    Except Error (List PartialMatch) := do
  match start.name.bind initial.find? with
  | some bound =>
    let now := (bound.node?.bind fun n => v.node? n.id).filter start.accepts
    return now.toList.map fun n => ⟨initial, n, 0⟩
  | none =>
    let accepted := ((← v.candidates start).filter start.accepts).take config.maxResults
    return accepted.map fun n =>
      match start.name with
      | some name => ⟨initial.insert name (.node n), n, 0⟩
      | none => ⟨initial, n, 0⟩

/-- Extends partial matches by the segments of a pattern, one after the other. -/
def extendAll (v : GraphView) (config : MatcherConfig)
    (segments : List (RelationshipPattern × NodePattern)) (partials : List PartialMatch) :
    List PartialMatch :=
  segments.foldl
    (fun partials segment =>
      (partials.flatMap (·.extensions v config segment)).take config.maxResults) partials

/-- The ways in which a pattern fits, the most specific ones first. -/
def matchPattern (v : GraphView) (config : MatcherConfig) (pattern : PathPattern)
    (options : MatchOptions) : Except Error (List Match) := do
  let partials ← v.starts config pattern.start options.initial
  let complete := v.extendAll config pattern.segments partials
  return Match.page options (Match.ranked (complete.map (Match.ofPartial pattern)))

/-- Fits one more pattern to each of the results for those before it. -/
def matchNext (v : GraphView) (config : MatcherConfig) (pattern : PathPattern)
    (results : List Match) : Except Error (List Match) := do
  let found ← results.mapM fun before => do
    let results ← v.matchPattern config pattern { initial := before.bindings }
    return results.filterMap fun m =>
      match before.bindings.join m.bindings with
      | (true, bindings) => some ⟨bindings, before.score.add m.score⟩
      | (false, _) => none
  return found.flatten

/-- Fits patterns one after the other; where one does not fit, those behind it are not tried. -/
def matchInTurn (v : GraphView) (config : MatcherConfig) :
    List PathPattern → List Match → Except Error (List Match)
  | [], results => .ok results
  | pattern :: rest, results => do
    let results ← v.matchNext config pattern results
    if results.isEmpty then return [] else v.matchInTurn config rest results

/-- The ways in which several patterns fit at the same time; the scores are added up. -/
def matchAll (v : GraphView) (config : MatcherConfig) (patterns : List PathPattern)
    (options : MatchOptions) : Except Error (List Match) := do
  let results ← v.matchInTurn config patterns [⟨options.initial, .zero⟩]
  return Match.page options (Match.ranked results)

end GraphView

end PropertyGraph
