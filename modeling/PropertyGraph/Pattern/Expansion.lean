import PropertyGraph.Pattern.Basic
import PropertyGraph.Store.View

/-!
# Breadth-first expansion

`GraphView.expand` follows the edges that a pattern accepts from a node, one hop after the other,
and reports for each node the path on which it was first reached, if the number of hops lies
within a range.  No path comes back to a node that was reached before.
-/

namespace PropertyGraph

variable {ρ : Type} [RegexEngine ρ]

structure Expansion where
  /-- The paths in the order in which they were found, shorter ones first. -/
  paths : List Path
  /-- The number of edges looked at. -/
  examined : Nat

/-- A search in the course of one hop. -/
structure Search where
  expansion : Expansion
  /-- The nodes that were reached, also those that could not be looked up. -/
  visited : List NodeId
  /-- The paths that the next hop starts from. -/
  next : List Path := []
  /-- As many paths were found as were asked for. -/
  isFull : Bool := false

namespace Search

/-- Counts an edge as looked at. -/
def examine (s : Search) : Search :=
  { s with expansion := { s.expansion with examined := s.expansion.examined + 1 } }

/-- Adds a path to a node reached for the first time; it is reported if it is long enough. -/
def reach (limit : Nat) (report : Bool) (path : Path) (s : Search) : Search :=
  if report then
    let paths := s.expansion.paths ++ [path]
    { s with
      expansion := { s.expansion with paths }
      next := s.next ++ [path]
      isFull := limit ≤ paths.length }
  else { s with next := s.next ++ [path] }

/-- Looks at an edge at the end of a path and goes on along it if the pattern accepts it and it
leads to a node that was not reached before. -/
def follow (v : GraphView) (hop : RelationshipPattern) (limit : Nat) (report : Bool) (path : Path)
    (tail : NodeId) (s : Search) (e : Edge) : Search :=
  if s.isFull then s
  else if !hop.accepts e then s.examine
  else
    match e.otherNode? tail with
    | none => s.examine
    | some other =>
      if s.visited.contains other then s.examine
      else
        let s := { s.examine with visited := other :: s.visited }
        match v.node? other with
        | none => s
        | some n => s.reach limit report (path.append e n)

/-- Follows the edges at the end of a path. -/
def extend (v : GraphView) (hop : RelationshipPattern) (limit : Nat) (report : Bool) (s : Search)
    (path : Path) : Search :=
  match path.end? with
  | none => s
  | some tail =>
    (v.edgesToward tail.id hop.direction).foldl (follow v hop limit report path tail.id) s

/-- Makes the hops of a search from the one numbered `depth` on, `hops` of them at most. -/
def run (v : GraphView) (hop : RelationshipPattern) (limit min : Nat) :
    (hops depth : Nat) → (frontier : List Path) → Search → Expansion
  | 0, _, _, s => s.expansion
  | hops + 1, depth, frontier, s =>
    let s := frontier.foldl (extend v hop limit (min ≤ depth)) { s with next := [] }
    if s.isFull || s.next.isEmpty then s.expansion
    else run v hop limit min hops (depth + 1) s.next s

end Search

namespace GraphView

/-- The paths from a node along accepted edges to the nodes that are `min` to `max` hops away.  The
search ends as soon as a hop has completed `limit` paths; the start itself counts as reached by no
hop and is reported first if the range allows it. -/
def expand (v : GraphView) (start : Node) (hop : RelationshipPattern) (min max limit : Nat) :
    Expansion :=
  let alone := Path.single start
  Search.run v hop limit min max 1 [alone]
    { expansion := ⟨if min = 0 then [alone] else [], 0⟩, visited := [start.id] }

end GraphView

end PropertyGraph
