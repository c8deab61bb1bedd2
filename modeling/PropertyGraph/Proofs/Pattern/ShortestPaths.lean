import PropertyGraph.Proofs.Pattern.Effort
import PropertyGraph.Regex.Parser

/-!
# Shortest paths

A `Store.Route` goes from a node along stored edges that a hop of a pattern accepts, and a
`Store.Distance` is the length of the shortest routes to a node.  Neither refers to a search.

An expansion that does not come up to its limit lists one route for each node whose distance from its
start is in its range, of just this length, and the shorter ones first
(`Store.Reachable.shortestRoutes_expand`).

Before each hop of the search the paths that it has found are ordered by their lengths, and all that it
goes on from are of one length (`Search.Ascending`); that these lengths are distances follows from the
nodes that were reached by then (`Search.Reaching`).
-/

namespace PropertyGraph

section AnyEngine

variable {ρ : Type} [RegexEngine ρ]

theorem Path.length_append (p : Path) (e : Edge) (n : Node) : (p.append e n).length = p.length + 1 :=
  List.length_append

namespace Store

/-! ### Routes -/

/-- A path from a node along stored edges that the hop accepts, each followed in its direction. -/
inductive Route (s : Store) (hop : RelationshipPattern) (start : Node) : Path → Prop where
  | single : Route s hop start (.single start)
  | append {p : Path} {tail n : Node} {e : Edge} (hp : Route s hop start p)
      (htail : p.end? = some tail) (he : s.edge? e.key = some e)
      (hdirection : hop.direction.Allows tail.id e) (haccepts : hop.accepts e)
      (hother : e.otherNode? tail.id = some n.id) (hn : s.node? n.id = some n) :
      Route s hop start (p.append e n)

/-- The shortest routes to a node are of the length. -/
structure Distance (s : Store) (hop : RelationshipPattern) (start : Node) (id : NodeId) (d : Nat) :
    Prop where
  route : ∃ p, s.Route hop start p ∧ p.endId? = some id ∧ p.length = d
  shortest : ∀ p, s.Route hop start p → p.endId? = some id → d ≤ p.length

variable {s : Store} {v : GraphView} {hop : RelationshipPattern} {start : Node} {p : Path}
  {id : NodeId} {d : Nat}

/-- A route has one node more than edges. -/
theorem Route.length_nodes (h : s.Route hop start p) : p.nodes.length = p.length + 1 := by
  induction h with
  | single => rfl
  | @append p tail n e _ _ _ _ _ _ _ ih =>
    rw [Path.length_append, ← ih]
    exact List.length_append

/-- A route is a walk to its end. -/
theorem Route.walk (hv : v.Shows s) (hs : s.WellFormed) (h : s.Route hop start p)
    (hend : p.endId? = some id) : v.Walk hop start.id p.length id := by
  induction h generalizing id with
  | single =>
    obtain rfl := Option.some.inj hend
    exact .refl
  | @append p tail n e _ htail he hdirection haccepts hother _ ih =>
    rw [Path.endId?_append] at hend
    obtain rfl := Option.some.inj hend
    have hwalk : v.Walk hop start.id p.length tail.id := ih (congrArg (Option.map Node.id) htail)
    have hlink : v.Links hop tail.id n.id :=
      ⟨e, (hs.mem_edgesToward hv).mpr ⟨he, hdirection⟩, haccepts, hother⟩
    rw [Path.length_append]
    exact hwalk.step hlink

/-- Along each walk there is a route. -/
theorem Route.of_walk (hv : v.Shows s) (hs : s.WellFormed) (h : v.Walk hop start.id d id) :
    ∃ p, s.Route hop start p ∧ p.endId? = some id ∧ p.length = d := by
  induction h with
  | refl => exact ⟨.single start, .single, rfl, rfl⟩
  | @step d b c _ hlink ih =>
    obtain ⟨p, hp, hend, hlength⟩ := ih
    obtain ⟨tail, htail, rfl⟩ := Option.map_eq_some_iff.mp hend
    obtain ⟨e, he, haccepts, hother⟩ := hlink
    obtain ⟨n, hn⟩ := Option.isSome_iff_exists.mp (hs.other_stored hv he hother)
    rw [hv.node?] at hn
    obtain rfl : n.id = c := hs.id_of_node hn
    obtain ⟨hstored, hdirection⟩ := (hs.mem_edgesToward hv).mp he
    refine ⟨p.append e n, hp.append htail hstored hdirection haccepts hother hn, ?_, ?_⟩
    · exact Path.endId?_append p e n
    · rw [Path.length_append, hlength]

/-- The distances in a store are those in its views. -/
theorem WellFormed.distance_iff (hs : s.WellFormed) (hv : v.Shows s) :
    s.Distance hop start id d ↔ v.IsDistance hop start.id d id := by
  constructor
  · rintro ⟨⟨p, hp, hend, rfl⟩, hshortest⟩
    refine ⟨hp.walk hv hs hend, fun d' hwalk => ?_⟩
    obtain ⟨q, hq, hqend, rfl⟩ := Route.of_walk hv hs hwalk
    exact hshortest q hq hqend
  · intro h
    exact ⟨Route.of_walk hv hs h.walk, fun q hq hqend => h.shortest q.length (hq.walk hv hs hqend)⟩

/-- The nodes of a route are within its length. -/
theorem Route.within (hv : v.Shows s) (hs : s.WellFormed) (h : s.Route hop start p) :
    ∀ m ∈ p.nodes, v.Within hop start.id p.length m.id := by
  induction h with
  | single =>
    intro m hm
    rw [List.mem_singleton.mp hm]
    exact GraphView.within_zero.mpr rfl
  | @append p tail n e hp htail he hdirection haccepts hother hn ih =>
    have happend : s.Route hop start (p.append e n) :=
      hp.append htail he hdirection haccepts hother hn
    intro m hm
    rcases List.mem_append.mp hm with hm | hm
    · rw [Path.length_append]
      exact (ih m hm).mono (Nat.le_succ _)
    · rw [List.mem_singleton.mp hm]
      exact ⟨_, Nat.le_refl _, happend.walk hv hs (Path.endId?_append p e n)⟩

/-- A route that is as long as its end is away does not come to a node twice. -/
theorem Route.nodup (hv : v.Shows s) (hs : s.WellFormed) (h : s.Route hop start p)
    (hend : p.endId? = some id) (hd : v.IsDistance hop start.id p.length id) :
    (p.nodes.map Node.id).Nodup := by
  induction h generalizing id with
  | single => exact List.nodup_singleton _
  | @append p tail n e hp htail he hdirection haccepts hother _ ih =>
    rw [Path.endId?_append] at hend
    obtain rfl := Option.some.inj hend
    rw [Path.length_append] at hd
    have htailId : p.endId? = some tail.id := congrArg (Option.map Node.id) htail
    have hlink : v.Links hop tail.id n.id :=
      ⟨e, (hs.mem_edgesToward hv).mpr ⟨he, hdirection⟩, haccepts, hother⟩
    -- a shorter walk to the last node but one would go on to a shorter one to the last
    have htailDistance : v.IsDistance hop start.id p.length tail.id := by
      refine ⟨hp.walk hv hs htailId, fun d' hwalk => ?_⟩
      have hle : p.length + 1 ≤ d' + 1 := hd.shortest _ (hwalk.step hlink)
      omega
    have hnew : n.id ∉ p.nodes.map Node.id := by
      intro hmem
      obtain ⟨m, hm, hid⟩ := List.mem_map.mp hmem
      have hnear : v.Within hop start.id p.length n.id := hid ▸ hp.within hv hs m hm
      exact (GraphView.isDistance_succ.mp hd).2 hnear
    have hnodes : (p.append e n).nodes.map Node.id = p.nodes.map Node.id ++ [n.id] := List.map_append
    rw [hnodes]
    exact (ih htailId htailDistance).append (List.nodup_singleton _) (List.disjoint_singleton.mpr hnew)

/-- Going on along an edge extends a route. -/
theorem WellFormed.keeps_route (hs : s.WellFormed) (hv : v.Shows s) :
    hop.Keeps v (s.Route hop start) := by
  intro p tail e other n hp htail he haccepts hother hnode
  rw [hv.node?] at hnode
  obtain rfl : n.id = other := hs.id_of_node hnode
  obtain ⟨hstored, hdirection⟩ := (hs.mem_edgesToward hv).mp he
  exact hp.append htail hstored hdirection haccepts hother hnode

end Store

/-! ### The order of the paths -/

namespace Search

variable {v : GraphView} {s : Store} {hop : RelationshipPattern} {limit min k : Nat}
  {start : NodeId} {search : Search}

/-- The paths that a search has found are as long as their ends are away, and ordered by their lengths.
Those for the next hop are one hop longer than those that this hop goes on from. -/
structure Ascending (v : GraphView) (hop : RelationshipPattern) (start : NodeId) (k : Nat)
    (search : Search) : Prop where
  shortest : ∀ p ∈ search.expansion.paths, ∀ id, p.endId? = some id →
    v.IsDistance hop start p.length id
  bounded : ∀ p ∈ search.expansion.paths, p.length ≤ k + 1
  sorted : search.expansion.paths.Pairwise fun p q => p.length ≤ q.length
  next : ∀ p ∈ search.next, p.length = k + 1

theorem Ascending.examine (h : search.Ascending v hop start k) :
    search.examine.Ascending v hop start k := ⟨h.shortest, h.bounded, h.sorted, h.next⟩

/-- A path to a node one hop further away is longer than those that were found before this hop. -/
theorem Ascending.reach (h : search.Ascending v hop start k) (report : Bool) {p : Path} {id : NodeId}
    (hend : p.endId? = some id) (hlength : p.length = k + 1)
    (hd : v.IsDistance hop start (k + 1) id) :
    (search.reach limit report p).Ascending v hop start k := by
  have hnext : ∀ q ∈ search.next ++ [p], q.length = k + 1 := by
    intro q hq
    rcases List.mem_append.mp hq with hq | hq
    · exact h.next q hq
    · exact List.mem_singleton.mp hq ▸ hlength
  unfold Search.reach
  split_ifs
  · refine ⟨fun q hq other hother => ?_, fun q hq => ?_, ?_, hnext⟩
    · rcases List.mem_append.mp hq with hq | hq
      · exact h.shortest q hq other hother
      · obtain rfl := List.mem_singleton.mp hq
        obtain rfl := Option.some.inj (hend.symm.trans hother)
        exact hlength ▸ hd
    · rcases List.mem_append.mp hq with hq | hq
      · exact h.bounded q hq
      · exact List.mem_singleton.mp hq ▸ Nat.le_of_eq hlength
    · rw [List.pairwise_append]
      refine ⟨h.sorted, List.pairwise_singleton _ _, fun q hq r hr => ?_⟩
      rw [List.mem_singleton.mp hr, hlength]
      exact h.bounded q hq
  · exact ⟨h.shortest, h.bounded, h.sorted, hnext⟩

theorem Ascending.follow (hv : v.Shows s) (hs : s.WellFormed) (h : search.Ascending v hop start k)
    (hreaching : search.Reaching v hop start limit min k) {path : Path} (hlength : path.length = k)
    {tail : NodeId} (htail : v.IsDistance hop start k tail) {e : Edge}
    (he : e ∈ v.edgesToward tail hop.direction) :
    (search.follow v hop limit (min ≤ k + 1) path tail e).Ascending v hop start k := by
  have hvisiting : ∀ id, ({ search.examine with
      visited := id :: search.visited } : Search).Ascending v hop start k :=
    fun id => ⟨h.shortest, h.bounded, h.sorted, h.next⟩
  have houtcome := outcome_follow v hop limit (min ≤ k + 1) path tail search e
  generalize search.follow v hop limit (min ≤ k + 1) path tail e = next at houtcome ⊢
  cases houtcome with
  | full _ => exact h
  | passed _ _ => exact h.examine
  | missed _ _ => exact hvisiting _
  | @reached other n _ haccepts hother hnew hnode =>
    obtain rfl : n.id = other := hs.id_of_node (hv.node? ▸ hnode)
    have hlink : v.Links hop tail n.id := ⟨e, he, haccepts, hother⟩
    have hwithin : v.Within hop start (k + 1) n.id :=
      GraphView.Within.link ⟨k, Nat.le_refl k, htail.walk⟩ hlink
    -- the nodes within less were reached before this hop
    have hfar : ¬ v.Within hop start k n.id := fun hnear => hnew (hreaching.near n.id hnear)
    have happend : (path.append e n).length = k + 1 := by
      rw [Path.length_append, hlength]
    exact (hvisiting n.id).reach _ (Path.endId?_append path e n) happend
      (GraphView.isDistance_succ.mpr ⟨hwithin, hfar⟩)

theorem Ascending.extend (hv : v.Shows s) (hs : s.WellFormed) (h : search.Ascending v hop start k)
    (hreaching : search.Reaching v hop start limit min k) {path : Path} (hlength : path.length = k)
    (hpath : ∀ tail, path.endId? = some tail → v.IsDistance hop start k tail) :
    (search.extend v hop limit (min ≤ k + 1) path).Ascending v hop start k := by
  unfold Search.extend
  cases htail : path.end? with
  | none => exact h
  | some tail =>
    have hd : v.IsDistance hop start k tail.id := hpath tail.id (congrArg (Option.map Node.id) htail)
    have hboth := List.foldlRecOn (v.edgesToward tail.id hop.direction)
      (Search.follow v hop limit (min ≤ k + 1) path tail.id)
      (motive := fun search => search.Reaching v hop start limit min k ∧
        search.Ascending v hop start k)
      ⟨hreaching, h⟩ fun search hsearch e he =>
        ⟨(hsearch.1.follow hv hs path hd he).1, hsearch.2.follow hv hs hsearch.1 hlength hd he⟩
    exact hboth.2

/-- **Step of a search**: a hop adds longer paths only. -/
theorem Ascending.advance (hv : v.Shows s) (hs : s.WellFormed) {frontier : List Path}
    (hlayered : search.Layered v hop start min k frontier)
    (hfrontier : ∀ p ∈ frontier, p.length = k)
    (h : ({ search with next := [] } : Search).Ascending v hop start k) (limit : Nat) :
    (frontier.foldl (Search.extend v hop limit (min ≤ k + 1)) { search with next := [] }).Ascending
      v hop start k := by
  have hdistance : ∀ p ∈ frontier, ∀ tail, p.endId? = some tail → v.IsDistance hop start k tail :=
    fun p hp tail htail => (hlayered.frontier tail).mp (List.mem_filterMap.mpr ⟨p, hp, htail⟩)
  have hboth := List.foldlRecOn frontier (Search.extend v hop limit (min ≤ k + 1))
    (motive := fun search => search.Reaching v hop start limit min k ∧
      search.Ascending v hop start k)
    ⟨hlayered.reaching limit, h⟩ fun search hsearch p hp =>
      ⟨(hsearch.1.extend hv hs (hdistance p hp)).1,
        hsearch.2.extend hv hs hsearch.1 (hfrontier p hp) (hdistance p hp)⟩
  exact hboth.2

/-- **Run of a search**: it finds paths as long as their ends are away, in the order of their
lengths. -/
theorem Ascending.run (hv : v.Shows s) (hs : s.WellFormed) (hops : Nat) {frontier : List Path}
    (hlayered : search.Layered v hop start min k frontier)
    (hfrontier : ∀ p ∈ frontier, p.length = k)
    (h : ({ search with next := [] } : Search).Ascending v hop start k) (limit : Nat) :
    let found := (Search.run v hop limit min hops (k + 1) frontier search).paths
    (∀ p ∈ found, ∀ id, p.endId? = some id → v.IsDistance hop start p.length id) ∧
      found.Pairwise fun p q => p.length ≤ q.length := by
  induction hops generalizing k frontier search with
  | zero => exact ⟨h.shortest, h.sorted⟩
  | succ hops ih =>
    have hstep := h.advance hv hs hlayered hfrontier limit
    obtain ⟨-, hnext⟩ := hlayered.advance hv hs limit
    unfold Search.run
    dsimp only
    set search' := frontier.foldl (Search.extend v hop limit (min ≤ k + 1)) { search with next := [] }
    split_ifs with hdone
    · exact ⟨hstep.shortest, hstep.sorted⟩
    · rw [Bool.or_eq_true, not_or, Bool.not_eq_true] at hdone
      refine ih (hnext hdone.1) hstep.next ⟨hstep.shortest, fun p hp => ?_, hstep.sorted, ?_⟩
      · exact Nat.le_succ_of_le (hstep.bounded p hp)
      · exact fun p hp => (List.not_mem_nil hp).elim

end Search

/-! ### Expansions -/

namespace GraphView

variable {v : GraphView} {s : Store}

/-- The paths of an expansion are as long as their ends are away, and ordered by their lengths. -/
theorem Shows.expand_ascending (hv : v.Shows s) (hs : s.WellFormed) (start : Node)
    (hop : RelationshipPattern) (min max limit : Nat) :
    let found := (v.expand start hop min max limit).paths
    (∀ p ∈ found, ∀ id, p.endId? = some id → v.IsDistance hop start.id p.length id) ∧
      found.Pairwise fun p q => p.length ≤ q.length := by
  refine Search.Ascending.run hv hs max (Search.layered_start v hop start min)
    (List.forall_mem_singleton.mpr rfl) ⟨?_, ?_, ?_, fun p hp => (List.not_mem_nil hp).elim⟩ limit
  · intro p hp id hid
    dsimp only at hp
    split_ifs at hp
    · obtain rfl := List.mem_singleton.mp hp
      obtain rfl := Option.some.inj hid
      exact isDistance_zero.mpr rfl
    · exact (List.not_mem_nil hp).elim
  · intro p hp
    dsimp only at hp
    split_ifs at hp
    · rw [List.mem_singleton.mp hp]
      exact Nat.zero_le _
    · exact (List.not_mem_nil hp).elim
  · dsimp only
    split_ifs
    · exact List.pairwise_singleton _ _
    · exact List.Pairwise.nil

end GraphView

namespace Store

/-- What an expansion has found: one shortest route to each node whose distance is in a range, the
shorter ones first. -/
structure ShortestRoutes (s : Store) (hop : RelationshipPattern) (start : Node) (min max : Nat)
    (found : Expansion) : Prop where
  /-- The nodes at which paths end are those whose distance is in the range. -/
  reached : ∀ id, some id ∈ found.paths.map Path.endId? ↔
    ∃ d, min ≤ d ∧ d ≤ max ∧ s.Distance hop start id d
  /-- No two paths end at the same node. -/
  distinct : (found.paths.map Path.endId?).Nodup
  routes : ∀ p ∈ found.paths, s.Route hop start p
  ended : ∀ p ∈ found.paths, ∃ id, p.endId? = some id ∧ s.Distance hop start id p.length
  alternating : ∀ p ∈ found.paths, p.nodes.length = p.edges.length + 1
  /-- No path comes to a node twice. -/
  simple : ∀ p ∈ found.paths, (p.nodes.map Node.id).Nodup
  ascending : found.paths.Pairwise fun p q => p.length ≤ q.length
  /-- No edge is looked at more often than it may be followed from stored nodes. -/
  examined : found.examined ≤ (s.allNodes.map fun n => s.degree hop.direction n.id).sum

/-- **An expansion is exact.**  One from a stored node that does not come up to its limit finds a
shortest route to each node whose distance is in its range, and nothing else.  More hops than there are
nodes change nothing. -/
theorem Reachable.shortestRoutes_expand {s : Store} (hs : s.Reachable) {start : Node}
    (hstart : s.node? start.id = some start) (hop : RelationshipPattern) (min max limit : Nat)
    (hlimit : (s.view.expand start hop min max limit).paths.length < limit) :
    s.ShortestRoutes hop start min max (s.view.expand start hop min max limit) ∧
      (s.allNodes.length ≤ max → s.view.expand start hop min max limit
        = s.view.expand start hop min s.allNodes.length limit) := by
  have hv : s.view.Shows s := s.view_shows
  have hstored : (s.node? start.id).isSome := Option.isSome_of_eq_some hstart
  obtain ⟨hsound, hcomplete⟩ := hv.expand_ends hs.wellFormed start hop min max limit
  have hkeeps : hop.Keeps s.view (s.Route hop start) := hs.wellFormed.keeps_route hv
  have halone : s.Route hop start (.single start) := .single
  obtain ⟨hfound, hnodup⟩ := hv.expand_found hs.wellFormed hkeeps halone min max limit
  obtain ⟨hshortest, hsorted⟩ := hv.expand_ascending hs.wellFormed start hop min max limit
  have hrange : ∀ id, s.view.InRange hop start.id min max id ↔
      ∃ d, min ≤ d ∧ d ≤ max ∧ s.Distance hop start id d := by
    intro id
    unfold GraphView.InRange
    simp only [hs.wellFormed.distance_iff hv]
  refine ⟨⟨fun id => ?_, hnodup, fun p hp => (hfound p hp).1, fun p hp => ?_, fun p hp => ?_,
    fun p hp => ?_, hsorted, ?_⟩, hv.expand_of_size_le hs.wellFormed hstored⟩
  · rw [← hrange, List.mem_map, ← List.mem_filterMap]
    exact ⟨hsound id, hcomplete hlimit id⟩
  · obtain ⟨id, hid⟩ := Option.isSome_iff_exists.mp (hfound p hp).2
    exact ⟨id, hid, (hs.wellFormed.distance_iff hv).mpr (hshortest p hp id hid)⟩
  · exact (hfound p hp).1.length_nodes
  · obtain ⟨id, hid⟩ := Option.isSome_iff_exists.mp (hfound p hp).2
    exact (hfound p hp).1.nodup hv hs.wellFormed hid (hshortest p hp id hid)
  · have hle : (s.view.expand start hop min max limit).examined
        ≤ s.totalDegree hop.direction (s.allNodes.map Node.id) :=
      hv.examined_expand_le hs.wellFormed hstored
    unfold totalDegree at hle
    rwa [List.map_map] at hle

end Store

end AnyEngine

namespace Store

/-! ### A small cycle -/

def cycleNodes : List Node := [⟨"a", [], .empty⟩, ⟨"b", [], .empty⟩, ⟨"c", ["City"], .empty⟩]

def cycleEdges : List Edge :=
  [⟨"a", "b", "next", .empty⟩, ⟨"a", "b", "likes", .empty⟩, ⟨"b", "b", "next", .empty⟩,
    ⟨"b", "c", "next", .empty⟩, ⟨"c", "a", "next", .empty⟩]

/-- A cycle of three nodes, with a loop and with two edges between the same nodes. -/
def cycle : Store := (ofElements cycleNodes cycleEdges).toOption.getD empty

theorem reachable_cycle : cycle.Reachable :=
  reachable_ofElements (show ofElements cycleNodes cycleEdges = .ok cycle from rfl)

/-- All around a cycle: each node once, and back to none of them. -/
theorem shortestRoutes_cycle :
    cycle.node? "a" = some ⟨"a", [], .empty⟩ ∧
      ((cycle.view.expand ⟨"a", [], .empty⟩ {} 0 7 5).paths.map fun p =>
        (p.length, p.endId?)) = [(0, some "a"), (1, some "b"), (2, some "c")] ∧
      cycle.ShortestRoutes {} ⟨"a", [], .empty⟩ 0 7 (cycle.view.expand ⟨"a", [], .empty⟩ {} 0 7 5) ∧
      cycle.view.expand ⟨"a", [], .empty⟩ {} 0 7 5 = cycle.view.expand ⟨"a", [], .empty⟩ {} 0 3 5 := by
  have hstart : cycle.node? "a" = some ⟨"a", [], .empty⟩ := rfl
  have hsize : cycle.allNodes.length = 3 := by decide +kernel
  have hends : ((cycle.view.expand ⟨"a", [], .empty⟩ {} 0 7 5).paths.map fun p =>
      (p.length, p.endId?)) = [(0, some "a"), (1, some "b"), (2, some "c")] := by decide +kernel
  have hlimit : (cycle.view.expand ⟨"a", [], .empty⟩ {} 0 7 5).paths.length < 5 := by decide +kernel
  obtain ⟨hroutes, hhops⟩ := reachable_cycle.shortestRoutes_expand hstart {} 0 7 5 hlimit
  refine ⟨hstart, hends, hroutes, ?_⟩
  rw [hsize] at hhops
  exact hhops (by decide)

end Store

end PropertyGraph
