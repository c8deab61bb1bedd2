import PropertyGraph.Pattern.Expansion
import PropertyGraph.Proofs.Store.View

/-!
# Breadth-first expansion

What may come of following one edge is said once (`Search.Outcome`).  What a search keeps is shown by
these cases.

A condition that going on along an edge keeps holds of all paths of an expansion, and no two of
these end at the same node (`expand_found`).  That they end at nodes that the view finds
(`finds_of_mem_expand`) is such a condition.
-/

namespace PropertyGraph

variable {ρ : Type} [RegexEngine ρ]

variable {v : GraphView} {s : Store} {hop : RelationshipPattern} {limit : Nat}
  {P : Path → Prop} {report : Bool}

namespace Path

/-- The id of the node at which a path ends. -/
def endId? (p : Path) : Option NodeId := p.end?.map Node.id

theorem end?_append (p : Path) (e : Edge) (n : Node) : (p.append e n).end? = some n := by
  unfold end? append
  exact List.getLast?_concat

theorem endId?_append (p : Path) (e : Edge) (n : Node) : (p.append e n).endId? = some n.id :=
  congrArg (Option.map Node.id) (p.end?_append e n)

theorem end?_single (n : Node) : (single n).end? = some n := rfl

/-- The path has an end, and the view finds it. -/
def EndsIn (v : GraphView) (p : Path) : Prop := ∀ n, p.end? = some n → v.Finds n

end Path

/-- The condition still holds of a path after it goes on along an accepted edge. -/
def RelationshipPattern.Keeps (hop : RelationshipPattern) (v : GraphView) (P : Path → Prop) : Prop :=
  ∀ (p : Path) (tail : Node) (e : Edge) (other : NodeId) (n : Node), P p → p.end? = some tail →
    e ∈ v.edgesToward tail.id hop.direction → hop.accepts e → e.otherNode? tail.id = some other →
    v.node? other = some n → P (p.append e n)

/-! ### One hop -/

namespace Search

/-- The paths of a search, those it goes on from included, satisfy a condition.  The ones that are
reported lead to different nodes, which count as reached. -/
structure Sound (P : Path → Prop) (search : Search) : Prop where
  found : ∀ p ∈ search.expansion.paths, P p
  next : ∀ p ∈ search.next, P p
  reached : ∀ p ∈ search.expansion.paths, ∃ id ∈ search.visited, p.endId? = some id
  distinct : (search.expansion.paths.map Path.endId?).Nodup

variable {search : Search}

theorem Sound.paths (h : search.Sound P) :
    (∀ p ∈ search.expansion.paths, P p ∧ (p.endId?).isSome) ∧
      (search.expansion.paths.map Path.endId?).Nodup := by
  refine ⟨fun p hp => ⟨h.found p hp, ?_⟩, h.distinct⟩
  obtain ⟨id, -, hid⟩ := h.reached p hp
  exact Option.isSome_of_eq_some hid

theorem Sound.reach (h : search.Sound P) {p : Path} (hp : P p) {n : Node}
    (hend : p.end? = some n) (hn : n.id ∉ search.visited) :
    (({ search with visited := n.id :: search.visited } : Search).reach limit report p).Sound P := by
  have hid : p.endId? = some n.id := congrArg (Option.map Node.id) hend
  have hnext : ∀ q ∈ search.next ++ [p], P q := by
    intro q hq
    rcases List.mem_append.mp hq with hq | hq
    · exact h.next q hq
    · exact List.mem_singleton.mp hq ▸ hp
  have hreached : ∀ q ∈ search.expansion.paths, ∃ id ∈ n.id :: search.visited, q.endId? = some id :=
    fun q hq =>
      have ⟨id, hvisited, hq⟩ := h.reached q hq
      ⟨id, List.mem_cons_of_mem _ hvisited, hq⟩
  unfold Search.reach
  split_ifs
  · refine ⟨fun q hq => ?_, hnext, fun q hq => ?_, ?_⟩
    · rcases List.mem_append.mp hq with hq | hq
      · exact h.found q hq
      · exact List.mem_singleton.mp hq ▸ hp
    · rcases List.mem_append.mp hq with hq | hq
      · exact hreached q hq
      · obtain rfl := List.mem_singleton.mp hq
        exact ⟨n.id, List.mem_cons_self, hid⟩
    · -- the new end was not reached before, and all the others were
      rw [List.map_append, List.map_singleton]
      refine h.distinct.append (List.nodup_singleton _) (List.disjoint_singleton.mpr fun hmem => ?_)
      obtain ⟨q, hq, hsame⟩ := List.mem_map.mp hmem
      obtain ⟨id, hvisited, hqid⟩ := h.reached q hq
      rw [hqid, hid] at hsame
      exact hn (Option.some.inj hsame ▸ hvisited)
  · exact ⟨h.found, hnext, hreached, h.distinct⟩

/-- What may come of following an edge at the end of a path. -/
inductive Outcome (v : GraphView) (hop : RelationshipPattern) (limit : Nat) (report : Bool) (path : Path)
    (tail : NodeId) (e : Edge) (search : Search) : Search → Prop where
  /-- The search is over. -/
  | full (hfull : search.isFull = true) : Outcome v hop limit report path tail e search search
  /-- The edge is not accepted, or it leads to no new node. -/
  | passed (hopen : search.isFull = false)
      (hknown : hop.accepts e → ∀ other, e.otherNode? tail = some other → other ∈ search.visited) :
      Outcome v hop limit report path tail e search search.examine
  /-- The edge leads to a node that cannot be looked up. -/
  | missed {other : NodeId} (hother : e.otherNode? tail = some other) (hnode : v.node? other = none) :
      Outcome v hop limit report path tail e search
        { search.examine with visited := other :: search.visited }
  /-- The edge leads to a new node. -/
  | reached {other : NodeId} {n : Node} (hopen : search.isFull = false) (haccepts : hop.accepts e)
      (hother : e.otherNode? tail = some other) (hnew : other ∉ search.visited)
      (hnode : v.node? other = some n) :
      Outcome v hop limit report path tail e search
        (({ search.examine with visited := other :: search.visited } : Search).reach limit report
          (path.append e n))

/-- **Following an edge** has one of these outcomes. -/
theorem outcome_follow (v : GraphView) (hop : RelationshipPattern) (limit : Nat) (report : Bool)
    (path : Path) (tail : NodeId) (search : Search) (e : Edge) :
    search.Outcome v hop limit report path tail e
      (search.follow v hop limit report path tail e) := by
  unfold Search.follow
  split_ifs with hfull haccepts
  · exact .full hfull
  · rw [Bool.not_eq_true] at hfull
    rw [Bool.not_eq_true'] at haccepts
    exact .passed hfull fun h => by rw [haccepts] at h; cases h
  · rw [Bool.not_eq_true] at hfull
    rw [Bool.not_eq_true, Bool.not_eq_false'] at haccepts
    cases hother : e.otherNode? tail with
    | none => exact .passed hfull fun _ other h => by rw [hother] at h; cases h
    | some other =>
      dsimp only
      split_ifs with hvisited
      · refine .passed hfull fun _ other' h => ?_
        obtain rfl := Option.some.inj (hother.symm.trans h)
        exact List.contains_iff_mem.mp hvisited
      · have hnew : other ∉ search.visited := fun hmem => hvisited (List.contains_iff_mem.mpr hmem)
        cases hnode : v.node? other with
        | none => exact .missed hother hnode
        | some n => exact .reached hfull haccepts hother hnew hnode

theorem Sound.follow (hv : v.Shows s) (hs : s.WellFormed) (hP : hop.Keeps v P)
    (h : search.Sound P) {path : Path} (hpath : P path) {tail : Node}
    (htail : path.end? = some tail) {e : Edge} (he : e ∈ v.edgesToward tail.id hop.direction) :
    (search.follow v hop limit report path tail.id e).Sound P := by
  have hexamine : search.examine.Sound P := ⟨h.found, h.next, h.reached, h.distinct⟩
  have houtcome := outcome_follow v hop limit report path tail.id search e
  generalize search.follow v hop limit report path tail.id e = next at houtcome ⊢
  cases houtcome with
  | full hfull => exact h
  | passed _ _ => exact hexamine
  | missed _ _ =>
    refine ⟨h.found, h.next, fun q hq => ?_, h.distinct⟩
    obtain ⟨id, hvisited, hq⟩ := h.reached q hq
    exact ⟨id, List.mem_cons_of_mem _ hvisited, hq⟩
  | @reached other n _ haccepts hother hnew hnode =>
    -- the view has just found the node under the id that was not reached before
    obtain rfl : n.id = other := hs.id_of_node (hv.node? ▸ hnode)
    have hgoes := hP path tail e n.id n hpath htail he haccepts hother hnode
    exact hexamine.reach hgoes (path.end?_append e n) hnew

theorem Sound.extend (hv : v.Shows s) (hs : s.WellFormed) (hP : hop.Keeps v P)
    (h : search.Sound P) {path : Path} (hpath : P path) :
    (search.extend v hop limit report path).Sound P := by
  unfold Search.extend
  cases htail : path.end? with
  | none => exact h
  | some tail =>
    dsimp only
    refine List.foldlRecOn _ _ h fun search hsearch e he => ?_
    exact hsearch.follow hv hs hP hpath htail he

/-! ### All hops -/

theorem Sound.run (hv : v.Shows s) (hs : s.WellFormed) (hP : hop.Keeps v P) (min hops depth : Nat)
    {frontier : List Path} (hfrontier : ∀ p ∈ frontier, P p) (h : search.Sound P) :
    let found := (Search.run v hop limit min hops depth frontier search).paths
    (∀ p ∈ found, P p ∧ (p.endId?).isSome) ∧ (found.map Path.endId?).Nodup := by
  induction hops generalizing depth frontier search with
  | zero => exact h.paths
  | succ hops ih =>
    have hstep : (frontier.foldl (Search.extend v hop limit (min ≤ depth))
        { search with next := [] }).Sound P := by
      refine List.foldlRecOn _ _ ?_ fun search hsearch path hpath =>
        hsearch.extend hv hs hP (hfrontier path hpath)
      exact ⟨h.found, fun p hp => (List.not_mem_nil hp).elim, h.reached, h.distinct⟩
    unfold Search.run
    dsimp only
    split_ifs
    · exact hstep.paths
    · exact ih (depth + 1) hstep.next hstep

end Search

/-! ### Expansions -/

namespace GraphView

/-- The paths of an expansion satisfy a condition that holds at its start and that going on keeps.
They have ends, and no two the same. -/
theorem Shows.expand_found (hv : v.Shows s) (hs : s.WellFormed) (hP : hop.Keeps v P) {start : Node}
    (hstart : P (.single start)) (min max limit : Nat) :
    let found := (v.expand start hop min max limit).paths
    (∀ p ∈ found, P p ∧ (p.endId?).isSome) ∧ (found.map Path.endId?).Nodup := by
  have halone : ∀ p ∈ [Path.single start], P p := fun p hp => List.mem_singleton.mp hp ▸ hstart
  refine Search.Sound.run hv hs hP min max 1 halone
    ⟨fun p hp => ?_, fun p hp => (List.not_mem_nil hp).elim, fun p hp => ?_, ?_⟩
  · dsimp only at hp
    split_ifs at hp
    · exact halone p hp
    · exact (List.not_mem_nil hp).elim
  · dsimp only at hp
    split_ifs at hp
    · obtain rfl := List.mem_singleton.mp hp
      exact ⟨start.id, List.mem_cons_self, rfl⟩
    · exact (List.not_mem_nil hp).elim
  · dsimp only
    split_ifs
    · exact List.nodup_singleton _
    · exact List.nodup_nil

/-- An expansion from a node that the view finds reaches only such nodes. -/
theorem Shows.finds_of_mem_expand (hv : v.Shows s) (hs : s.WellFormed) {start : Node}
    (hstart : v.Finds start) {min max : Nat} :
    ∀ p ∈ (v.expand start hop min max limit).paths, p.EndsIn v := by
  have hkeeps : hop.Keeps v (Path.EndsIn v) := by
    intro p tail e other n _ _ _ _ _ hnode m hm
    rw [Path.end?_append] at hm
    obtain rfl := Option.some.inj hm
    exact hv.finds hs hnode
  have halone : (Path.single start).EndsIn v := by
    intro n hn
    obtain rfl := Option.some.inj (Path.end?_single start ▸ hn)
    exact hstart
  exact fun p hp => ((hv.expand_found hs hkeeps halone min max limit).1 p hp).1

end GraphView

end PropertyGraph
