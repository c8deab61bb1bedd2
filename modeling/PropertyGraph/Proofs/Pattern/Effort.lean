import Mathlib.Algebra.BigOperators.Group.List.Basic
import Mathlib.Algebra.GroupWithZero.Nat
import PropertyGraph.Proofs.Pattern.Distance

/-!
# The effort of an expansion

An expansion looks at each edge at most once from each of its ends: a node is visited once, and what is
looked at are the edges of visited nodes (`Shows.examined_expand_le`).  It makes at most as many hops as
there are nodes, however many it may make (`Shows.expand_of_size_le`).

For the first, a search keeps a budget (`Search.Affords`): the edges that it has looked at, together with
those it still has to look at before its next hops, are no more than the visited nodes have.  A node that
is reached adds its edges to both sides.
-/

namespace PropertyGraph

variable {ρ : Type} [RegexEngine ρ]

instance Direction.decidableAllows (id : NodeId) (e : Edge) : (d : Direction) → Decidable (d.Allows id e)
  | .outgoing => inferInstanceAs (Decidable (e.source = id))
  | .incoming => inferInstanceAs (Decidable (e.target = id))
  | .both => inferInstanceAs (Decidable (e.source = id ∨ e.target = id))

namespace Store

/-- The number of stored edges that may be followed from a node. -/
def degree (s : Store) (d : Direction) (id : NodeId) : Nat :=
  (s.allEdges.filter fun e => d.Allows id e).length

/-- The number of stored edges that may be followed from nodes, one node after the other. -/
def totalDegree (s : Store) (d : Direction) (ids : List NodeId) : Nat := (ids.map (s.degree d)).sum

variable {s : Store} {d : Direction}

theorem totalDegree_nil : s.totalDegree d [] = 0 := rfl

theorem totalDegree_cons (id : NodeId) (ids : List NodeId) :
    s.totalDegree d (id :: ids) = s.degree d id + s.totalDegree d ids := by
  unfold totalDegree
  rw [List.map_cons, List.sum_cons]

theorem totalDegree_append (ids ids' : List NodeId) :
    s.totalDegree d (ids ++ ids') = s.totalDegree d ids + s.totalDegree d ids' := by
  unfold totalDegree
  rw [List.map_append, List.sum_append]

/-- As many edges are listed to follow from a node as there are. -/
theorem WellFormed.length_edgesToward (hs : s.WellFormed) {v : GraphView} (hv : v.Shows s)
    (id : NodeId) : (v.edgesToward id d).length = s.degree d id := by
  have hnodup : (s.allEdges.filter fun e => d.Allows id e).Nodup :=
    (List.Nodup.of_map _ hs.nodup_keys).filter _
  have hperm : (v.edgesToward id d).Perm (s.allEdges.filter fun e => d.Allows id e) := by
    rw [List.perm_ext_iff_of_nodup (hs.nodup_edgesToward hv id d) hnodup]
    intro e
    rw [hs.mem_edgesToward hv, List.mem_filter, hs.mem_allEdges, decide_eq_true_iff]
  exact hperm.length_eq

/-- Different nodes of a store are among the nodes that it lists. -/
theorem WellFormed.subperm_allNodes (hs : s.WellFormed) {ids : List NodeId} (hnodup : ids.Nodup)
    (hstored : ∀ id ∈ ids, (s.node? id).isSome) : ids.Subperm (s.allNodes.map Node.id) := by
  refine hnodup.subperm fun id hid => ?_
  obtain ⟨n, hn⟩ := Option.isSome_iff_exists.mp (hstored id hid)
  obtain rfl : n.id = id := hs.id_of_node hn
  exact List.mem_map_of_mem (hs.mem_allNodes.mpr hn)

/-- Different nodes of a store have no more edges to follow than all nodes of the store. -/
theorem WellFormed.totalDegree_le (hs : s.WellFormed) {ids : List NodeId} (hnodup : ids.Nodup)
    (hstored : ∀ id ∈ ids, (s.node? id).isSome) :
    s.totalDegree d ids ≤ s.totalDegree d (s.allNodes.map Node.id) := by
  obtain ⟨listed, hperm, hsublist⟩ := hs.subperm_allNodes hnodup hstored
  obtain ⟨others, hothers⟩ := hsublist.exists_perm_append
  have hsplit : (s.allNodes.map Node.id).Perm (ids ++ others) :=
    hothers.trans (hperm.append_right others)
  have hsum : s.totalDegree d (s.allNodes.map Node.id) = s.totalDegree d (ids ++ others) := by
    unfold totalDegree
    exact (hsplit.map _).sum_eq
  rw [hsum, totalDegree_append]
  exact Nat.le_add_right _ _

end Store

namespace Search

variable {v : GraphView} {s : Store} {hop : RelationshipPattern} {limit min rest : Nat}
  {report : Bool} {search : Search}

/-! ### The budget -/

/-- The visited nodes are stored, and each was visited once.  They have as many edges as have been looked
at, as are left to look at in this hop, and as the paths for the next hop lead to. -/
structure Affords (s : Store) (d : Direction) (rest : Nat) (search : Search) : Prop where
  nodup : search.visited.Nodup
  stored : ∀ id ∈ search.visited, (s.node? id).isSome
  spent : search.expansion.examined + rest + s.totalDegree d (ends search.next)
    ≤ s.totalDegree d search.visited

/-- What has been looked at are edges of different nodes. -/
theorem Affords.examined_le {d : Direction} (h : search.Affords s d rest) (hs : s.WellFormed) :
    search.expansion.examined ≤ s.totalDegree d (s.allNodes.map Node.id) := by
  have hvisited := hs.totalDegree_le (d := d) h.nodup h.stored
  have hspent := h.spent
  omega

/-- Looking at an edge takes it from what is left. -/
theorem Affords.examine {d : Direction} (h : search.Affords s d (rest + 1)) :
    search.examine.Affords s d rest := by
  refine ⟨h.nodup, h.stored, ?_⟩
  have hspent := h.spent
  unfold Search.examine
  dsimp only
  omega

/-- A node that is reached adds its edges to those that there are, and its path leads to them. -/
theorem Affords.reach {d : Direction} (h : search.Affords s d rest) {p : Path} {id : NodeId}
    (hend : p.endId? = some id) (hnew : id ∉ search.visited) (hstored : (s.node? id).isSome) :
    (({ search with visited := id :: search.visited } : Search).reach limit report p).Affords s d
      rest := by
  have hnodup : (id :: search.visited).Nodup := List.nodup_cons.mpr ⟨hnew, h.nodup⟩
  have hall : ∀ other ∈ id :: search.visited, (s.node? other).isSome :=
    List.forall_mem_cons.mpr ⟨hstored, h.stored⟩
  have hends : ends (search.next ++ [p]) = ends search.next ++ [id] := by
    unfold ends
    rw [List.filterMap_append, List.filterMap_cons_some hend, List.filterMap_nil]
  have hspent : search.expansion.examined + rest + s.totalDegree d (ends (search.next ++ [p]))
      ≤ s.totalDegree d (id :: search.visited) := by
    have hspent := h.spent
    rw [hends, Store.totalDegree_append, Store.totalDegree_cons, Store.totalDegree_cons]
    rw [Store.totalDegree_nil]
    omega
  unfold Search.reach
  split <;> exact ⟨hnodup, hall, hspent⟩

/-- Following an edge takes it from what is left. -/
theorem Affords.follow (hv : v.Shows s) (hs : s.WellFormed) {path : Path} {tail : NodeId} {e : Edge}
    (he : e ∈ v.edgesToward tail hop.direction) (h : search.Affords s hop.direction (rest + 1)) :
    (search.follow v hop limit report path tail e).Affords s hop.direction rest := by
  have hexamined := h.examine
  have houtcome := outcome_follow v hop limit report path tail search e
  generalize search.follow v hop limit report path tail e = next at houtcome ⊢
  cases houtcome with
  | full _ =>
    refine ⟨h.nodup, h.stored, ?_⟩
    have hspent := h.spent
    omega
  | passed _ _ => exact hexamined
  | missed hother hnode =>
    have hstored := hs.other_stored hv he hother
    rw [hnode] at hstored
    cases hstored
  | @reached other n _ _ hother hnew hnode =>
    rw [hv.node?] at hnode
    obtain rfl : n.id = other := hs.id_of_node hnode
    exact hexamined.reach (path.endId?_append e n) hnew (Option.isSome_of_eq_some hnode)

/-- Following edges at the end of a path takes them from what is left. -/
theorem Affords.foldl_follow (hv : v.Shows s) (hs : s.WellFormed) {path : Path} {tail : NodeId}
    (es : List Edge) (hes : ∀ e ∈ es, e ∈ v.edgesToward tail hop.direction)
    (h : search.Affords s hop.direction (es.length + rest)) :
    (es.foldl (Search.follow v hop limit report path tail) search).Affords s hop.direction rest := by
  induction es generalizing search with
  | nil => simpa using h
  | cons e es ih =>
    have hlength : (e :: es).length + rest = es.length + rest + 1 := by
      rw [List.length_cons]
      omega
    rw [hlength] at h
    have hfollow : (search.follow v hop limit report path tail e).Affords s hop.direction
        (es.length + rest) := h.follow hv hs (hes e List.mem_cons_self)
    exact ih (fun e he => hes e (List.mem_cons_of_mem _ he)) hfollow

/-- Extending paths takes the edges at their ends from what is left. -/
theorem Affords.foldl_extend (hv : v.Shows s) (hs : s.WellFormed) (paths : List Path)
    (h : search.Affords s hop.direction (s.totalDegree hop.direction (ends paths) + rest)) :
    (paths.foldl (Search.extend v hop limit report) search).Affords s hop.direction rest := by
  induction paths generalizing search with
  | nil => simpa [ends, Store.totalDegree] using h
  | cons path paths ih =>
    apply ih
    unfold Search.extend
    cases htail : path.end? with
    | none =>
      have hends : ends (path :: paths) = ends paths := by
        unfold ends Path.endId?
        rw [List.filterMap_cons, htail]
        rfl
      rwa [hends] at h
    | some tail =>
      have hends : ends (path :: paths) = tail.id :: ends paths := by
        unfold ends Path.endId?
        rw [List.filterMap_cons, htail]
        rfl
      rw [hends, Store.totalDegree_cons, Nat.add_assoc, ← hs.length_edgesToward hv] at h
      exact h.foldl_follow hv hs _ fun e he => he

/-- **Run of a search**: it looks at no more edges than there are at all nodes. -/
theorem Affords.run (hv : v.Shows s) (hs : s.WellFormed) (hops depth : Nat) {frontier : List Path}
    (h : ({ search with next := [] } : Search).Affords s hop.direction
      (s.totalDegree hop.direction (ends frontier))) :
    (Search.run v hop limit min hops depth frontier search).examined
      ≤ s.totalDegree hop.direction (s.allNodes.map Node.id) := by
  induction hops generalizing depth frontier search with
  | zero => exact h.examined_le hs
  | succ hops ih =>
    unfold Search.run
    dsimp only
    set search' :=
      frontier.foldl (Search.extend v hop limit (min ≤ depth)) { search with next := [] }
    have hstep : search'.Affords s hop.direction 0 := Affords.foldl_extend hv hs frontier h
    split_ifs
    · exact hstep.examined_le hs
    · -- the paths for the next hop become what is left to look at
      apply ih
      refine ⟨hstep.nodup, hstep.stored, ?_⟩
      have hspent := hstep.spent
      have hnil : s.totalDegree hop.direction (ends []) = 0 := rfl
      dsimp only
      omega

end Search

/-! ### The number of hops -/

namespace GraphView

variable {v : GraphView} {s : Store} {hop : RelationshipPattern} {a b : NodeId} {d : Nat}

/-- A walk from a stored node leads to stored nodes. -/
theorem Walk.stored (hv : v.Shows s) (hs : s.WellFormed) (ha : (s.node? a).isSome)
    (hwalk : v.Walk hop a d b) : (s.node? b).isSome := by
  cases hwalk with
  | refl => exact ha
  | step _ hlink =>
    obtain ⟨e, he, -, hother⟩ := hlink
    have hstored := hs.other_stored hv he hother
    rwa [hv.node?] at hstored

/-- As many nodes as a node is away, and one more, are within its distance. -/
theorem IsDistance.nodes (h : v.IsDistance hop a d b) :
    ∃ ids : List NodeId, ids.Nodup ∧ ids.length = d + 1 ∧ ∀ id ∈ ids, v.Within hop a d id := by
  induction d generalizing b with
  | zero =>
    have hnear : v.Within hop a 0 b := ⟨0, Nat.le_refl 0, h.walk⟩
    exact ⟨[b], List.nodup_singleton b, rfl, List.forall_mem_singleton.mpr hnear⟩
  | succ d ih =>
    obtain ⟨hwithin, hfar⟩ := isDistance_succ.mp h
    obtain ⟨c, hc, -⟩ := (within_succ.mp hwithin).resolve_left hfar
    obtain ⟨ids, hnodup, hlength, hnear⟩ := ih hc
    -- those that are nearer do not have the node among them
    have hnew : b ∉ ids := fun hmem => hfar (hnear b hmem)
    refine ⟨b :: ids, List.nodup_cons.mpr ⟨hnew, hnodup⟩, ?_, ?_⟩
    · rw [List.length_cons, hlength]
    · exact List.forall_mem_cons.mpr ⟨hwithin, fun id hid => (hnear id hid).mono (Nat.le_succ d)⟩

/-- No node is as far away as there are nodes. -/
theorem IsDistance.lt_size (hv : v.Shows s) (hs : s.WellFormed) (ha : (s.node? a).isSome)
    (h : v.IsDistance hop a d b) : d < s.allNodes.length := by
  obtain ⟨ids, hnodup, hlength, hnear⟩ := h.nodes
  have hstored : ∀ id ∈ ids, (s.node? id).isSome := by
    intro id hid
    obtain ⟨d', -, hwalk⟩ := hnear id hid
    exact hwalk.stored hv hs ha
  have hle : ids.length ≤ (s.allNodes.map Node.id).length :=
    (hs.subperm_allNodes hnodup hstored).length_le
  rw [hlength, List.length_map] at hle
  exact hle

end GraphView

namespace Search

variable {v : GraphView} {s : Store} {hop : RelationshipPattern} {limit min : Nat}
  {search : Search}

/-- From paths without ends a search goes nowhere. -/
theorem run_of_ends_eq_nil (hops depth : Nat) {frontier : List Path} (hends : ends frontier = []) :
    Search.run v hop limit min hops depth frontier search = search.expansion := by
  cases hops with
  | zero => rfl
  | succ hops =>
    have hfold : frontier.foldl (Search.extend v hop limit (min ≤ depth)) { search with next := [] }
        = { search with next := [] } := by
      refine List.foldlRecOn (motive := (· = { search with next := [] })) _ _ rfl ?_
      intro search' hsearch' path hpath
      have hend : path.endId? = none := List.filterMap_eq_nil_iff.mp hends path hpath
      unfold Search.extend
      rw [Option.map_eq_none_iff.mp hend]
      exact hsearch'
    unfold Search.run
    rw [hfold]
    dsimp only
    rw [if_pos (by rw [List.isEmpty_nil, Bool.or_true])]

/-- **Run of a search**: after as many hops as there are nodes it has come to its end. -/
theorem Layered.run_of_size_le (hv : v.Shows s) (hs : s.WellFormed) {start : NodeId}
    (hstart : (s.node? start).isSome) (hops : Nat) {k : Nat} {frontier : List Path}
    (h : search.Layered v hop start min k frontier) (limit : Nat)
    (hsize : s.allNodes.length ≤ k + hops) :
    Search.run v hop limit min hops (k + 1) frontier search
      = Search.run v hop limit min (s.allNodes.length - k) (k + 1) frontier search := by
  induction hops generalizing k frontier search with
  | zero =>
    have hrest : s.allNodes.length - k = 0 := by omega
    rw [hrest]
  | succ hops ih =>
    by_cases hmore : k < s.allNodes.length
    · have hrest : s.allNodes.length - k = s.allNodes.length - (k + 1) + 1 := by omega
      rw [hrest]
      obtain ⟨-, hlayered⟩ := h.advance hv hs limit
      unfold Search.run
      dsimp only
      set search' := frontier.foldl (Search.extend v hop limit (min ≤ k + 1)) { search with next := [] }
      split_ifs with hdone
      · rfl
      · rw [Bool.or_eq_true, not_or, Bool.not_eq_true] at hdone
        exact ih (hlayered hdone.1) (by omega)
    · -- no node is that far away, and so there is no path to go on from
      have hends : ends frontier = [] := by
        rw [List.eq_nil_iff_forall_not_mem]
        intro id hid
        exact hmore (((h.frontier id).mp hid).lt_size hv hs hstart)
      rw [run_of_ends_eq_nil _ _ hends, run_of_ends_eq_nil _ _ hends]

end Search

/-! ### Expansions -/

namespace GraphView

variable {v : GraphView} {s : Store} {hop : RelationshipPattern} {start : Node}
  {min max limit : Nat}

/-- **The edges that an expansion looks at** are no more than there are to follow from all nodes. -/
theorem Shows.examined_expand_le (hv : v.Shows s) (hs : s.WellFormed)
    (hstart : (s.node? start.id).isSome) :
    (v.expand start hop min max limit).examined
      ≤ s.totalDegree hop.direction (s.allNodes.map Node.id) := by
  refine Search.Affords.run hv hs max 1 ⟨List.nodup_singleton _, ?_, ?_⟩
  · intro id hid
    rw [List.mem_singleton.mp hid]
    exact hstart
  · have hends : Search.ends [Path.single start] = [start.id] := rfl
    have hnil : s.totalDegree hop.direction (Search.ends []) = 0 := rfl
    rw [hends]
    dsimp only
    omega

/-- **The hops of an expansion** are no more than there are nodes, however many it may make. -/
theorem Shows.expand_of_size_le (hv : v.Shows s) (hs : s.WellFormed)
    (hstart : (s.node? start.id).isSome) (hsize : s.allNodes.length ≤ max) :
    v.expand start hop min max limit = v.expand start hop min s.allNodes.length limit := by
  have hlayered := Search.layered_start v hop start min
  exact hlayered.run_of_size_le hv hs hstart max limit (by rwa [Nat.zero_add])

end GraphView

end PropertyGraph
