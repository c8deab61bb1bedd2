import Mathlib.Data.List.Perm.Subperm
import PropertyGraph.Proofs.Pattern.Expansion
import PropertyGraph.Proofs.Store.Scans

/-!
# Distances

`GraphView.IsDistance` says how many accepted edges the shortest walk from one node to another has,
without reference to a search.  An expansion ends only at nodes whose distance from its start lies
within its range, and at all of these if it finds fewer paths than it is limited to
(`Shows.expand_ends`).

So what an expansion reaches does not depend on the order in which edges are listed.  If one does not
come up to its limit then neither does one over the same links listed in another order, and both end
at the same nodes (`expand_perm`).

The search goes hop by hop.  Before each hop it has reached the nodes within so many hops and goes on
from those at just this distance (`Search.Layered`); in the course of a hop it has reached some more
nodes, one hop further away (`Search.Reaching`).
-/

namespace PropertyGraph

variable {ρ : Type} [RegexEngine ρ]

namespace GraphView

variable {v : GraphView} {hop : RelationshipPattern} {a b c : NodeId} {d k : Nat}

/-! ### Walks -/

/-- An accepted edge leads from the one node to the other. -/
def Links (v : GraphView) (hop : RelationshipPattern) (a b : NodeId) : Prop :=
  ∃ e ∈ v.edgesToward a hop.direction, hop.accepts e ∧ e.otherNode? a = some b

/-- A number of accepted edges lead one after the other from the one node to the other. -/
inductive Walk (v : GraphView) (hop : RelationshipPattern) (a : NodeId) : Nat → NodeId → Prop where
  | refl : Walk v hop a 0 a
  | step {d : Nat} {b c : NodeId} : Walk v hop a d b → v.Links hop b c → Walk v hop a (d + 1) c

/-- A shortest walk from the one node to the other has the number of edges. -/
structure IsDistance (v : GraphView) (hop : RelationshipPattern) (a : NodeId) (d : Nat)
    (b : NodeId) : Prop where
  walk : v.Walk hop a d b
  shortest : ∀ d', v.Walk hop a d' b → d ≤ d'

/-- The node can be reached by at most so many edges. -/
def Within (v : GraphView) (hop : RelationshipPattern) (a : NodeId) (k : Nat) (b : NodeId) : Prop :=
  ∃ d ≤ k, v.Walk hop a d b

/-- The distance of the node lies within a range. -/
def InRange (v : GraphView) (hop : RelationshipPattern) (a : NodeId) (min max : Nat) (b : NodeId) :
    Prop :=
  ∃ d, min ≤ d ∧ d ≤ max ∧ v.IsDistance hop a d b

theorem within_zero : v.Within hop a 0 b ↔ b = a := by
  constructor
  · rintro ⟨d, hd, hwalk⟩
    obtain rfl := Nat.le_zero.mp hd
    cases hwalk
    rfl
  · rintro rfl
    exact ⟨0, Nat.le_refl 0, .refl⟩

theorem Within.mono {k' : Nat} (h : v.Within hop a k b) (hle : k ≤ k') : v.Within hop a k' b := by
  obtain ⟨d, hd, hwalk⟩ := h
  exact ⟨d, Nat.le_trans hd hle, hwalk⟩

theorem Within.link (h : v.Within hop a k b) (hlink : v.Links hop b c) :
    v.Within hop a (k + 1) c := by
  obtain ⟨d, hd, hwalk⟩ := h
  exact ⟨d + 1, Nat.succ_le_succ hd, hwalk.step hlink⟩

/-- A node is at a distance if it is within it but not within less. -/
theorem isDistance_succ :
    v.IsDistance hop a (k + 1) b ↔ v.Within hop a (k + 1) b ∧ ¬ v.Within hop a k b := by
  constructor
  · intro h
    refine ⟨⟨k + 1, Nat.le_refl _, h.walk⟩, fun ⟨d, hd, hwalk⟩ => ?_⟩
    have hle : k + 1 ≤ d := h.shortest d hwalk
    omega
  · rintro ⟨⟨d, hd, hwalk⟩, hfar⟩
    have hlonger : ∀ d', v.Walk hop a d' b → k + 1 ≤ d' := by
      intro d' hwalk'
      by_contra hless
      exact hfar ⟨d', by omega, hwalk'⟩
    obtain rfl : d = k + 1 := Nat.le_antisymm hd (hlonger d hwalk)
    exact ⟨hwalk, hlonger⟩

theorem isDistance_zero : v.IsDistance hop a 0 b ↔ b = a := by
  constructor
  · intro h
    exact within_zero.mp ⟨0, Nat.le_refl 0, h.walk⟩
  · rintro rfl
    exact ⟨.refl, fun d' _ => Nat.zero_le d'⟩

/-- What is one hop further away is linked from a node at the distance. -/
theorem within_succ :
    v.Within hop a (k + 1) c ↔
      v.Within hop a k c ∨ ∃ b, v.IsDistance hop a k b ∧ v.Links hop b c := by
  constructor
  · rintro ⟨d, hd, hwalk⟩
    by_cases hnear : v.Within hop a k c
    · exact Or.inl hnear
    · cases hwalk with
      | refl => exact absurd ⟨0, Nat.zero_le k, .refl⟩ hnear
      | @step d b _ hwalk hlink =>
        refine Or.inr ⟨b, ⟨?_, fun d' hwalk' => ?_⟩, hlink⟩
        · -- a shorter walk to the last node but one would bring the last one near
          have hlength : d = k := by
            by_contra hne
            exact hnear ⟨d + 1, by omega, hwalk.step hlink⟩
          exact hlength ▸ hwalk
        · by_contra hless
          exact hnear ⟨d' + 1, by omega, hwalk'.step hlink⟩
  · rintro (hnear | ⟨b, hb, hlink⟩)
    · exact hnear.mono (Nat.le_succ k)
    · exact Within.link ⟨k, Nat.le_refl k, hb.walk⟩ hlink

/-- On the way to a node there is one at every smaller distance. -/
theorem IsDistance.passes (h : v.IsDistance hop a d b) (hle : k ≤ d) :
    ∃ c, v.IsDistance hop a k c := by
  induction d generalizing b with
  | zero =>
    obtain rfl := Nat.le_zero.mp hle
    exact ⟨b, h⟩
  | succ d ih =>
    by_cases heq : k = d + 1
    · exact ⟨b, heq ▸ h⟩
    · obtain ⟨hwithin, hfar⟩ := isDistance_succ.mp h
      obtain ⟨c, hc, -⟩ := (within_succ.mp hwithin).resolve_left hfar
      exact ih hc (by omega)

theorem InRange.mono {min max max' : Nat} (h : v.InRange hop a min max b) (hle : max ≤ max') :
    v.InRange hop a min max' b := by
  obtain ⟨d, hmin, hmax, hd⟩ := h
  exact ⟨d, hmin, Nat.le_trans hmax hle, hd⟩

theorem inRange_zero {min : Nat} : v.InRange hop a min 0 b ↔ min = 0 ∧ b = a := by
  constructor
  · rintro ⟨d, hmin, hmax, hd⟩
    obtain rfl := Nat.le_zero.mp hmax
    exact ⟨Nat.le_zero.mp hmin, isDistance_zero.mp hd⟩
  · rintro ⟨rfl, rfl⟩
    exact ⟨0, Nat.le_refl 0, Nat.le_refl 0, isDistance_zero.mpr rfl⟩

theorem inRange_succ {min : Nat} :
    v.InRange hop a min (k + 1) b ↔
      v.InRange hop a min k b ∨ min ≤ k + 1 ∧ v.IsDistance hop a (k + 1) b := by
  constructor
  · rintro ⟨d, hmin, hmax, hd⟩
    rcases Nat.le_succ_iff.mp hmax with hle | rfl
    · exact Or.inl ⟨d, hmin, hle, hd⟩
    · exact Or.inr ⟨hmin, hd⟩
  · rintro (h | ⟨hmin, hd⟩)
    · exact h.mono (Nat.le_succ k)
    · exact ⟨k + 1, hmin, Nat.le_refl _, hd⟩

/-- Where no node is at a distance the range ends before it. -/
theorem InRange.of_empty {min max : Nat} (h : v.InRange hop a min max b)
    (hempty : ∀ c, ¬ v.IsDistance hop a k c) : v.InRange hop a min k b := by
  obtain ⟨d, hmin, -, hd⟩ := h
  have hless : d ≤ k := by
    by_contra hmore
    obtain ⟨c, hc⟩ := hd.passes (Nat.le_of_not_le hmore)
    exact hempty c hc
  exact ⟨d, hmin, hless, hd⟩

/-- Distances depend on the links alone. -/
theorem Walk.congr {v' : GraphView} (hlinks : ∀ b c, v.Links hop b c → v'.Links hop b c)
    (h : v.Walk hop a d b) : v'.Walk hop a d b := by
  induction h with
  | refl => exact .refl
  | step _ hlink ih => exact ih.step (hlinks _ _ hlink)

theorem InRange.congr {v' : GraphView} {min max : Nat}
    (hlinks : ∀ b c, v.Links hop b c ↔ v'.Links hop b c) (h : v.InRange hop a min max b) :
    v'.InRange hop a min max b := by
  obtain ⟨d, hmin, hmax, hd⟩ := h
  refine ⟨d, hmin, hmax, hd.walk.congr fun b c => (hlinks b c).mp, fun d' hwalk => ?_⟩
  exact hd.shortest d' (hwalk.congr fun b c => (hlinks b c).mpr)

end GraphView

/-! ### One hop -/

namespace Search

variable {v : GraphView} {s : Store} {hop : RelationshipPattern} {limit min k : Nat} {start : NodeId}
  {search search' : Search}

/-- The nodes at which paths end. -/
def ends (paths : List Path) : List NodeId := paths.filterMap Path.endId?

theorem mem_ends_append {paths : List Path} {p : Path} {id other : NodeId}
    (hp : p.endId? = some other) : id ∈ ends (paths ++ [p]) ↔ id ∈ ends paths ∨ id = other := by
  unfold ends
  rw [List.filterMap_append, List.mem_append]
  refine or_congr_right ?_
  rw [List.filterMap_cons_some hp, List.filterMap_nil, List.mem_singleton]

/-- What a search has reached before a hop: the nodes within `k` hops.  It goes on from those at the
distance `k`. -/
structure Layered (v : GraphView) (hop : RelationshipPattern) (start : NodeId) (min k : Nat)
    (frontier : List Path) (search : Search) : Prop where
  visited : ∀ id, id ∈ search.visited ↔ v.Within hop start k id
  frontier : ∀ id, id ∈ ends frontier ↔ v.IsDistance hop start k id
  found : ∀ id, id ∈ ends search.expansion.paths ↔ v.InRange hop start min k id
  open_ : search.isFull = false

/-- What a search has reached in the course of a hop: beside the nodes within `k` hops some that are
one hop further away. -/
structure Reaching (v : GraphView) (hop : RelationshipPattern) (start : NodeId) (limit min k : Nat)
    (search : Search) : Prop where
  near : ∀ id, v.Within hop start k id → id ∈ search.visited
  visited : ∀ id ∈ search.visited, v.Within hop start (k + 1) id
  next : ∀ id, id ∈ ends search.next ↔ id ∈ search.visited ∧ ¬ v.Within hop start k id
  found : ∀ id, id ∈ ends search.expansion.paths ↔
    v.InRange hop start min k id ∨
      min ≤ k + 1 ∧ id ∈ search.visited ∧ ¬ v.Within hop start k id
  full : search.isFull = true → limit ≤ search.expansion.paths.length

/-- The second search has gone on from the first one, and what was asked of it is reached if it is not
full. -/
structure Continues (search : Search) (asked : NodeId → Prop) (search' : Search) : Prop where
  visited : ∀ id ∈ search.visited, id ∈ search'.visited
  asked : search'.isFull = false → ∀ id, asked id → id ∈ search'.visited
  open_ : search'.isFull = false → search.isFull = false

theorem Continues.foldl {α : Type} {P : Search → Prop} (xs : List α) (step : Search → α → Search)
    (asked : α → NodeId → Prop)
    (hstep : ∀ x ∈ xs, ∀ search, P search → P (step search x) ∧
      search.Continues (asked x) (step search x)) (h : P search) :
    P (xs.foldl step search) ∧
      search.Continues (fun id => ∃ x ∈ xs, asked x id) (xs.foldl step search) := by
  induction xs generalizing search with
  | nil => exact ⟨h, fun _ hid => hid, fun _ _ ⟨_, hx, _⟩ => (List.not_mem_nil hx).elim, id⟩
  | cons x rest ih =>
    obtain ⟨hx, hfirst⟩ := hstep x List.mem_cons_self search h
    obtain ⟨hend, hrest⟩ := ih (fun y hy => hstep y (List.mem_cons_of_mem x hy)) hx
    refine ⟨hend, fun id hid => hrest.visited id (hfirst.visited id hid), fun hopen id hasked => ?_,
      fun hopen => hfirst.open_ (hrest.open_ hopen)⟩
    obtain ⟨y, hy, hid⟩ := hasked
    rcases List.mem_cons.mp hy with rfl | hy
    · exact hrest.visited id (hfirst.asked (hrest.open_ hopen) id hid)
    · exact hrest.asked hopen id ⟨y, hy, hid⟩

/-- A search starts a hop with no new nodes. -/
theorem Layered.reaching {frontier : List Path} (h : search.Layered v hop start min k frontier)
    (limit : Nat) :
    ({ search with next := [] } : Search).Reaching v hop start limit min k where
  near id hid := (h.visited id).mpr hid
  visited id hid := ((h.visited id).mp hid).mono (Nat.le_succ k)
  next id := ⟨fun hid => (List.not_mem_nil hid).elim, fun hid => absurd ((h.visited id).mp hid.1) hid.2⟩
  found id := (h.found id).trans
    ⟨Or.inl, fun hid => hid.resolve_right fun hnew => hnew.2.2 ((h.visited id).mp hnew.2.1)⟩
  full hfull := by
    have hopen : search.isFull = false := h.open_
    rw [show search.isFull = true from hfull] at hopen
    cases hopen

theorem Reaching.examine (h : search.Reaching v hop start limit min k) :
    search.examine.Reaching v hop start limit min k := ⟨h.near, h.visited, h.next, h.found, h.full⟩

theorem visited_reach (limit : Nat) (report : Bool) (p : Path) (search : Search) :
    (search.reach limit report p).visited = search.visited := by
  unfold Search.reach
  split <;> rfl

/-- Reaching a node for the first time, one hop further away. -/
theorem Reaching.reach (h : search.Reaching v hop start limit min k) {p : Path} {id : NodeId}
    (hend : p.endId? = some id) (hnew : id ∉ search.visited)
    (hwithin : v.Within hop start (k + 1) id) :
    (({ search with visited := id :: search.visited } : Search).reach limit (min ≤ k + 1) p).Reaching
      v hop start limit min k := by
  have hfar : ¬ v.Within hop start k id := fun hnear => hnew (h.near id hnear)
  have hnear : ∀ other, v.Within hop start k other → other ∈ id :: search.visited :=
    fun other hother => List.mem_cons_of_mem _ (h.near other hother)
  have hvisited : ∀ other ∈ id :: search.visited, v.Within hop start (k + 1) other :=
    List.forall_mem_cons.mpr ⟨hwithin, h.visited⟩
  have hadded : ∀ other, (other ∈ id :: search.visited ∧ ¬ v.Within hop start k other) ↔
      (other ∈ search.visited ∧ ¬ v.Within hop start k other) ∨ other = id := by
    intro other
    rw [List.mem_cons]
    constructor
    · rintro ⟨rfl | hother, hfar⟩
      · exact Or.inr rfl
      · exact Or.inl ⟨hother, hfar⟩
    · rintro (⟨hother, hfar⟩ | rfl)
      · exact ⟨Or.inr hother, hfar⟩
      · exact ⟨Or.inl rfl, hfar⟩
  have hnext : ∀ other, other ∈ ends (search.next ++ [p]) ↔
      other ∈ id :: search.visited ∧ ¬ v.Within hop start k other := by
    intro other
    rw [mem_ends_append hend, h.next, hadded]
  unfold Search.reach
  by_cases hreport : min ≤ k + 1
  · rw [if_pos (decide_eq_true hreport)]
    refine ⟨hnear, hvisited, hnext, fun other => ?_, of_decide_eq_true⟩
    rw [mem_ends_append hend, h.found, hadded, or_assoc, and_or_left]
    simp only [hreport, true_and]
  · rw [if_neg (by simpa using hreport)]
    refine ⟨hnear, hvisited, hnext, fun other => (h.found other).trans ?_, h.full⟩
    simp only [hreport, false_and]

/-- Following an edge reaches the node that it leads to, unless the search is full. -/
theorem Reaching.follow (hv : v.Shows s) (hs : s.WellFormed)
    (h : search.Reaching v hop start limit min k) (path : Path) {tail : NodeId}
    (htail : v.IsDistance hop start k tail) {e : Edge}
    (he : e ∈ v.edgesToward tail hop.direction) :
    (search.follow v hop limit (min ≤ k + 1) path tail e).Reaching v hop start limit min k ∧
      search.Continues (fun id => hop.accepts e ∧ e.otherNode? tail = some id)
        (search.follow v hop limit (min ≤ k + 1) path tail e) := by
  have houtcome := outcome_follow v hop limit (min ≤ k + 1) path tail search e
  generalize search.follow v hop limit (min ≤ k + 1) path tail e = next at houtcome ⊢
  cases houtcome with
  | full hfull =>
    refine ⟨h, fun _ hid => hid, fun hopen => ?_, id⟩
    rw [hfull] at hopen
    cases hopen
  | passed hopen hknown =>
    exact ⟨h.examine, fun _ hid => hid, fun _ id hid => hknown hid.1 id hid.2, fun _ => hopen⟩
  | missed hother hnode =>
    -- both nodes of an edge that is listed are stored
    have hstored := hs.other_stored hv he hother
    rw [hnode] at hstored
    cases hstored
  | @reached other n hopen haccepts hother hnew hnode =>
    obtain rfl : n.id = other := hs.id_of_node (hv.node? ▸ hnode)
    have hlink : v.Links hop tail n.id := ⟨e, he, haccepts, hother⟩
    have hwithin : v.Within hop start (k + 1) n.id :=
      GraphView.Within.link ⟨k, Nat.le_refl k, htail.walk⟩ hlink
    have hreached := h.examine.reach (path.endId?_append e n) hnew hwithin
    refine ⟨hreached, fun id hid => ?_, fun _ id hid => ?_, fun _ => hopen⟩
    · rw [visited_reach]
      exact List.mem_cons_of_mem _ hid
    · obtain rfl := Option.some.inj (hother.symm.trans hid.2)
      rw [visited_reach]
      exact List.mem_cons_self

/-- Extending a path reaches what is linked from its end. -/
theorem Reaching.extend (hv : v.Shows s) (hs : s.WellFormed)
    (h : search.Reaching v hop start limit min k) {path : Path}
    (hpath : ∀ tail, path.endId? = some tail → v.IsDistance hop start k tail) :
    (search.extend v hop limit (min ≤ k + 1) path).Reaching v hop start limit min k ∧
      search.Continues (fun id => ∃ tail, path.endId? = some tail ∧ v.Links hop tail id)
        (search.extend v hop limit (min ≤ k + 1) path) := by
  unfold Search.extend
  cases htail : path.end? with
  | none =>
    refine ⟨h, fun _ hid => hid, fun _ id hid => ?_, fun hopen => hopen⟩
    obtain ⟨tail, hend, -⟩ := hid
    unfold Path.endId? at hend
    rw [htail] at hend
    cases hend
  | some tail =>
    have hend : path.endId? = some tail.id := congrArg (Option.map Node.id) htail
    obtain ⟨hreaching, hcontinues⟩ := Continues.foldl
      (P := fun search => search.Reaching v hop start limit min k)
      (v.edgesToward tail.id hop.direction) (Search.follow v hop limit (min ≤ k + 1) path tail.id)
      (fun e id => hop.accepts e ∧ e.otherNode? tail.id = some id)
      (fun e he search hsearch => hsearch.follow hv hs path (hpath tail.id hend) he) h
    refine ⟨hreaching, hcontinues.visited, fun hopen id hid => ?_, hcontinues.open_⟩
    obtain ⟨tail', hend', e, he, haccepts, hother⟩ := hid
    obtain rfl := Option.some.inj (hend.symm.trans hend')
    exact hcontinues.asked hopen id ⟨e, he, haccepts, hother⟩

/-- **Step of a search**: a hop that does not fill the search reaches all nodes one hop further away. -/
theorem Layered.advance (hv : v.Shows s) (hs : s.WellFormed) {frontier : List Path}
    (h : search.Layered v hop start min k frontier) (limit : Nat) :
    let search' := frontier.foldl (Search.extend v hop limit (min ≤ k + 1)) { search with next := [] }
    search'.Reaching v hop start limit min k ∧
      (search'.isFull = false → search'.Layered v hop start min (k + 1) search'.next) := by
  intro search'
  have hdistance : ∀ p ∈ frontier, ∀ tail, p.endId? = some tail → v.IsDistance hop start k tail :=
    fun p hp tail htail => (h.frontier tail).mp (List.mem_filterMap.mpr ⟨p, hp, htail⟩)
  obtain ⟨hreaching, hcontinues⟩ := Continues.foldl
    (P := fun search => search.Reaching v hop start limit min k)
    frontier (Search.extend v hop limit (min ≤ k + 1))
    (fun p id => ∃ tail, p.endId? = some tail ∧ v.Links hop tail id)
    (fun p hp search hsearch => hsearch.extend hv hs (hdistance p hp)) (h.reaching limit)
  refine ⟨hreaching, fun hopen => ?_⟩
  have hvisited : ∀ id, id ∈ search'.visited ↔ v.Within hop start (k + 1) id := by
    refine fun id => ⟨hreaching.visited id, fun hid => ?_⟩
    rcases GraphView.within_succ.mp hid with hnear | ⟨tail, htail, hlink⟩
    · exact hreaching.near id hnear
    · obtain ⟨p, hp, hend⟩ := List.mem_filterMap.mp ((h.frontier tail).mpr htail)
      exact hcontinues.asked hopen id ⟨p, hp, tail, hend, hlink⟩
  have hnew : ∀ id, (id ∈ search'.visited ∧ ¬ v.Within hop start k id) ↔
      v.IsDistance hop start (k + 1) id := by
    intro id
    rw [hvisited, GraphView.isDistance_succ]
  refine ⟨hvisited, fun id => (hreaching.next id).trans (hnew id), fun id => ?_, hopen⟩
  rw [hreaching.found, hnew, GraphView.inRange_succ]

/-! ### All hops -/

/-- **Run of a search**: it ends at nodes in its range only, and at all of them if it finds fewer paths
than it is limited to. -/
theorem Layered.run (hv : v.Shows s) (hs : s.WellFormed) (hops : Nat) {frontier : List Path}
    (h : search.Layered v hop start min k frontier) (limit : Nat) :
    let found := (Search.run v hop limit min hops (k + 1) frontier search).paths
    (∀ id ∈ ends found, v.InRange hop start min (k + hops) id) ∧
      (found.length < limit → ∀ id, v.InRange hop start min (k + hops) id → id ∈ ends found) := by
  induction hops generalizing k frontier search with
  | zero => exact ⟨fun id hid => (h.found id).mp hid, fun _ id hid => (h.found id).mpr hid⟩
  | succ hops ih =>
    obtain ⟨hreaching, hlayered⟩ := h.advance hv hs limit
    unfold Search.run
    dsimp only
    set search' := frontier.foldl (Search.extend v hop limit (min ≤ k + 1)) { search with next := [] }
    by_cases hfull : search'.isFull
    · -- the search breaks off, having found as many paths as it may
      rw [if_pos (by rw [hfull, Bool.true_or])]
      refine ⟨fun id hid => ?_, fun hless => ?_⟩
      · have hrange : v.InRange hop start min (k + 1) id := by
          rcases (hreaching.found id).mp hid with hold | ⟨hmin, hvisited, hfar⟩
          · exact hold.mono (Nat.le_succ k)
          · exact GraphView.inRange_succ.mpr (Or.inr ⟨hmin,
              GraphView.isDistance_succ.mpr ⟨hreaching.visited id hvisited, hfar⟩⟩)
        exact hrange.mono (by omega)
      · exact absurd (hreaching.full hfull) (Nat.not_le_of_lt hless)
    · rw [Bool.not_eq_true] at hfull
      have hnext := hlayered hfull
      by_cases hempty : search'.next = []
      · -- no node is one hop further away, and so none is any further
        rw [if_pos (by rw [hempty, List.isEmpty_nil, Bool.or_true])]
        have hnone : ∀ c, ¬ v.IsDistance hop start (k + 1) c := by
          intro c hc
          have hmem := (hnext.frontier c).mpr hc
          rw [hempty] at hmem
          exact List.not_mem_nil hmem
        refine ⟨fun id hid => ((hnext.found id).mp hid).mono (by omega), fun _ id hid => ?_⟩
        exact (hnext.found id).mpr (hid.of_empty hnone)
      · rw [if_neg (by simpa [hfull] using hempty)]
        have hrest := ih hnext
        rwa [show k + (hops + 1) = k + 1 + hops by omega]

/-- Before the first hop of an expansion its start is reached. -/
theorem layered_start (v : GraphView) (hop : RelationshipPattern) (start : Node) (min : Nat) :
    (Search.mk ⟨if min = 0 then [.single start] else [], 0⟩ [start.id] [] false).Layered
      v hop start.id min 0 [.single start] := by
  have hstart : ∀ id, id ∈ ends [Path.single start] ↔ id = start.id := fun id => List.mem_singleton
  refine ⟨fun id => ?_, fun id => (hstart id).trans GraphView.isDistance_zero.symm, fun id => ?_, rfl⟩
  · rw [GraphView.within_zero]
    exact List.mem_singleton
  · rw [GraphView.inRange_zero]
    dsimp only
    split_ifs with hmin
    · rw [hstart, and_iff_right hmin]
    · exact ⟨fun hid => (List.not_mem_nil hid).elim, fun hid => absurd hid.1 hmin⟩

end Search

/-! ### Expansions -/

namespace GraphView

variable {v v' : GraphView} {s s' : Store} {hop : RelationshipPattern} {start : Node}
  {min max limit : Nat}

/-- **What an expansion reaches.**  It ends at nodes whose distance from the start is in its range
only, and at all of these if it finds fewer paths than it is limited to. -/
theorem Shows.expand_ends (hv : v.Shows s) (hs : s.WellFormed) (start : Node)
    (hop : RelationshipPattern) (min max limit : Nat) :
    let found := (v.expand start hop min max limit).paths
    (∀ id ∈ Search.ends found, v.InRange hop start.id min max id) ∧
      (found.length < limit → ∀ id, v.InRange hop start.id min max id → id ∈ Search.ends found) := by
  have hrun := (Search.layered_start v hop start min).run hv hs max limit
  simp only [Nat.zero_add] at hrun
  exact hrun

/-- The paths of an expansion end at different nodes. -/
theorem Shows.nodup_ends (hv : v.Shows s) (hs : s.WellFormed) (start : Node)
    (hop : RelationshipPattern) (min max limit : Nat) :
    (Search.ends (v.expand start hop min max limit).paths).Nodup ∧
      (Search.ends (v.expand start hop min max limit).paths).length
        = (v.expand start hop min max limit).paths.length := by
  have hkeeps : hop.Keeps v fun _ => True := fun _ _ _ _ _ _ _ _ _ _ _ => trivial
  obtain ⟨hends, hnodup⟩ := hv.expand_found hs hkeeps (show True from trivial) min max limit
  have hmap : (Search.ends (v.expand start hop min max limit).paths).map some
      = (v.expand start hop min max limit).paths.map Path.endId? := by
    unfold Search.ends
    rw [List.map_filterMap, ← List.filterMap_eq_map]
    refine List.filterMap_congr fun p hp => ?_
    obtain ⟨id, hid⟩ := Option.isSome_iff_exists.mp (hends p hp).2
    simp only [Function.comp_apply, hid, Option.map_some]
  refine ⟨List.Nodup.of_map some (hmap ▸ hnodup), ?_⟩
  have hlength := congrArg List.length hmap
  rwa [List.length_map, List.length_map] at hlength

/-- **Reaching does not depend on order.**  Let an expansion find fewer paths than it is limited to.
Over the same links, in whatever order, the expansion ends at the same nodes. -/
theorem Shows.expand_perm (hv : v.Shows s) (hs : s.WellFormed) (hv' : v'.Shows s')
    (hs' : s'.WellFormed) (hlinks : ∀ a b, v.Links hop a b ↔ v'.Links hop a b)
    (hlimit : (v.expand start hop min max limit).paths.length < limit) :
    (Search.ends (v'.expand start hop min max limit).paths).Perm
      (Search.ends (v.expand start hop min max limit).paths) := by
  obtain ⟨hsound, hcomplete⟩ := hv.expand_ends hs start hop min max limit
  obtain ⟨hsound', hcomplete'⟩ := hv'.expand_ends hs' start hop min max limit
  obtain ⟨hnodup, hlength⟩ := hv.nodup_ends hs start hop min max limit
  obtain ⟨hnodup', hlength'⟩ := hv'.nodup_ends hs' start hop min max limit
  have hsubset : Search.ends (v'.expand start hop min max limit).paths
      ⊆ Search.ends (v.expand start hop min max limit).paths := fun id hid =>
    hcomplete hlimit id ((hsound' id hid).congr fun a b => (hlinks a b).symm)
  -- the other expansion has no more ends, so it does not come up to the limit either
  have hlimit' : (v'.expand start hop min max limit).paths.length < limit := by
    have hle := (hnodup'.subperm hsubset).length_le
    omega
  rw [List.perm_ext_iff_of_nodup hnodup' hnodup]
  exact fun id => ⟨fun hid => hsubset hid, fun hid =>
    hcomplete' hlimit' id ((hsound id hid).congr hlinks)⟩

end GraphView

end PropertyGraph
