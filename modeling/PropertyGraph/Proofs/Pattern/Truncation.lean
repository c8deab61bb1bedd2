import PropertyGraph.Proofs.Pattern.ShortestPaths

/-!
# The limit of an expansion

The limit of an expansion cuts its paths off and changes nothing else: with a limit it finds the first
of the paths that it finds with a larger one (`GraphView.expand_take`).

The limit is looked at after a path to a new node is added, but not after the start has been added.  An
expansion with a range from zero on therefore does not break off before it has found two paths
(`Search.cutoff`), and for the limit one these are one too many (`Store.expand_beyond_limit`).

The searches with the two limits go through the same states until the one with the smaller limit is full;
from there on the paths of the other only grow (`Search.Truncates`).
-/

namespace PropertyGraph

section AnyEngine

variable {ρ : Type} [RegexEngine ρ]

namespace Search

variable {v : GraphView} {hop : RelationshipPattern} {limit limit' min : Nat} {report : Bool}
  {path : Path} {tail : NodeId} {search small large : Search}

/-! ### Paths are only added -/

theorem paths_reach (limit : Nat) (report : Bool) (p : Path) (search : Search) :
    search.expansion.paths <+: (search.reach limit report p).expansion.paths := by
  unfold Search.reach
  split_ifs
  · exact List.prefix_append _ _
  · exact List.prefix_rfl

theorem paths_follow (v : GraphView) (hop : RelationshipPattern) (limit : Nat) (report : Bool)
    (path : Path) (tail : NodeId) (search : Search) (e : Edge) :
    search.expansion.paths <+: (search.follow v hop limit report path tail e).expansion.paths := by
  have houtcome := outcome_follow v hop limit report path tail search e
  generalize search.follow v hop limit report path tail e = next at houtcome ⊢
  cases houtcome with
  | full _ => exact List.prefix_rfl
  | passed _ _ => exact List.prefix_rfl
  | missed _ _ => exact List.prefix_rfl
  | @reached other n _ _ _ _ _ =>
    exact paths_reach limit report (path.append e n)
      { search.examine with visited := other :: search.visited }

theorem paths_foldl {α : Type} (step : Search → α → Search)
    (hstep : ∀ search x, search.expansion.paths <+: (step search x).expansion.paths) (xs : List α)
    (search : Search) : search.expansion.paths <+: (xs.foldl step search).expansion.paths :=
  List.foldlRecOn (motive := fun later => search.expansion.paths <+: later.expansion.paths) xs step
    List.prefix_rfl fun later hlater x _ => hlater.trans (hstep later x)

theorem paths_extend (v : GraphView) (hop : RelationshipPattern) (limit : Nat) (report : Bool)
    (search : Search) (path : Path) :
    search.expansion.paths <+: (search.extend v hop limit report path).expansion.paths := by
  unfold Search.extend
  cases path.end? with
  | none => exact List.prefix_rfl
  | some tail => exact paths_foldl _ (paths_follow v hop limit report path tail.id) _ search

theorem paths_run (v : GraphView) (hop : RelationshipPattern) (limit min hops depth : Nat)
    (frontier : List Path) (search : Search) :
    search.expansion.paths <+: (Search.run v hop limit min hops depth frontier search).paths := by
  induction hops generalizing depth frontier search with
  | zero => exact List.prefix_rfl
  | succ hops ih =>
    have hstep := paths_foldl _ (paths_extend v hop limit (min ≤ depth)) frontier
      { search with next := [] }
    unfold Search.run
    dsimp only
    split_ifs
    · exact hstep
    · exact hstep.trans (ih (depth + 1) _ _)

/-! ### Two limits -/

/-- The number of paths that a search begins with: the start is found first if the range allows it. -/
def begun (min : Nat) : Nat := if min = 0 then 1 else 0

/-- The number of paths with which a search breaks off: beside those it begins with, one at least. -/
def cutoff (limit min : Nat) : Nat := max limit (begun min + 1)

/-- A search with a smaller limit beside one with a larger limit: it is in the same state and not yet
full, or it is full and has the first paths of the other. -/
inductive Truncates (limit min : Nat) : Search → Search → Prop where
  | same {search : Search} (hopen : search.isFull = false)
      (hbegun : begun min ≤ search.expansion.paths.length)
      (hless : search.expansion.paths.length < cutoff limit min) : Truncates limit min search search
  | full {small large : Search} (hfull : small.isFull = true)
      (hlength : small.expansion.paths.length = cutoff limit min)
      (hfirst : small.expansion.paths <+: large.expansion.paths) : Truncates limit min small large

/-- The search with the smaller limit has found the first paths. -/
theorem Truncates.paths_eq (h : Truncates limit min small large) :
    small.expansion.paths = large.expansion.paths.take (cutoff limit min) := by
  cases h with
  | same _ _ hless => rw [List.take_of_length_le (Nat.le_of_lt hless)]
  | full _ hlength hfirst =>
    rw [← hlength]
    exact List.prefix_iff_eq_take.mp hfirst

/-- A path fills the search with the smaller limit if it is the last one before the cutoff. -/
theorem Truncates.reach (search : Search) (hle : limit ≤ limit') (hopen : search.isFull = false)
    (hbegun : begun min ≤ search.expansion.paths.length)
    (hless : search.expansion.paths.length < cutoff limit min) (report : Bool) (p : Path) :
    Truncates limit min (search.reach limit report p) (search.reach limit' report p) := by
  unfold cutoff at hless
  unfold Search.reach
  cases report with
  | false => exact .same hopen hbegun hless
  | true =>
    have hlength : (search.expansion.paths ++ [p]).length = search.expansion.paths.length + 1 :=
      List.length_append
    simp only [if_true, hlength]
    by_cases hreached : limit ≤ search.expansion.paths.length + 1
    · refine .full (decide_eq_true hreached) ?_ List.prefix_rfl
      unfold cutoff
      rw [hlength]
      omega
    · -- neither limit is reached
      have hreached' : ¬ limit' ≤ search.expansion.paths.length + 1 := by omega
      rw [decide_eq_false hreached, decide_eq_false hreached']
      refine .same rfl ?_ ?_
      · rw [hlength]
        omega
      · unfold cutoff
        rw [hlength]
        omega

theorem Truncates.follow (hle : limit ≤ limit') (h : Truncates limit min small large)
    (report : Bool) (path : Path) (tail : NodeId) (e : Edge) :
    Truncates limit min (small.follow v hop limit report path tail e)
      (large.follow v hop limit' report path tail e) := by
  cases h with
  | full hfull hlength hfirst =>
    have hstays : small.follow v hop limit report path tail e = small := by
      unfold Search.follow
      rw [if_pos hfull]
    rw [hstays]
    exact .full hfull hlength (hfirst.trans (paths_follow v hop limit' report path tail large e))
  | same hopen hbegun hless =>
    have hexamine : Truncates limit min small.examine small.examine :=
      .same hopen hbegun hless
    unfold Search.follow
    rw [hopen]
    simp only [Bool.false_eq_true, if_false]
    split_ifs
    · exact hexamine
    · cases e.otherNode? tail with
      | none => exact hexamine
      | some other =>
        dsimp only
        split_ifs
        · exact hexamine
        · cases v.node? other with
          | none => exact .same hopen hbegun hless
          | some n =>
            exact Truncates.reach { small.examine with visited := other :: small.visited }
              hle hopen hbegun hless report (path.append e n)

theorem Truncates.extend (hle : limit ≤ limit') (h : Truncates limit min small large)
    (report : Bool) (path : Path) :
    Truncates limit min (small.extend v hop limit report path)
      (large.extend v hop limit' report path) := by
  unfold Search.extend
  cases path.end? with
  | none => exact h
  | some tail =>
    exact List.foldl_rel h fun e _ small large hboth => hboth.follow hle report path tail.id e

/-- **Run of a search**: with the smaller limit it finds the first paths. -/
theorem Truncates.run (hle : limit ≤ limit') (hops depth : Nat) (frontier : List Path)
    (hopen : search.isFull = false) (hbegun : begun min ≤ search.expansion.paths.length)
    (hless : search.expansion.paths.length < cutoff limit min) :
    (Search.run v hop limit min hops depth frontier search).paths
      = (Search.run v hop limit' min hops depth frontier search).paths.take (cutoff limit min) := by
  induction hops generalizing depth frontier search with
  | zero => exact (Truncates.same hopen hbegun hless).paths_eq
  | succ hops ih =>
    have hstart : Truncates limit min { search with next := [] } { search with next := [] } :=
      .same hopen hbegun hless
    have hstep : Truncates limit min
        (frontier.foldl (Search.extend v hop limit (min ≤ depth)) { search with next := [] })
        (frontier.foldl (Search.extend v hop limit' (min ≤ depth)) { search with next := [] }) :=
      List.foldl_rel hstart fun path _ small large hboth => hboth.extend hle (min ≤ depth) path
    unfold Search.run
    dsimp only
    generalize frontier.foldl (Search.extend v hop limit (min ≤ depth)) { search with next := [] }
      = small at hstep ⊢
    generalize frontier.foldl (Search.extend v hop limit' (min ≤ depth)) { search with next := [] }
      = large at hstep ⊢
    cases hstep with
    | full hfull hlength hfirst =>
      rw [if_pos (by rw [hfull, Bool.true_or])]
      -- what the other search goes on to find comes behind the first paths
      have hlater : small.expansion.paths <+:
          (if large.isFull || large.next.isEmpty then large.expansion
            else Search.run v hop limit' min hops (depth + 1) large.next large).paths := by
        split_ifs
        · exact hfirst
        · exact hfirst.trans (paths_run v hop limit' min hops (depth + 1) large.next large)
      rw [← hlength]
      exact List.prefix_iff_eq_take.mp hlater
    | same hopen hbegun hless =>
      split_ifs
      · exact (Truncates.same hopen hbegun hless).paths_eq
      · exact ih (depth + 1) _ hopen hbegun hless

end Search

/-! ### Expansions -/

namespace GraphView

/-- **The limit cuts off.**  With a limit an expansion finds the first paths of those that it finds with
a larger one. -/
theorem expand_take (v : GraphView) (start : Node) (hop : RelationshipPattern) (min max : Nat)
    {limit limit' : Nat} (hle : limit ≤ limit') :
    (v.expand start hop min max limit).paths
      = (v.expand start hop min max limit').paths.take (Search.cutoff limit min) := by
  have hbegun : (if min = 0 then [Path.single start] else []).length = Search.begun min := by
    unfold Search.begun
    split_ifs <;> rfl
  refine Search.Truncates.run hle max 1 [.single start] rfl (Nat.le_of_eq hbegun.symm) ?_
  dsimp only
  rw [hbegun]
  exact Nat.lt_of_lt_of_le (Nat.lt_succ_self _) (Nat.le_max_right _ _)

/-- Beside a limit that is not come up to, any other cuts off. -/
theorem expand_cutoff (v : GraphView) (start : Node) (hop : RelationshipPattern) (min max limit : Nat)
    {large : Nat} (hlarge : (v.expand start hop min max large).paths.length < large) :
    (v.expand start hop min max limit).paths
      = (v.expand start hop min max large).paths.take (Search.cutoff limit min) := by
  rcases Nat.le_total limit large with hle | hle
  · exact v.expand_take start hop min max hle
  · -- nothing is cut off at all
    have hcut := v.expand_take start hop min max hle
    have hlimit : large ≤ Search.cutoff large min := Nat.le_max_left _ _
    have hlimit' : limit ≤ Search.cutoff limit min := Nat.le_max_left _ _
    have hlength := congrArg List.length hcut
    rw [List.length_take] at hlength
    rw [List.take_of_length_le (by omega)] at hcut
    rw [List.take_of_length_le (by omega), hcut]

/-- **The paths within a limit.**  They are the first ones of those that are found when no limit is come
up to, as many as the limit says; but if the start is reported then not even the limit one keeps a second
path out. -/
theorem expand_limit (v : GraphView) (start : Node) (hop : RelationshipPattern) (min max limit : Nat)
    (hlimit : 1 ≤ limit) {large : Nat}
    (hlarge : (v.expand start hop min max large).paths.length < large) :
    (v.expand start hop min max limit).paths
      = (v.expand start hop min max large).paths.take (if min = 0 ∧ limit = 1 then 2 else limit) := by
  have hcutoff : Search.cutoff limit min = if min = 0 ∧ limit = 1 then 2 else limit := by
    unfold Search.cutoff Search.begun
    split_ifs <;> omega
  rw [v.expand_cutoff start hop min max limit hlarge, hcutoff]

end GraphView

end AnyEngine

namespace Store

/-- Two nodes of a cycle of three. -/
theorem expand_limit_cycle :
    (cycle.view.expand ⟨"a", [], .empty⟩ {} 0 7 5).paths.length = 3 ∧
      (cycle.view.expand ⟨"a", [], .empty⟩ {} 0 7 2).paths
        = (cycle.view.expand ⟨"a", [], .empty⟩ {} 0 7 5).paths.take 2 := by
  have hlength : (cycle.view.expand ⟨"a", [], .empty⟩ {} 0 7 5).paths.length = 3 := by decide +kernel
  have hlarge : (cycle.view.expand ⟨"a", [], .empty⟩ {} 0 7 5).paths.length < 5 := by
    rw [hlength]
    decide
  exact ⟨hlength, cycle.view.expand_limit ⟨"a", [], .empty⟩ {} 0 7 2 (by decide) hlarge⟩

/-- With the limit one an expansion reports its start and the first node next to it. -/
theorem expand_beyond_limit :
    pair.Reachable ∧ pair.node? "a" = some ⟨"a", ["Person"], .empty⟩ ∧
      (pair.view.expand ⟨"a", ["Person"], .empty⟩ {} 0 1 10).paths.length < 10 ∧
      (pair.view.expand ⟨"a", ["Person"], .empty⟩ {} 0 1 1).paths
        ≠ (pair.view.expand ⟨"a", ["Person"], .empty⟩ {} 0 1 10).paths.take 1 := by
  have hlarge : (pair.view.expand ⟨"a", ["Person"], .empty⟩ {} 0 1 10).paths.length < 10 := by
    decide +kernel
  have htwo : (pair.view.expand ⟨"a", ["Person"], .empty⟩ {} 0 1 1).paths.length = 2 := by
    decide +kernel
  refine ⟨reachable_pair, rfl, hlarge, fun heq => ?_⟩
  have hle : ((pair.view.expand ⟨"a", ["Person"], .empty⟩ {} 0 1 10).paths.take 1).length ≤ 1 :=
    List.length_take_le _ _
  rw [← heq, htwo] at hle
  exact absurd hle (by decide)

end Store

end PropertyGraph
