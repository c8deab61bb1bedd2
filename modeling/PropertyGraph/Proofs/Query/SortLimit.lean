import PropertyGraph.Proofs.Collection.StableSort
import PropertyGraph.Proofs.Query.Optimization

/-!
# Sorts on limits

The third rule of optimization moves a sort below the limits that it meets.  A sort on a limit orders
the rows that come first, while a limit on a sort takes the rows that are first in order, so this rule
may answer with other rows (`sort_limit_differs`).

`PlanTree.lowerSorts` applies this rule alone.  An optimized plan answers as the plan with its sorts
lowered does, whatever the plan (`execute_optimize_lowerSorts`).  It answers as the plan itself does
where no row that a limit cuts off goes before one that it keeps (`PlanTree.CutsLast`): the rows that
are kept are then the first ones in order too (`take_stableSort`).
-/

namespace PropertyGraph

section AnyEngine

variable {ρ : Type} [RegexEngine ρ]

namespace PlanTree

/-! ### Lowering sorts -/

mutual

/-- The plan in which each sort stands below the limits that it met. -/
def lowerSorts : PlanTree → PlanTree
  | .node (.sort keys) inputs => placeSort keys (lowerSortsAll inputs)
  | .node step inputs => .node step (lowerSortsAll inputs)

def lowerSortsAll : List PlanTree → List PlanTree
  | [] => []
  | t :: rest => lowerSorts t :: lowerSortsAll rest

end

theorem lowerSortsAll_eq_map (ts : List PlanTree) : lowerSortsAll ts = ts.map lowerSorts := by
  induction ts with
  | nil => rfl
  | cons t rest ih => rw [lowerSortsAll, ih, List.map_cons]

theorem lowerSorts_sort (keys : List SortKey) (inputs : List PlanTree) :
    (PlanTree.node (.sort keys) inputs).lowerSorts = placeSort keys (inputs.map lowerSorts) := by
  rw [lowerSorts, lowerSortsAll_eq_map]

theorem lowerSorts_node {step : PlanStep} (h : ∀ keys, step ≠ .sort keys) (inputs : List PlanTree) :
    (PlanTree.node step inputs).lowerSorts = .node step (inputs.map lowerSorts) := by
  rw [lowerSorts, lowerSortsAll_eq_map]
  exact h

/-- Lowered sorts have no limits to meet. -/
theorem placeSort_sortsNoLimit (keys : List SortKey) {inputs : List PlanTree}
    (h : ∀ t ∈ inputs, t.SortsNoLimit) : (placeSort keys inputs).SortsNoLimit := by
  fun_induction placeSort keys inputs with
  | case1 count below ih =>
    cases h _ List.mem_cons_self with
    | node _ hbelow => exact (ih hbelow).wrap fun hkind => by cases hkind
  | case2 inputs hlimit =>
    refine .node (fun _ count below _ heq => ?_) h
    exact hlimit count below heq

theorem lowerSorts_sortsNoLimit (t : PlanTree) : t.lowerSorts.SortsNoLimit := by
  induction t using induction with
  | node step inputs ih =>
    have hinputs : ∀ t ∈ inputs.map lowerSorts, t.SortsNoLimit := List.forall_mem_map.mpr ih
    by_cases hstep : ∃ keys, step = .sort keys
    · obtain ⟨keys, rfl⟩ := hstep
      rw [lowerSorts_sort]
      exact placeSort_sortsNoLimit keys hinputs
    · rw [lowerSorts_node fun keys heq => hstep ⟨keys, heq⟩]
      exact .node (fun keys _ _ heq => absurd ⟨keys, heq⟩ hstep) hinputs

theorem optimize_placeSort (keys : List SortKey) (inputs : List PlanTree) :
    (placeSort keys inputs).optimize = placeSort keys (inputs.map optimize) := by
  fun_induction placeSort keys inputs with
  | case1 count below ih =>
    rw [optimize_node, List.map_cons, List.map_nil, ih, List.map_cons, List.map_nil, optimize_node]
    simp only [place, placeSort]
  | case2 inputs _ => exact optimize_node (.sort keys) inputs

/-- Lowering the sorts first makes no difference to the optimized plan. -/
theorem optimize_lowerSorts (t : PlanTree) : t.lowerSorts.optimize = t.optimize := by
  induction t using induction with
  | node step inputs ih =>
    have hinputs : (inputs.map lowerSorts).map optimize = inputs.map optimize := by
      rw [List.map_map]
      exact List.map_congr_left ih
    by_cases hstep : ∃ keys, step = .sort keys
    · obtain ⟨keys, rfl⟩ := hstep
      rw [lowerSorts_sort, optimize_placeSort, hinputs, optimize_node, place]
    · rw [lowerSorts_node fun keys heq => hstep ⟨keys, heq⟩, optimize_node, hinputs, optimize_node]

/-! ### Limits that cut off the last rows -/

variable {v : GraphView} {s : Store} {config : MatcherConfig}

/-- No step has more than one input. -/
def Linear (t : PlanTree) : Prop := t.Everywhere fun _ inputs => inputs.length ≤ 1

/-- The limits that a sort meets cut off no row that goes before a row they keep. -/
def CutsLast (v : GraphView) (config : MatcherConfig) (keys : List SortKey) : List PlanTree → Prop
  | [.node (.limit count) inputs] =>
    (∀ r, inputResult v config .limit inputs = .ok r → ∀ kept ∈ r.rows.take count,
      ∀ cut ∈ r.rows.drop count, SortKey.compareByAll keys cut kept ≠ .lt) ∧
    CutsLast v config keys inputs
  | _ => True

/-- At every sort the limits that it meets, once the sorts below are lowered, cut off the last rows. -/
def LimitsCutLast (v : GraphView) (config : MatcherConfig) (t : PlanTree) : Prop :=
  t.Everywhere fun step inputs =>
    ∀ keys, step = .sort keys → CutsLast v config keys (inputs.map lowerSorts)

theorem inputResult_eq {inputs : List PlanTree} (h : inputs.length ≤ 1) (kind kind' : StepKind) :
    inputResult v config kind inputs = inputResult v config kind' inputs := by
  match inputs with
  | [] => rfl
  | [_] => rfl
  | _ :: _ :: _ => exact absurd h (by simp)

theorem placeSort_linear (keys : List SortKey) {inputs : List PlanTree} (hone : inputs.length ≤ 1)
    (h : ∀ t ∈ inputs, t.Linear) : (placeSort keys inputs).Linear := by
  fun_induction placeSort keys inputs with
  | case1 count below ih =>
    cases h _ List.mem_cons_self with
    | node hone hbelow => exact .node (Nat.le_refl 1) (List.forall_mem_singleton.mpr (ih hone hbelow))
  | case2 inputs _ => exact .node hone h

theorem Linear.lowerSorts {t : PlanTree} (h : t.Linear) : t.lowerSorts.Linear := by
  induction t using induction with
  | node step inputs ih =>
    obtain ⟨hone, hinputs⟩ := h
    have hlowered : ∀ t ∈ inputs.map PlanTree.lowerSorts, t.Linear :=
      List.forall_mem_map.mpr fun t ht => ih t ht (hinputs t ht)
    have hlength : (inputs.map PlanTree.lowerSorts).length ≤ 1 := by
      rwa [List.length_map]
    by_cases hstep : ∃ keys, step = .sort keys
    · obtain ⟨keys, rfl⟩ := hstep
      rw [lowerSorts_sort]
      exact placeSort_linear keys hlength hlowered
    · rw [lowerSorts_node fun keys heq => hstep ⟨keys, heq⟩]
      exact .node hlength hlowered

/-- Sorting what a limit keeps is taking the first rows in order, if those are the rows kept. -/
theorem sort_limit_agrees (v : GraphView) (config : MatcherConfig) {keys : List SortKey}
    {count : Nat} {r : QueryResult} (h : ∀ kept ∈ r.rows.take count, ∀ cut ∈ r.rows.drop count,
      SortKey.compareByAll keys cut kept ≠ .lt) :
    Agrees (PlanStep.run v config r (.sort keys) >>= fun r => PlanStep.run v config r (.limit count))
      (PlanStep.run v config r (.limit count) >>= fun r =>
        PlanStep.run v config r (.sort keys)) := by
  refine Agrees.of_ok ?_ rfl rfl
  refine take_stableSort fun kept hkept cut hcut => ?_
  exact beq_eq_false_iff_ne.mpr (h kept hkept cut hcut)

/-- Below limits that cut off the last rows a sort answers as above them. -/
theorem placeSort_agrees (keys : List SortKey) {inputs : List PlanTree}
    (hlinear : ∀ t ∈ inputs, t.Linear) (h : CutsLast v config keys inputs) :
    Agrees ((placeSort keys inputs).execute v config)
      ((PlanTree.node (.sort keys) inputs).execute v config) := by
  fun_induction placeSort keys inputs with
  | case1 count below ih =>
    rw [CutsLast] at h
    obtain ⟨hcut, hbelowCut⟩ := h
    cases hlinear _ List.mem_cons_self with
    | node hone hbelow =>
      have hsorted := ih hbelow hbelowCut
      rw [execute_node, inputResult_eq hone _ .limit] at hsorted
      rw [execute_node, execute_node, inputResult, inputResult, execute_node]
      refine (hsorted.bind fun r r' heq => PlanStep.run_agrees _ heq).trans ?_
      rw [bind_assoc, bind_assoc]
      show Agrees (inputResult v config .limit below >>= _) (inputResult v config .limit below >>= _)
      cases hr : inputResult v config .limit below with
      | error e => exact Agrees.refl _
      | ok r => exact sort_limit_agrees v config (hcut r hr)
  | case2 inputs _ => exact Agrees.refl _

/-- Lowering sorts keeps what a plan answers where the limits cut off the last rows. -/
theorem lowerSorts_agrees {t : PlanTree} (hlinear : t.Linear) (h : t.LimitsCutLast v config) :
    Agrees (t.lowerSorts.execute v config) (t.execute v config) := by
  induction t using induction with
  | node step inputs ih =>
    obtain ⟨-, hbelow⟩ := hlinear
    obtain ⟨hcut, hinputs⟩ := h
    have hsame : Agrees ((PlanTree.node step (inputs.map lowerSorts)).execute v config)
        ((PlanTree.node step inputs).execute v config) :=
      execute_agrees step
        (inputResult_agrees step.kind fun t ht => ih t ht (hbelow t ht) (hinputs t ht))
    by_cases hstep : ∃ keys, step = .sort keys
    · obtain ⟨keys, rfl⟩ := hstep
      rw [lowerSorts_sort]
      refine (placeSort_agrees keys ?_ (hcut keys rfl)).trans hsame
      exact List.forall_mem_map.mpr fun t ht => Linear.lowerSorts (hbelow t ht)
    · rw [lowerSorts_node fun keys heq => hstep ⟨keys, heq⟩]
      exact hsame

end PlanTree

/-! ### Plans -/

variable {v : GraphView} {s : Store}

/-- On every view of a reachable store and with every configuration an optimized plan answers as the
plan with its sorts lowered does: with the rows that are first in order where the plan orders the rows
that come first.  A linear plan whose limits below sorts cut off the last rows only is answered as it
stands. -/
theorem execute_optimize_lowerSorts (hs : s.Reachable) (hv : v.Shows s) (config : MatcherConfig)
    (p : QueryPlan) :
    (p.optimize.root.execute v config).map QueryResult.withoutSteps
        = (p.root.lowerSorts.execute v config).map QueryResult.withoutSteps ∧
      (p.root.Linear → p.root.LimitsCutLast v config →
        (p.optimize.root.execute v config).map QueryResult.withoutSteps
          = (p.root.execute v config).map QueryResult.withoutSteps) := by
  have hlowered : Agrees (p.optimize.root.execute v config) (p.root.lowerSorts.execute v config) := by
    unfold QueryPlan.optimize QueryPlan.of
    dsimp only
    rw [← PlanTree.optimize_lowerSorts]
    exact PlanTree.optimize_agrees hv hs.wellFormed p.root.lowerSorts_sortsNoLimit
  exact ⟨hlowered, fun hlinear hcut => hlowered.trans (PlanTree.lowerSorts_agrees hlinear hcut)⟩

end AnyEngine

/-- The first of the nodes, sorted by their ids. -/
def firstSorted (order : SortOrder) : PlanTree :=
  .wrap (.sort [⟨"id", order⟩]) (.wrap (.limit 1) (.leaf (.select .all)))

/-- The first in order of the nodes. -/
def sortedFirst (order : SortOrder) : PlanTree :=
  .wrap (.limit 1) (.wrap (.sort [⟨"id", order⟩]) (.leaf (.select .all)))

theorem optimize_firstSorted (order : SortOrder) :
    (firstSorted order).optimize = sortedFirst order := by
  simp only [firstSorted, sortedFirst, PlanTree.wrap, PlanTree.leaf, PlanTree.optimize_node,
    List.map_cons, List.map_nil, PlanTree.place, PlanTree.placeSort]

theorem firstSorted_linear (order : SortOrder) : (firstSorted order).Linear :=
  .node (Nat.le_refl 1) (List.forall_mem_singleton.mpr (.node (Nat.le_refl 1)
    (List.forall_mem_singleton.mpr (.node (Nat.zero_le 1) nofun))))

theorem execute_optimize_lowerSorts_first :
    ((QueryPlan.of (firstSorted .descending)).optimize.root.execute Store.pair.view {}).map
        QueryResult.withoutSteps
      = ((firstSorted .descending).lowerSorts.execute Store.pair.view {}).map
        QueryResult.withoutSteps ∧
    ((QueryPlan.of (firstSorted .ascending)).optimize.root.execute Store.pair.view {}).map
        QueryResult.withoutSteps
      = ((firstSorted .ascending).execute Store.pair.view {}).map QueryResult.withoutSteps := by
  obtain ⟨hlowered, -⟩ := execute_optimize_lowerSorts Store.reachable_pair Store.pair.view_shows {}
    (QueryPlan.of (firstSorted .descending))
  obtain ⟨-, hkept⟩ := execute_optimize_lowerSorts Store.reachable_pair Store.pair.view_shows {}
    (QueryPlan.of (firstSorted .ascending))
  refine ⟨hlowered, hkept (firstSorted_linear _) ?_⟩
  have hleaf : (PlanTree.leaf (.select .all)).LimitsCutLast Store.pair.view {} := .node nofun nofun
  refine .node (fun keys hkeys => ?_)
    (List.forall_mem_singleton.mpr (.node nofun (List.forall_mem_singleton.mpr hleaf)))
  obtain rfl := PlanStep.sort.inj hkeys
  -- of the two nodes the first one is kept, and it is the first in order
  rw [List.map_cons, List.map_nil, PlanTree.wrap, PlanTree.lowerSorts_node (fun _ h => by cases h),
    List.map_cons, List.map_nil, PlanTree.leaf, PlanTree.lowerSorts_node (fun _ h => by cases h),
    PlanTree.CutsLast]
  refine ⟨fun r hr => ?_, ?_⟩
  · obtain rfl := Except.ok.inj hr
    decide +kernel
  · unfold PlanTree.CutsLast
    trivial

/-- An optimized plan may answer with other rows than the plan. -/
theorem sort_limit_differs :
    ¬ ∀ (s : Store) (v : GraphView) (config : MatcherConfig) (p : QueryPlan),
      s.Reachable → v.Shows s → p.root.Linear →
        (p.optimize.root.execute v config).map QueryResult.rows
          = (p.root.execute v config).map QueryResult.rows := by
  intro hkeeps
  have hrows := hkeeps Store.pair Store.pair.view {} (QueryPlan.of (firstSorted .descending))
    Store.reachable_pair Store.pair.view_shows (firstSorted_linear _)
  have hsame : ((sortedFirst .descending).execute Store.pair.view {}).map QueryResult.rows
      = ((firstSorted .descending).execute Store.pair.view {}).map QueryResult.rows := by
    rw [← optimize_firstSorted]
    exact hrows
  have hids := congrArg (fun x => x.toOption.map (List.filterMap rowId?)) hsame
  revert hids
  decide +kernel

end PropertyGraph
