import PropertyGraph.Proofs.Query.Execution
import PropertyGraph.Proofs.Query.Traversal
import PropertyGraph.Query.Optimization
import PropertyGraph.Regex.Parser

/-!
# Optimizing plans

`execute_optimize` says that an optimized plan answers as the plan does: the same rows in the same
order, the same work counted, or the same error.  It is proved from the leaves to the root, one rule
at a time (`traverse_agrees`, `filter_agrees`).  The plans are those without a sort on a limit: there
the third rule never fits, and no rule makes it fit (`optimize_eq_limit`).
-/

namespace PropertyGraph

section AnyEngine

variable {ρ : Type} [RegexEngine ρ]

namespace PlanTree

/-! ### Plans step by step -/

/-- What holds of a step if it holds of its inputs holds of all plans. -/
theorem induction {motive : PlanTree → Prop}
    (node : ∀ step inputs, (∀ t ∈ inputs, motive t) → motive (.node step inputs))
    (t : PlanTree) : motive t :=
  @PlanTree.rec motive (fun ts => ∀ t ∈ ts, motive t) node
    (fun _ h => (List.not_mem_nil h).elim) (fun _ _ ht hts => List.forall_mem_cons.mpr ⟨ht, hts⟩) t

/-- Something holds of each step and its inputs. -/
inductive Everywhere (P : PlanStep → List PlanTree → Prop) : PlanTree → Prop where
  | node {step : PlanStep} {inputs : List PlanTree} :
    P step inputs → (∀ t ∈ inputs, Everywhere P t) → Everywhere P (.node step inputs)

/-- No sort has a limit as its only input. -/
def SortsNoLimit (t : PlanTree) : Prop :=
  t.Everywhere fun step inputs =>
    ∀ keys count below, step = .sort keys → inputs ≠ [.node (.limit count) below]

theorem SortsNoLimit.leaf (step : PlanStep) : (leaf step).SortsNoLimit :=
  .node (fun _ _ _ _ => (List.cons_ne_nil _ _).symm) fun _ h => (List.not_mem_nil h).elim

theorem SortsNoLimit.wrap {step : PlanStep} {input : PlanTree} (h : input.SortsNoLimit)
    (hstep : step.kind ≠ .sort) : (wrap step input).SortsNoLimit := by
  refine .node (fun keys _ _ heq => ?_) fun t ht => List.mem_singleton.mp ht ▸ h
  rw [heq] at hstep
  exact absurd rfl hstep

theorem optimizeAll_eq_map (ts : List PlanTree) : optimizeAll ts = ts.map optimize := by
  induction ts with
  | nil => rfl
  | cons t rest ih => rw [optimizeAll, ih, List.map_cons]

theorem optimize_node (step : PlanStep) (inputs : List PlanTree) :
    (PlanTree.node step inputs).optimize = place step (inputs.map optimize) := by
  rw [optimize, optimizeAll_eq_map]

theorem placeSort_eq {keys : List SortKey} {inputs : List PlanTree}
    (h : ∀ count below, inputs ≠ [.node (.limit count) below]) :
    placeSort keys inputs = .node (.sort keys) inputs := by
  unfold placeSort
  split
  · next count below => exact absurd rfl (h count below)
  · rfl

theorem placeFilter_ne_limit (conditions : List Filter) (inputs : List PlanTree) {count : Nat}
    {below : List PlanTree} : placeFilter conditions inputs ≠ .node (.limit count) below := by
  unfold placeFilter
  split <;> exact fun h => by cases h

/-- A sort that has no limit below it has none below it once its inputs are optimized, if only limits
are optimized to limits. -/
theorem map_optimize_ne_limit {inputs : List PlanTree}
    (hroot : ∀ count below, inputs ≠ [.node (.limit count) below])
    (hinputs : ∀ t ∈ inputs, ∀ count below, t.optimize = .node (.limit count) below →
      ∃ below', t = .node (.limit count) below') :
    ∀ count below, inputs.map optimize ≠ [.node (.limit count) below] := by
  intro count below hmap
  obtain ⟨t, rfl, ht⟩ := List.map_eq_singleton_iff.mp hmap
  obtain ⟨below', rfl⟩ := hinputs t List.mem_cons_self count below ht
  exact hroot count below' rfl

/-- Without a sort on a limit only limits are optimized to limits. -/
theorem optimize_eq_limit {t : PlanTree} (h : t.SortsNoLimit) :
    ∀ count below, t.optimize = .node (.limit count) below →
      ∃ below', t = .node (.limit count) below' := by
  induction t using induction with
  | node step inputs ih =>
    obtain ⟨hroot, hinputs⟩ := h
    intro count below heq
    rw [optimize_node] at heq
    cases step with
    | limit count' =>
      cases heq
      exact ⟨inputs, rfl⟩
    | filter conditions => exact absurd heq (placeFilter_ne_limit conditions _)
    | sort keys =>
      -- the third rule would make a limit of the sort, but it does not fit
      have hnone := map_optimize_ne_limit (fun count below => hroot keys count below rfl)
        fun t ht => ih t ht (hinputs t ht)
      rw [place, placeSort_eq hnone] at heq
      cases heq
    | select selector => cases heq
    | traverse t => cases heq
    | aggregate columns => cases heq

end PlanTree

/-! ### The rules -/

variable {v : GraphView} {s : Store} {config : MatcherConfig}

/-- Filtering what a traversal finds is filtering within the traversal. -/
theorem traverse_agrees (hv : v.Shows s) (hs : s.WellFormed) (t : Traversal)
    (conditions : List Filter) (r : QueryResult) :
    Agrees (PlanStep.run v config r (.traverse (t.withConditions conditions)))
      (PlanStep.run v config r (.traverse t) >>= fun r =>
        PlanStep.run v config r (.filter conditions)) := by
  have hfound := @Traversal.fromRows_restrict ρ _ v s t config.maxResults hv hs r.rows conditions
  unfold PlanStep.run
  dsimp only
  rw [← hfound]
  cases t.fromRows v config.maxResults r.rows with
  | error e => rfl
  | ok p =>
    refine Agrees.of_ok ?_ rfl rfl
    show (p.restrict conditions).found.map Node.toValue = (p.found.map Node.toValue).filter _
    rw [List.filter_map]
    rfl

/-- Filtering what a filter lets through is filtering by the conditions of both. -/
theorem filter_agrees (inner conditions : List Filter) (r : QueryResult) :
    Agrees (PlanStep.run v config r (.filter (inner ++ conditions)))
      (PlanStep.run v config r (.filter inner) >>= fun r =>
        PlanStep.run v config r (.filter conditions)) := by
  refine Agrees.of_ok ?_ rfl rfl
  show r.rows.filter _ = (r.rows.filter _).filter _
  rw [List.filter_filter]
  refine List.filter_congr fun row _ => ?_
  rw [Filter.allHold_append, Bool.and_comm]

namespace PlanTree

theorem placeFilter_agrees (hv : v.Shows s) (hs : s.WellFormed) (conditions : List Filter)
    (inputs : List PlanTree) :
    Agrees ((placeFilter conditions inputs).execute v config)
      ((PlanTree.node (.filter conditions) inputs).execute v config) := by
  unfold placeFilter
  split
  · next t below =>
    rw [execute_node, execute_node, inputResult, execute_node, bind_assoc]
    exact Agrees.bind_left _ fun r => traverse_agrees hv hs t conditions r
  · next inner below =>
    rw [execute_node, execute_node, inputResult, execute_node, bind_assoc]
    exact Agrees.bind_left _ fun r => filter_agrees inner conditions r
  · exact Agrees.refl _

/-- Placing a step on optimized inputs is running it on them, where a sort meets no limit. -/
theorem place_agrees (hv : v.Shows s) (hs : s.WellFormed) (step : PlanStep)
    (inputs : List PlanTree)
    (h : ∀ keys, step = .sort keys → ∀ count below, inputs ≠ [.node (.limit count) below]) :
    Agrees ((place step inputs).execute v config)
      ((PlanTree.node step inputs).execute v config) := by
  cases step with
  | sort keys =>
    rw [place, placeSort_eq (h keys rfl)]
    exact Agrees.refl _
  | filter conditions => exact placeFilter_agrees hv hs conditions inputs
  | select selector => exact Agrees.refl _
  | traverse t => exact Agrees.refl _
  | aggregate columns => exact Agrees.refl _
  | limit count => exact Agrees.refl _

/-- An optimized tree agrees with the tree. -/
theorem optimize_agrees (hv : v.Shows s) (hs : s.WellFormed) {t : PlanTree}
    (h : t.SortsNoLimit) : Agrees (t.optimize.execute v config) (t.execute v config) := by
  induction t using induction with
  | node step inputs ih =>
    obtain ⟨hroot, hinputs⟩ := h
    rw [optimize_node]
    -- the step is placed on inputs that agree with its own, but they are other trees
    have hplace := @place_agrees ρ _ v s config hv hs step (inputs.map optimize) fun keys hstep =>
      map_optimize_ne_limit (fun count below => hroot keys count below hstep)
        fun t ht => optimize_eq_limit (hinputs t ht)
    refine hplace.trans (execute_agrees step ?_)
    exact inputResult_agrees step.kind fun t ht => ih t ht (hinputs t ht)

end PlanTree

/-! ### Plans -/

/-- **Optimizing preserves results.**  Let a plan have no sort whose only input is a limit.  On every
view of a reachable store and with every configuration, the optimized plan gives the same rows in the
same order, having scanned as many nodes and traversed as many edges, or it fails with the same
error. -/
theorem execute_optimize (hs : s.Reachable) (hv : v.Shows s) (config : MatcherConfig)
    {p : QueryPlan} (hp : p.root.SortsNoLimit) :
    (p.optimize.root.execute v config).map QueryResult.withoutSteps
      = (p.root.execute v config).map QueryResult.withoutSteps :=
  PlanTree.optimize_agrees hv hs.wellFormed hp

end AnyEngine

/-- Two filters on a traversal. -/
def acquaintances : PlanTree :=
  .wrap (.filter [.condition ⟨"id", .eq, .string "b"⟩])
    (.wrap (.filter [.condition ⟨"labels", .neq, .null⟩])
      (.wrap (.traverse { edgeType := some "knows" }) (.leaf (.select (.id "a")))))

theorem execute_optimize_acquaintances :
    ((QueryPlan.of acquaintances).optimize.root.execute Store.pair.view {}).map
        QueryResult.withoutSteps
      = ((QueryPlan.of acquaintances).root.execute Store.pair.view {}).map
        QueryResult.withoutSteps ∧
      ((acquaintances.execute Store.pair.view {}).toOption.map QueryResult.ids) = some ["b"] := by
  refine ⟨execute_optimize Store.reachable_pair Store.pair.view_shows {} ?_, by decide +kernel⟩
  exact (((PlanTree.SortsNoLimit.leaf _).wrap (by decide)).wrap (by decide)).wrap (by decide)

end PropertyGraph
