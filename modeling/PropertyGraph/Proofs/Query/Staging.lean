import PropertyGraph.Proofs.Query.Lowering
import PropertyGraph.Proofs.Staging.StagedPlan

/-!
# The stages of a plan

`lowering_faithful` puts together what lowering a plan to steps and staging these comes to.  A
linear plan leaves no choice: behind the steps in front of it only the next step is ready
(`oneByOne_reverse`), and steps of this kind have only one division into stages
(`Layered.eq_singletons`), however steps are grouped, cut and joined.
-/

namespace PropertyGraph

variable {κ : Type}

/-! ### Steps that run one by one -/

namespace Stage

variable {finished : List String} {steps order : List (CostedStep κ)}
variable {groups : List (List (CostedStep κ))}

/-- Behind the finished steps and those in front, no step is ready but the next one. -/
def OneByOne : List String → List (CostedStep κ) → Prop
  | _, [] => True
  | finished, s :: rest =>
    (∀ t ∈ rest, ¬ t.isReady finished) ∧ OneByOne (finished ++ [s.id]) rest

/-- A step that waits for the last one can follow it. -/
theorem OneByOne.concat {last s : CostedStep κ} (h : OneByOne finished (steps ++ [last]))
    (hwaits : last.id ∈ s.dependsOn) (hlast : last.id ∉ finished)
    (hnew : last.id ∉ steps.map (·.id)) : OneByOne finished (steps ++ [last] ++ [s]) := by
  have hheld : ¬ s.isReady finished := by
    intro hready
    exact hlast (CostedStep.isReady_iff.mp hready _ hwaits)
  induction steps generalizing finished with
  | nil =>
    refine ⟨fun t ht => ?_, fun t ht => (List.not_mem_nil ht).elim, trivial⟩
    rw [List.mem_singleton.mp ht]
    exact hheld
  | cons first rest ih =>
    obtain ⟨hfirst, hrest⟩ := h
    rw [List.map_cons, List.mem_cons, not_or] at hnew
    have hlast' : last.id ∉ finished ++ [first.id] := by
      simp [hlast, hnew.1]
    refine ⟨fun t ht => ?_, ih hrest hlast' hnew.2 fun hready => ?_⟩
    · rcases List.mem_append.mp ht with ht | ht
      · exact hfirst t ht
      · rw [List.mem_singleton.mp ht]
        exact hheld
    · exact hlast' (CostedStep.isReady_iff.mp hready _ hwaits)

/-- Steps of which only the next one is ready are divided into layers in one way. -/
theorem Layered.eq_singletons (h : Layered finished groups) (hsteps : OneByOne finished steps)
    (hnodup : steps.Nodup) (hperm : groups.flatten.Perm steps)
    (hne : ∀ group ∈ groups, group ≠ []) : groups = steps.map fun s => [s] := by
  induction groups generalizing finished steps with
  | nil =>
    obtain rfl := hperm.nil_eq
    rfl
  | cons group rest ih =>
    obtain ⟨hready, hrest⟩ := h
    rw [List.forall_mem_cons] at hne
    rw [List.flatten_cons] at hperm
    cases steps with
    | nil =>
      have hempty := List.append_eq_nil_iff.mp hperm.eq_nil
      exact absurd hempty.1 hne.1
    | cons s others =>
      -- whatever the first group holds is ready, so it is the next step
      have honly : ∀ t ∈ group, t = s := by
        intro t ht
        have hmem : t ∈ s :: others := hperm.subset (List.mem_append_left _ ht)
        rcases List.mem_cons.mp hmem with rfl | hother
        · rfl
        · exact absurd (hready t ht) (hsteps.1 t hother)
      have hgroup : group = [s] := by
        have hdistinct : group.Nodup := (hperm.nodup_iff.mpr hnodup).of_append_left
        obtain ⟨first, more, rfl⟩ := List.exists_cons_of_ne_nil hne.1
        obtain rfl := honly first List.mem_cons_self
        have hmore : more = [] := by
          refine List.eq_nil_iff_forall_not_mem.mpr fun t ht => ?_
          have heq := honly t (List.mem_cons_of_mem _ ht)
          exact (List.nodup_cons.mp hdistinct).1 (heq ▸ ht)
        rw [hmore]
      subst hgroup
      have hperm' : rest.flatten.Perm others := hperm.cons_inv
      rw [List.map_cons, ih hrest hsteps.2 (List.nodup_cons.mp hnodup).2 hperm' hne.2]

end Stage

/-! ### Linear plans -/

namespace PlanTree

/-- No step has more than one input. -/
def IsLinear (t : PlanTree) : Prop := t.Everywhere fun _ inputs => inputs.length ≤ 1

theorem IsLinear.leaf (step : PlanStep) : (PlanTree.leaf step).IsLinear :=
  .node (Nat.zero_le 1) fun _ h => (List.not_mem_nil h).elim

theorem IsLinear.wrap {step : PlanStep} {input : PlanTree} (h : input.IsLinear) :
    (PlanTree.wrap step input).IsLinear :=
  .node (Nat.le_refl 1) fun _ ht => List.mem_singleton.mp ht ▸ h

variable {t : PlanTree}

/-- Induction on linear plans: a step on its own, or on top of its only input. -/
@[elab_as_elim]
theorem IsLinear.induction {motive : PlanTree → Prop} (h : t.IsLinear)
    (hleaf : ∀ step, motive (.leaf step))
    (hwrap : ∀ step input, motive input → motive (.wrap step input)) : motive t := by
  induction h with
  | @node step inputs hlength _ ih =>
    match inputs, hlength with
    | [], _ => exact hleaf step
    | [input], _ => exact hwrap step input (ih input List.mem_cons_self)

theorem located_wrap (step : PlanStep) (input : PlanTree) :
    (wrap step input).located
      = ([], wrap step input) :: input.located.map fun p => (0 :: p.1, p.2) := by
  rw [wrap, located, locatedInAll, locatedInAll, List.map_nil, List.append_nil, List.map_map]
  rfl

/-- The chain of a linear plan are the steps of its nodes from the leaf on. -/
theorem chain_eq (h : t.IsLinear) : t.chain = .ok (t.located.reverse.map fun p => p.2.step) := by
  refine h.induction (fun step => rfl) fun step input ih => ?_
  rw [located_wrap, List.reverse_cons, List.map_append, ← List.map_reverse, List.map_map, wrap,
    chain, ih]
  rfl

variable [CostNumber κ]

theorem costedStepsAt_wrap (step : PlanStep) (input : PlanTree) (place : Nat) :
    (costedStepsAt place (wrap step input) : List (CostedStep κ))
      = ⟨stepId place (wrap step input), stepCost (wrap step input), [stepId (place + 1) input]⟩
        :: costedStepsAt (place + 1) input := by
  rw [wrap, costedStepsAt, costedStepsOfAll, costedStepsOfAll, List.append_nil]

/-- Of the steps of a linear plan, listed backwards, only the next one is ever ready. -/
theorem oneByOne_reverse (h : t.IsLinear) (place : Nat) :
    Stage.OneByOne [] (costedStepsAt place t : List (CostedStep κ)).reverse := by
  revert place
  refine h.induction (fun step place => ?_) fun step input ih place => ?_
  · exact ⟨fun t ht => (List.not_mem_nil ht).elim, trivial⟩
  · have hinput := ih (place + 1)
    have hnodup := @nodup_costedStepsAt κ _ input (place + 1)
    rw [costedStepsAt_wrap, List.reverse_cons]
    -- the last of the steps so far is the root of the input, which the new step waits for
    obtain ⟨root, below, heq, hroot⟩ : ∃ root below,
        (costedStepsAt (place + 1) input : List (CostedStep κ)) = root :: below ∧
          root.id = stepId (place + 1) input := by
      cases input
      exact ⟨_, _, rfl, rfl⟩
    rw [heq, List.map_cons, List.nodup_cons] at hnodup
    rw [heq, List.reverse_cons] at hinput ⊢
    refine hinput.concat ?_ List.not_mem_nil ?_
    · rw [hroot]
      exact List.mem_singleton_self _
    · rw [List.map_reverse, List.mem_reverse]
      exact hnodup.1

end PlanTree

/-! ### Lowering -/

/-- **Lowering is faithful.**  A plan has one step for each of its nodes, with its cost and waiting
for exactly the steps of its inputs, and no identity is given twice.  The steps are staged under
every configuration, and those of a linear plan run one by one in the order of its chain.  Where
costs are added exactly, those of the steps add up to the cost of the plan. -/
theorem lowering_faithful [CostNumber κ] (t : PlanTree) :
    (∀ address n, (address, n) ∈ t.located ↔ t.at? address = some n) ∧
    (∃ name : List Nat → String,
      (t.costedSteps : List (CostedStep κ)) = t.located.map fun p =>
        ⟨name p.1, p.2.stepCost, (List.range p.2.inputs.length).map fun k => name (p.1 ++ [k])⟩) ∧
      ((t.costedSteps : List (CostedStep κ)).map (·.id)).Nodup ∧
      (∀ config, ∃ plan, StagedPlan.of config (t.costedSteps : List (CostedStep κ)) = .ok plan ∧
        (t.IsLinear → plan.stages.map (·.steps) = t.costedSteps.reverse.map fun s => [s])) ∧
      (t.IsLinear → t.chain = .ok (t.located.reverse.map fun p => p.2.step)) ∧
      (CostNumber.ExactAddition κ →
        CostNumber.sum ((t.costedSteps : List (CostedStep κ)).map (·.cost)) = t.estimate.2) := by
  have hnodup : ((t.costedSteps : List (CostedStep κ)).map (·.id)).Nodup :=
    PlanTree.nodup_costedStepsAt t 0
  refine ⟨PlanTree.mem_located t, ⟨t.idAt 0, PlanTree.costedStepsAt_eq t 0⟩, hnodup,
    fun config => ?_, PlanTree.chain_eq, fun exact => PlanTree.sum_costedStepsAt exact t 0⟩
  have hbackwards : StepOrder.Ordered (t.costedSteps : List (CostedStep κ)).reverse :=
    PlanTree.ordered_reverse_costedStepsAt t 0
  -- listed backwards the steps are in order, so they wait for each other in no circle
  have horderable := hbackwards.orderable hnodup (List.reverse_perm _)
  obtain ⟨order, horder, hperm, hordered⟩ := horderable.exists_of_eq_ok
  obtain ⟨hflat, hfit, hlayered⟩ := Stage.groups_spec config hordered hnodup hperm
  refine ⟨StagedPlan.ofGroups t.costedSteps (Stage.groups config t.costedSteps order)
    (StepOrder.criticalChain order), ?_, fun hlinear => ?_⟩
  · rw [StagedPlan.of, horder]
    rfl
  · -- the groups are layered, and these steps have only one division into layers
    refine (map_steps_stages _).trans (hlayered.eq_singletons (PlanTree.oneByOne_reverse hlinear 0)
      ?_ ?_ fun group hgroup => (hfit group hgroup).1)
    · exact List.nodup_reverse.mpr hnodup.of_map
    · exact hflat.trans (List.reverse_perm _).symm

/-- The oldest ten of a label. -/
def oldest : PlanTree :=
  .wrap (.limit 10)
    (.wrap (.sort [⟨"age", .descending⟩]) (.leaf (.select (.label "Person"))))

theorem lowering_oldest :
    (∃ plan, StagedPlan.of { maxParallel := 4 } (oldest.costedSteps : List (CostedStep ℝ)) =
        .ok plan ∧ plan.stages.map Stage.ids = [["2:select"], ["1:sort"], ["0:limit"]]) ∧
      CostNumber.sum ((oldest.costedSteps : List (CostedStep ℝ)).map (·.cost))
        = oldest.estimate.2 := by
  have hlinear : oldest.IsLinear := (PlanTree.IsLinear.leaf _).wrap.wrap
  obtain ⟨-, -, -, hstages, -, hcost⟩ := @lowering_faithful ℝ _ oldest
  obtain ⟨plan, hplan, hsingle⟩ := hstages { maxParallel := 4 }
  refine ⟨⟨plan, hplan, ?_⟩, hcost CostNumber.exactAddition_real⟩
  have hids : plan.stages.map Stage.ids
      = (plan.stages.map (·.steps)).map fun steps => steps.map (·.id) := by
    rw [List.map_map]
    rfl
  rw [hids, hsingle hlinear]
  rfl

end PropertyGraph
