import PropertyGraph.Proofs.Staging.Validation
import PropertyGraph.Staging.StagedPlan

/-!
# Staged plans

`staging_correct` says that steps that can be ordered are divided into stages, whatever the width
that is allowed and whether stages are joined: each step runs once, no stage is empty or too wide, a
step runs behind the stages of all it waits for, and the check of the stages finds nothing wrong.
-/

namespace PropertyGraph

open StepOrder (Orderable)
open Stage (Layered)

variable {κ : Type} {finished : List String} {steps : List (CostedStep κ)}
variable {groups : List (List (CostedStep κ))} {stages : List (Stage κ)}

/-! ### Stages of groups -/

section MapIdx

variable [CostNumber κ]

theorem map_steps_stages (groups : List (List (CostedStep κ))) :
    (groups.mapIdx Stage.of).map (·.steps) = groups := by
  refine List.ext_getElem? fun i => ?_
  rw [List.getElem?_map, List.getElem?_mapIdx]
  cases groups[i]? <;> rfl

theorem map_index_stages (groups : List (List (CostedStep κ))) :
    (groups.mapIdx Stage.of).map (·.index) = List.range (groups.mapIdx Stage.of).length := by
  refine List.ext_getElem (by simp) fun i hi hi' => ?_
  simp [Stage.of]

end MapIdx

theorem StagedPlan.of_eq_ok [CostNumber κ] {config : StagingConfig} {order : List (CostedStep κ)}
    (h : StepOrder.of steps = .ok order) :
    StagedPlan.of config steps
      = .ok (ofGroups steps (Stage.groups config steps order) (StepOrder.criticalChain order)) := by
  unfold StagedPlan.of
  rw [h]
  rfl

/-! ### Correctness -/

/-- **Staging is correct.**  Steps that have identities of their own, wait for nothing unknown and
wait for each other in no circle are divided into stages.  The stages hold the steps, each of them
once; none is empty or wider than allowed, where no width counts as one; what a step waits for is in
an earlier stage; stages are numbered in their order; and nothing is found wrong with them. -/
theorem staging_correct [CostNumber κ] (config : StagingConfig) (h : Orderable steps) :
    ∃ plan : StagedPlan κ, StagedPlan.of config steps = .ok plan ∧
      (plan.stages.flatMap (·.steps)).Perm steps ∧
      (∀ stage ∈ plan.stages,
        stage.steps ≠ [] ∧ stage.steps.length ≤ max 1 config.maxParallel) ∧
      (∀ (i : Nat) (stage : Stage κ), plan.stages[i]? = some stage →
        ∀ s ∈ stage.steps, ∀ d ∈ s.dependsOn,
          ∃ j < i, ∃ earlier : Stage κ, plan.stages[j]? = some earlier ∧ d ∈ earlier.ids) ∧
      plan.stages.map (·.index) = List.range plan.stages.length ∧
      StagingFault.ofStages steps plan.stages = [] := by
  obtain ⟨order, horder, hperm, hordered⟩ := h.exists_of_eq_ok
  obtain ⟨hflat, hfit, hlayered⟩ := Stage.groups_spec config hordered h.nodup hperm
  set groups := Stage.groups config steps order with hgroups
  refine ⟨StagedPlan.ofGroups steps groups (StepOrder.criticalChain order), ?_, ?_⟩
  · unfold StagedPlan.of
    rw [horder]
    rfl
  set stages := groups.mapIdx Stage.of with hstages
  have hsteps : stages.map (·.steps) = groups := map_steps_stages groups
  have hmem : ∀ stage ∈ stages, stage.steps ∈ groups := by
    intro stage hstage
    rw [← hsteps]
    exact List.mem_map_of_mem hstage
  have hperm' : (stages.flatMap (·.steps)).Perm steps := by
    rw [List.flatMap_def, hsteps]
    exact hflat
  have hids : (stages.flatMap Stage.ids).Perm (steps.map (·.id)) := by
    rw [show stages.flatMap Stage.ids = (stages.flatMap (·.steps)).map (·.id) from
      (List.map_flatMap ..).symm]
    exact hperm'.map _
  refine ⟨hperm', fun stage hstage => hfit _ (hmem stage hstage), fun i stage hi s hs d hd => ?_,
    map_index_stages groups, ?_⟩
  · have hi' : groups[i]? = some stage.steps := by
      rw [← hsteps, List.getElem?_map, show stages[i]? = some stage from hi]
      rfl
    rcases hlayered.exists_earlier hi' hs hd with hnil | ⟨j, hj, earlier, hearlier, hd⟩
    · exact (List.not_mem_nil hnil).elim
    · rw [← hsteps, List.getElem?_map, Option.map_eq_some_iff] at hearlier
      obtain ⟨stage', hstage', rfl⟩ := hearlier
      exact ⟨j, hj, stage', hstage', hd⟩
  · have hknown : ∀ stage ∈ stages, ∀ s ∈ stage.steps, s ∈ steps := fun stage hstage s hs =>
      hperm'.subset (List.mem_flatMap_of_mem hstage hs)
    show StagingFault.ofStages steps stages = []
    unfold StagingFault.ofStages
    rw [StagingFault.inCounts_eq_nil h.nodup hids, StagingFault.inNames_eq_nil,
      StagingFault.inOrder_eq_nil (hsteps ▸ hlayered)]
    · rfl
    · exact fun stage hstage s hs => StagingFault.expected_eq h.nodup (hknown stage hstage s hs)
    · exact fun stage hstage id hid =>
        hids.subset (List.mem_flatMap_of_mem hstage hid)

/-- Two steps between a first and a last one. -/
def diamond : List (CostedStep Binary64) :=
  [⟨"load", .ofNat 10, []⟩, ⟨"left", .ofNat 5, ["load"]⟩, ⟨"right", .ofNat 20, ["load"]⟩,
    ⟨"join", .ofNat 1, ["left", "right"]⟩]

/-- Without any width the two steps in the middle do not run at the same time. -/
theorem staging_diamond :
    ∃ plan, StagedPlan.of { maxParallel := 0 } diamond = .ok plan ∧
      (plan.stages.flatMap (·.steps)).Perm diamond ∧
      (∀ stage ∈ plan.stages, stage.steps.length = 1) ∧
      StagingFault.ofStages diamond plan.stages = [] := by
  have hok : (StepOrder.of diamond).toBool = true := by decide +kernel
  have horderable : Orderable diamond := by
    refine StepOrder.orderable_iff.mpr ?_
    cases h : StepOrder.of diamond with
    | ok order => exact ⟨order, rfl⟩
    | error e => rw [h] at hok; cases hok
  obtain ⟨plan, hplan, hperm, hfit, -, -, hvalid⟩ :=
    staging_correct { maxParallel := 0 } horderable
  refine ⟨plan, hplan, hperm, fun stage hstage => ?_, hvalid⟩
  obtain ⟨hne, hle⟩ := hfit stage hstage
  exact Nat.le_antisymm hle (List.length_pos_iff.mpr hne)

end PropertyGraph
