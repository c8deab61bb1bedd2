import Mathlib.Algebra.Order.BigOperators.Group.List
import PropertyGraph.Proofs.Staging.CriticalPath

/-!
# The costs of a plan

`costs_ordered`: where sums of costs are exact, the critical path of a plan costs no more than its
stages one after the other, these cost no more than the steps one after the other, and the steps
cost no more than the stages times the number of steps that a stage may have.

A stage costs as much as its most expensive step, so the stages cost as much as some of the steps
(`exists_totalCost_eq`), which makes their sum exact.  A path has at most one step in each stage
(`Stage.Layered.totalCost_le`).
-/

namespace PropertyGraph

open Binary64 (sum_spec)
open Stage (Layered)
open StepOrder (Orderable)

variable {steps path group : List (CostedStep Binary64)}
variable {groups : List (List (CostedStep Binary64))}

/-! ### Groups -/

/-- What a group of steps costs that run at the same time. -/
def groupCost (group : List (CostedStep Binary64)) : Binary64 :=
  CostNumber.maximum (group.map (·.cost))

theorem map_cost_stages (groups : List (List (CostedStep Binary64))) :
    (groups.mapIdx Stage.of).map (·.cost) = groups.map groupCost := by
  refine List.ext_getElem? fun i => ?_
  rw [List.getElem?_map, List.getElem?_mapIdx, List.getElem?_map]
  cases groups[i]? <;> rfl

/-- A group costs as much as a most expensive step, or nothing. -/
theorem groupCost_spec (h : ∀ s ∈ group, s.cost.isFinite = true) :
    (groupCost group = .zero ∨ ∃ s ∈ group, groupCost group = s.cost) ∧
      0 ≤ (groupCost group).value ∧ ∀ s ∈ group, s.cost.value ≤ (groupCost group).value := by
  obtain ⟨hmem, hnonneg, hmax⟩ :=
    CostNumber.maximum_spec (List.forall_mem_map.mpr h)
  rw [List.mem_map] at hmem
  exact ⟨hmem.imp_right fun ⟨s, hs, heq⟩ => ⟨s, hs, heq.symm⟩, hnonneg,
    List.forall_mem_map.mp hmax⟩

/-- Groups cost as much as some of their steps. -/
theorem exists_totalCost_eq (h : ∀ s ∈ groups.flatten, s.cost.isFinite = true) :
    ∃ chosen : List (CostedStep Binary64), chosen.Subperm groups.flatten ∧
      totalCost chosen = ((groups.map groupCost).map Binary64.value).sum := by
  induction groups with
  | nil => exact ⟨[], List.Subperm.refl [], rfl⟩
  | cons group rest ih =>
    rw [List.flatten_cons, List.forall_mem_append] at h
    obtain ⟨chosen, hsub, hcost⟩ := ih h.2
    rw [List.flatten_cons, List.map_cons, List.map_cons, List.sum_cons, ← hcost]
    rcases (groupCost_spec h.1).1 with hzero | ⟨s, hs, heq⟩
    · refine ⟨chosen, hsub.trans (List.sublist_append_right _ _).subperm, ?_⟩
      rw [hzero, Binary64.value_zero, zero_add]
    · refine ⟨[s] ++ chosen, (List.singleton_subperm_iff.mpr hs).append hsub, ?_⟩
      rw [totalCost_append, totalCost_singleton, heq]

/-! ### Stages one after the other -/

section Costs

variable (hcosts : ExactCosts steps)
include hcosts

theorem ExactCosts.totalCost_le_of_subperm (hsub : path.Subperm steps) :
    totalCost path ≤ totalCost steps := by
  obtain ⟨others, hperm, hsub⟩ := hsub
  unfold totalCost
  rw [← (hperm.map (·.cost.value)).sum_eq]
  refine (hsub.map _).sum_le_sum fun v hv => ?_
  obtain ⟨s, hs, rfl⟩ := List.mem_map.mp hv
  exact hcosts.nonneg s hs

/-- The sum of what steps cost is exact. -/
theorem ExactCosts.sum_steps :
    (Binary64.sum (steps.map (·.cost))).isFinite = true ∧
      (Binary64.sum (steps.map (·.cost))).value = totalCost steps := by
  obtain ⟨hfinite, hvalue⟩ := hcosts.exact _ (List.Sublist.refl _)
  rw [List.map_map] at hvalue
  exact ⟨hfinite, hvalue⟩

/-- The sum of what groups of the steps cost is exact. -/
theorem ExactCosts.sum_groups (hperm : groups.flatten.Perm steps) :
    (Binary64.sum (groups.map groupCost)).isFinite = true ∧
      (Binary64.sum (groups.map groupCost)).value
        = ((groups.map groupCost).map Binary64.value).sum := by
  have hfinite : ∀ s ∈ groups.flatten, s.cost.isFinite = true :=
    fun s hs => hcosts.finite s (hperm.subset hs)
  refine sum_spec (List.forall_mem_map.mpr fun group hgroup => ?_) fun costs hcosts' => ?_
  · have hgroup : ∀ s ∈ group, s.cost.isFinite = true :=
      fun s hs => hfinite s (List.mem_flatten_of_mem hgroup hs)
    rcases (groupCost_spec hgroup).1 with hzero | ⟨s, hs, heq⟩
    · rw [hzero, Binary64.isFinite_zero]
    · rw [heq, hgroup s hs]
  · -- the first groups cost as much as some of the steps
    obtain ⟨front, hfront, rfl⟩ := List.prefix_map_iff.mp hcosts'
    have hsub : front.flatten.Sublist groups.flatten := hfront.sublist.flatten
    obtain ⟨chosen, hchosen, hcost⟩ := exists_totalCost_eq fun s hs => hfinite s (hsub.subset hs)
    rw [← hcost]
    exact hcosts.isValue (hchosen.trans (hsub.subperm.trans hperm.subperm))

theorem ExactCosts.groups_le_steps (hperm : groups.flatten.Perm steps) :
    ((groups.map groupCost).map Binary64.value).sum ≤ totalCost steps := by
  obtain ⟨chosen, hchosen, hcost⟩ :=
    exists_totalCost_eq fun s hs => hcosts.finite s (hperm.subset hs)
  rw [← hcost]
  exact hcosts.totalCost_le_of_subperm (hchosen.trans hperm.subperm)

end Costs

/-- A group costs as much as its width times its most expensive step at most. -/
theorem totalCost_group_le {width : Nat} (h : ∀ s ∈ group, s.cost.isFinite = true)
    (hfit : group.length ≤ width) : totalCost group ≤ width * (groupCost group).value := by
  obtain ⟨-, hnonneg, hmax⟩ := groupCost_spec h
  calc totalCost group
      ≤ group.length • (groupCost group).value := by
        have hlength : (group.map (·.cost.value)).length = group.length := List.length_map _
        rw [← hlength]
        exact List.sum_le_card_nsmul _ _ (List.forall_mem_map.mpr hmax)
    _ = group.length * (groupCost group).value := nsmul_eq_mul _ _
    _ ≤ width * (groupCost group).value :=
        mul_le_mul_of_nonneg_right (Nat.cast_le.mpr hfit) hnonneg

/-- Steps cost no more than their groups times the width of a group. -/
theorem totalCost_flatten_le {width : Nat} (h : ∀ s ∈ groups.flatten, s.cost.isFinite = true)
    (hfit : ∀ group ∈ groups, group.length ≤ width) :
    totalCost groups.flatten ≤ width * ((groups.map groupCost).map Binary64.value).sum := by
  induction groups with
  | nil =>
    rw [List.map_nil, List.map_nil, List.sum_nil, mul_zero]
    exact le_refl _
  | cons group rest ih =>
    rw [List.flatten_cons, List.forall_mem_append] at h
    rw [List.forall_mem_cons] at hfit
    rw [List.flatten_cons, totalCost_append, List.map_cons, List.map_cons, List.sum_cons, mul_add]
    exact add_le_add (totalCost_group_le h.1 hfit.1) (ih h.2 hfit.2)

/-! ### Paths through stages -/

/-- Each further element of a chain has one in front of it that it goes with. -/
theorem exists_rel_of_mem_tail {α : Type} {r : α → α → Prop} {x y : α} {xs : List α}
    (h : (x :: xs).IsChain r) (hy : y ∈ xs) : ∃ z ∈ x :: xs, r z y := by
  induction xs generalizing x with
  | nil => exact (List.not_mem_nil hy).elim
  | cons next rest ih =>
    obtain ⟨hfirst, hrest⟩ := List.isChain_cons_cons.mp h
    rcases List.mem_cons.mp hy with rfl | hy
    · exact ⟨x, List.mem_cons_self, hfirst⟩
    · obtain ⟨z, hz, hrel⟩ := ih hrest hy
      exact ⟨z, List.mem_cons_of_mem x hz, hrel⟩

/-- Behind its first step a path has no step in the first of some layers, since such a step waits
only for finished ones. -/
theorem Stage.Layered.isPath_tail {finished : List String} {s : CostedStep Binary64}
    (hlayered : Layered finished (group :: groups))
    (hnodup : (finished ++ (group :: groups).flatten.map (·.id)).Nodup)
    (hpath : IsPath (group :: groups).flatten (s :: path)) : IsPath groups.flatten path := by
  refine ⟨fun t ht => ?_, (List.isChain_cons.mp hpath.waits).2⟩
  have hmem : t ∈ (group :: groups).flatten := hpath.mem t (List.mem_cons_of_mem s ht)
  refine (List.mem_append.mp hmem).resolve_left fun hgroup => ?_
  obtain ⟨u, hu, hwait⟩ := exists_rel_of_mem_tail hpath.waits ht
  have hfinished : u.id ∈ finished := CostedStep.isReady_iff.mp (hlayered.1 t hgroup) u.id hwait
  have hlater : u.id ∈ (group :: groups).flatten.map (·.id) := List.mem_map_of_mem (hpath.mem u hu)
  exact (List.nodup_append.mp hnodup).2.2 u.id hfinished u.id hlater rfl

/-- **A path costs no more than layers**, since it has at most one step in each of them. -/
theorem Stage.Layered.totalCost_le {finished : List String} (hlayered : Layered finished groups)
    (hnodup : (finished ++ groups.flatten.map (·.id)).Nodup)
    (hfinite : ∀ s ∈ groups.flatten, s.cost.isFinite = true)
    (hpath : IsPath groups.flatten path) :
    totalCost path ≤ ((groups.map groupCost).map Binary64.value).sum := by
  induction groups generalizing finished path with
  | nil =>
    rw [List.eq_nil_iff_forall_not_mem.mpr fun s hs => List.not_mem_nil (hpath.mem s hs)]
    exact le_refl _
  | cons group rest ih =>
    have hfinite' := hfinite
    rw [List.flatten_cons, List.forall_mem_append] at hfinite'
    obtain ⟨-, hnonneg, hmax⟩ := groupCost_spec hfinite'.1
    have hrest : ∀ {other}, IsPath rest.flatten other →
        totalCost other ≤ ((rest.map groupCost).map Binary64.value).sum := fun hother =>
      ih hlayered.2 (by simpa [List.append_assoc] using hnodup) hfinite'.2 hother
    rw [List.map_cons, List.map_cons, List.sum_cons]
    cases path with
    | nil => exact add_nonneg hnonneg (hrest .nil)
    | cons s path =>
      have htail := hlayered.isPath_tail hnodup hpath
      rcases List.mem_append.mp (hpath.mem s List.mem_cons_self) with hs | hs
      · exact add_le_add (hmax s hs) (hrest htail)
      · have hall : IsPath rest.flatten (s :: path) :=
          ⟨List.forall_mem_cons.mpr ⟨hs, htail.mem⟩, hpath.waits⟩
        exact (hrest hall).trans (le_add_of_nonneg_left hnonneg)

/-! ### The costs of a plan -/

/-- **The costs of a plan are ordered.**  For steps that can be ordered, with costs that are not
negative and whose sums are exact, the critical path costs no more than the stages one after the
other, these cost no more than the steps one after the other, and the steps cost no more than the
stages times the width that is allowed, where no width counts as one. -/
theorem costs_ordered (config : StagingConfig) {steps : List (CostedStep Binary64)}
    (h : Orderable steps) (hcosts : ExactCosts steps) :
    ∃ plan, StagedPlan.of config steps = .ok plan ∧
      plan.metrics.criticalPathCost.isFinite = true ∧
      plan.metrics.parallelCost.isFinite = true ∧
      plan.metrics.sequentialCost.isFinite = true ∧
      plan.metrics.criticalPathCost.value ≤ plan.metrics.parallelCost.value ∧
      plan.metrics.parallelCost.value ≤ plan.metrics.sequentialCost.value ∧
      plan.metrics.sequentialCost.value
        ≤ (max 1 config.maxParallel : Nat) * plan.metrics.parallelCost.value := by
  obtain ⟨order, horder, hperm, hordered⟩ := h.exists_of_eq_ok
  have hnodup : (order.map (·.id)).Nodup := (hperm.map (·.id)).nodup_iff.mpr h.nodup
  obtain ⟨hflat, hfit, hlayered⟩ := Stage.groups_spec config hordered h.nodup hperm
  set groups := Stage.groups config steps order with hgroups
  have hfinite : ∀ s ∈ groups.flatten, s.cost.isFinite = true :=
    fun s hs => hcosts.finite s (hflat.subset hs)
  obtain ⟨path, hpath, -, -, hcritical⟩ :=
    StepOrder.exists_criticalPath hordered hnodup (hcosts.perm hperm)
  obtain ⟨hparallel, hparallelValue⟩ := hcosts.sum_groups hflat
  obtain ⟨hsequential, hsequentialValue⟩ := hcosts.sum_steps
  set plan := StagedPlan.ofGroups steps groups (StepOrder.criticalChain order) with hplan
  have hstages : plan.metrics.parallelCost = Binary64.sum (groups.map groupCost) :=
    congrArg Binary64.sum (map_cost_stages groups)
  have hsteps : plan.metrics.sequentialCost.value = totalCost steps := hsequentialValue
  have hchain : plan.metrics.criticalPathCost.value = totalCost path := hcritical.cost
  refine ⟨plan, StagedPlan.of_eq_ok horder, hcritical.finite, hstages ▸ hparallel, hsequential, ?_⟩
  rw [hchain, hstages, hparallelValue, hsteps]
  refine ⟨?_, hcosts.groups_le_steps hflat, ?_⟩
  · refine hlayered.totalCost_le ?_ hfinite ((hpath.perm hperm.symm).perm hflat)
    rw [List.nil_append]
    exact (hflat.map (·.id)).nodup_iff.mpr h.nodup
  · rw [totalCost, ← (hflat.map (·.cost.value)).sum_eq]
    exact totalCost_flatten_le hfinite fun group hgroup => (hfit group hgroup).2

/-- Without any width the stages of the diamond cost as much as its steps. -/
theorem costs_diamond :
    ∃ plan, StagedPlan.of { maxParallel := 0 } diamond = .ok plan ∧
      plan.metrics.criticalPathCost.value ≤ plan.metrics.parallelCost.value ∧
      plan.metrics.parallelCost.value = plan.metrics.sequentialCost.value := by
  obtain ⟨plan, hplan, -, -, -, hcritical, hparallel, hsequential⟩ :=
    costs_ordered { maxParallel := 0 } orderable_diamond exactCosts_diamond
  refine ⟨plan, hplan, hcritical, le_antisymm hparallel ?_⟩
  rwa [show ((max 1 0 : Nat) : Rat) = 1 from Nat.cast_one, one_mul] at hsequential

end PropertyGraph
