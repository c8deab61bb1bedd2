import Mathlib.Data.Finset.Dedup
import Mathlib.Data.List.Forall2
import PropertyGraph.Proofs.Collection.StableSort
import PropertyGraph.Proofs.Numeric.Order
import PropertyGraph.Proofs.Staging.Costs

/-!
# Steps listed in another order

`stages_of_relisted`: where no two steps cost the same, the stages of a plan have the same steps and
the same costs however the steps are listed and whatever the order in which each step names those it
waits for.

Lists of steps are alike, `SameSteps`, if they have the same contents up to order, where the content
of a step leaves open in which order it names what it waits for.  Each part of the division takes
alike lists to alike ones.  A step keeps its depth (`SameSteps.depth?_eq`), so levels stay alike
(`Stage.forall₂_levels`).  A wide level is cut into the same pieces, since the costs bring it into
one order (`Stage.forall₂_narrow`).  And whether groups may join depends on their contents only
(`Stage.canJoin_congr`), so the same ones do (`Stage.forall₂_joinOnto`).
-/

namespace PropertyGraph

/-! ### Lists of the same steps -/

/-- The second list has the steps of the first one in some order, each of which names what it waits
for in some order. -/
def Relisted {κ : Type} (steps steps' : List (CostedStep κ)) : Prop :=
  ∃ listed, List.Forall₂ (fun s s' => s'.id = s.id ∧ s'.cost = s.cost ∧
    s'.dependsOn.Perm s.dependsOn) steps listed ∧ listed.Perm steps'

/-- What there is to a step but for the order in which it names what it waits for. -/
structure StepContent (κ : Type) where
  id : String
  cost : κ
  waitsFor : Finset String

/-- The content of a step. -/
def CostedStep.content {κ : Type} (s : CostedStep κ) : StepContent κ :=
  ⟨s.id, s.cost, s.dependsOn.toFinset⟩

/-- Lists of steps have the same contents up to order. -/
def SameSteps {κ : Type} (group group' : List (CostedStep κ)) : Prop :=
  (group.map CostedStep.content).Perm (group'.map CostedStep.content)

section SameSteps

variable {κ : Type} {steps steps' group group' order order' : List (CostedStep κ)}

theorem Relisted.alike (h : Relisted steps steps') : SameSteps steps steps' := by
  obtain ⟨listed, hsame, hperm⟩ := h
  have hcontents : steps.map CostedStep.content = listed.map CostedStep.content := by
    clear hperm
    induction hsame with
    | nil => rfl
    | cons hstep _ ih =>
      obtain ⟨hid, hcost, hwaits⟩ := hstep
      rw [List.map_cons, List.map_cons, ih, CostedStep.content, CostedStep.content, hid, hcost,
        List.toFinset_eq_of_perm _ _ hwaits]
  unfold SameSteps
  rw [hcontents]
  exact hperm.map _

theorem SameSteps.symm (h : SameSteps group group') : SameSteps group' group := List.Perm.symm h

theorem SameSteps.length_eq (h : SameSteps group group') : group.length = group'.length := by
  have hlength := List.Perm.length_eq h
  rwa [List.length_map, List.length_map] at hlength

theorem SameSteps.map_perm {β : Type} (f : StepContent κ → β) (h : SameSteps group group') :
    (group.map fun s => f s.content).Perm (group'.map fun s => f s.content) := by
  have hmap := List.Perm.map f h
  rwa [List.map_map, List.map_map] at hmap

theorem SameSteps.ids (h : SameSteps group group') : (group.map (·.id)).Perm (group'.map (·.id)) :=
  h.map_perm StepContent.id

theorem SameSteps.costs (h : SameSteps group group') :
    (group.map (·.cost)).Perm (group'.map (·.cost)) :=
  h.map_perm StepContent.cost

theorem SameSteps.append {more more' : List (CostedStep κ)} (h : SameSteps group group')
    (hmore : SameSteps more more') : SameSteps (group ++ more) (group' ++ more') := by
  unfold SameSteps
  rw [List.map_append, List.map_append]
  exact List.Perm.append h hmore

theorem SameSteps.filter (p : StepContent κ → Bool) (h : SameSteps group group') :
    SameSteps (group.filter fun s => p s.content) (group'.filter fun s => p s.content) := by
  have hfilter := List.Perm.filter p h
  rwa [List.filter_map, List.filter_map] at hfilter

/-- Each step of a list has one of the same content in a list that is alike. -/
theorem SameSteps.exists_mem (h : SameSteps group group') {s : CostedStep κ} (hs : s ∈ group) :
    ∃ s' ∈ group', s'.id = s.id ∧ ∀ d, d ∈ s'.dependsOn ↔ d ∈ s.dependsOn := by
  have hmem : s.content ∈ group'.map CostedStep.content :=
    List.Perm.subset h (List.mem_map_of_mem hs)
  obtain ⟨s', hs', heq⟩ := List.mem_map.mp hmem
  refine ⟨s', hs', congrArg StepContent.id heq, fun d => ?_⟩
  have hwaits : s'.dependsOn.toFinset = s.dependsOn.toFinset := congrArg StepContent.waitsFor heq
  rw [← List.mem_toFinset, hwaits, List.mem_toFinset]

/-! ### Orders and depths -/

open StepOrder (Orderable Ordered Waits depth? depths)

theorem SameSteps.waits (h : SameSteps steps steps') {a b : String} (hwait : Waits steps a b) :
    Waits steps' a b := by
  obtain ⟨s, hs, rfl, hd⟩ := hwait
  obtain ⟨s', hs', hid, hwaits⟩ := h.exists_mem hs
  exact ⟨s', hs', hid, (hwaits b).mpr hd⟩

theorem SameSteps.orderable (halike : SameSteps steps steps') (h : Orderable steps) :
    Orderable steps' where
  nodup := halike.ids.nodup_iff.mp h.nodup
  known := by
    intro s' hs' d hd
    obtain ⟨s, hs, -, hwaits⟩ := halike.symm.exists_mem hs'
    exact halike.ids.subset (h.known s hs d ((hwaits d).mpr hd))
  acyclic := by
    intro id hcircle
    have hwaits : ∀ a b, Waits steps' a b → Waits steps a b := fun _ _ => halike.symm.waits
    exact h.acyclic id (Relation.TransGen.mono hwaits _ _ hcircle)

/-- A maximum depends only on which numbers there are. -/
theorem foldl_max_congr {ns ms : List Nat} (h : ∀ n, n ∈ ns ↔ n ∈ ms) :
    ns.foldl max 0 = ms.foldl max 0 := by
  have hle : ∀ {ns ms : List Nat}, (∀ n ∈ ns, n ∈ ms) → ns.foldl max 0 ≤ ms.foldl max 0 := by
    intro ns ms hsub
    by_cases hnil : ns = []
    · rw [hnil]
      exact Nat.zero_le _
    · exact StepOrder.le_foldl_max (hsub _ (StepOrder.foldl_max_mem hnil))
  exact Nat.le_antisymm (hle fun n hn => (h n).mp hn) (hle fun n hn => (h n).mpr hn)

section Depths

variable (halike : SameSteps order order') (hordered : Ordered order) (hordered' : Ordered order')
  (hnodup : (order.map (·.id)).Nodup)
include halike hordered hordered' hnodup

/-- A step has the same depth in orders that are alike. -/
theorem SameSteps.depth?_id_eq : ∀ s ∈ order, depth? order s.id = depth? order' s.id := by
  have hnodup' : (order'.map (·.id)).Nodup := halike.ids.nodup_iff.mp hnodup
  refine hordered.induction hnodup fun s hs ih => ?_
  obtain ⟨s', hs', hid, hwaits⟩ := halike.exists_mem hs
  have hbefore : ∀ d ∈ s.dependsOn, depth? order d = depth? order' d := by
    intro d hd
    obtain ⟨t, ht, rfl⟩ := List.mem_map.mp (hordered.known hs hd)
    exact ih t ht hd
  rw [StepOrder.depth?_eq hordered hnodup hs, ← hid, StepOrder.depth?_eq hordered' hnodup' hs']
  congr 1
  apply foldl_max_congr
  intro n
  simp only [List.mem_map, List.mem_filterMap, StepOrder.mem_dependencies, hwaits]
  refine exists_congr fun j => and_congr_left fun _ => exists_congr fun d => ?_
  constructor
  · rintro ⟨hd, hj⟩
    exact ⟨hd, hbefore d hd ▸ hj⟩
  · rintro ⟨hd, hj⟩
    exact ⟨hd, (hbefore d hd).symm ▸ hj⟩

theorem SameSteps.depth?_eq : depth? order = depth? order' := by
  funext id
  by_cases hid : id ∈ order.map (·.id)
  · obtain ⟨s, hs, rfl⟩ := List.mem_map.mp hid
    exact halike.depth?_id_eq hordered hordered' hnodup s hs
  · have hid' : id ∉ order'.map (·.id) := fun h => hid (halike.ids.symm.subset h)
    rw [← StepOrder.depth?_isSome, Option.not_isSome_iff_eq_none] at hid hid'
    rw [hid, hid']

/-- There are as many levels in orders that are alike. -/
theorem SameSteps.levelCount_eq : Stage.levelCount order = Stage.levelCount order' := by
  have hmem : ∀ {order : List (CostedStep κ)}, (order.map (·.id)).Nodup → ∀ id k,
      (id, k) ∈ depths order ↔ depth? order id = some k := by
    intro order hnodup id k
    constructor
    · exact StepOrder.lookup_of_mem_alongChains _ hnodup
    · intro h
      obtain ⟨front, back, heq, -⟩ := List.lookup_eq_some_iff.mp h
      rw [heq]
      simp
  apply foldl_max_congr
  intro n
  simp only [List.mem_map, Prod.exists, hmem hnodup, hmem (halike.ids.nodup_iff.mp hnodup),
    halike.depth?_eq hordered hordered' hnodup]

end Depths

end SameSteps

/-! ### Groups -/

namespace Stage

open StepOrder (Ordered depth?)

section Levels

variable {κ : Type} {steps steps' order order' : List (CostedStep κ)}

/-- The levels of steps that are alike are alike. -/
theorem forall₂_levels (hsteps : SameSteps steps steps') (halike : SameSteps order order')
    (hordered : Ordered order) (hordered' : Ordered order') (hnodup : (order.map (·.id)).Nodup) :
    List.Forall₂ SameSteps (levels steps order) (levels steps' order') := by
  rw [levels_eq, levels_eq, halike.levelCount_eq hordered hordered' hnodup,
    List.forall₂_map_left_iff, List.forall₂_map_right_iff, List.forall₂_same]
  intro k _
  unfold level
  rw [← halike.depth?_eq hordered hordered' hnodup]
  exact hsteps.filter fun content => depth? order content.id == some k

end Levels

section Join

variable {κ : Type} {limit : Nat} {current current' next next' : List (CostedStep κ)}
  {groups groups' : List (List (CostedStep κ))}

theorem canJoin_of_alike (hcurrent : SameSteps current current') (hnext : SameSteps next next')
    (h : canJoin limit current next) : canJoin limit current' next' := by
  obtain ⟨hfits, hwaits⟩ := canJoin_iff.mp h
  rw [hcurrent.length_eq, hnext.length_eq] at hfits
  refine canJoin_iff.mpr ⟨hfits, fun s' hs' d hd hmem => ?_⟩
  obtain ⟨s, hs, -, hsame⟩ := hnext.symm.exists_mem hs'
  exact hwaits s hs d ((hsame d).mpr hd) (hcurrent.ids.symm.subset hmem)

/-- Whether groups may join depends on their contents only. -/
theorem canJoin_congr (hcurrent : SameSteps current current') (hnext : SameSteps next next') :
    canJoin limit current next = canJoin limit current' next' :=
  Bool.eq_iff_iff.mpr
    ⟨canJoin_of_alike hcurrent hnext, canJoin_of_alike hcurrent.symm hnext.symm⟩

/-- Of groups that are alike the same ones join. -/
theorem forall₂_joinOnto (hcurrent : SameSteps current current')
    (hgroups : List.Forall₂ SameSteps groups groups') :
    List.Forall₂ SameSteps (joinOnto limit current groups) (joinOnto limit current' groups') := by
  induction hgroups generalizing current current' with
  | nil => exact .cons hcurrent .nil
  | cons hnext hrest ih =>
    unfold joinOnto
    rw [canJoin_congr hcurrent hnext]
    split_ifs
    · exact ih (hcurrent.append hnext)
    · exact .cons hcurrent (ih hnext)

theorem forall₂_joinAdjacent (hgroups : List.Forall₂ SameSteps groups groups') :
    List.Forall₂ SameSteps (joinAdjacent limit groups) (joinAdjacent limit groups') := by
  cases hgroups with
  | nil => exact .nil
  | cons hfirst hrest => exact forall₂_joinOnto hfirst hrest

end Join

section Narrow

variable {steps steps' order order' group group' : List (CostedStep Binary64)}

/-- The order of contents by falling cost. -/
def compareCosts (c c' : StepContent Binary64) : Ordering := Binary64.totalCompare c'.cost c.cost

instance compareCosts.transCmp : Std.TransCmp compareCosts :=
  @Std.TransCmp.opposite _ (compareOn fun c : StepContent Binary64 => c.cost.totalRank)
    inferInstance

/-- Steps of different costs are sorted by them, whatever the order in which they are listed. -/
theorem sorted_content_eq (halike : SameSteps group group') (hcosts : (group.map (·.cost)).Nodup) :
    (stableSortBy (fun a b => CostNumber.compare b.cost a.cost) group).map CostedStep.content
      = (stableSortBy (fun a b => CostNumber.compare b.cost a.cost) group').map
          CostedStep.content := by
  have hmap : ∀ group : List (CostedStep Binary64),
      (stableSortBy (fun a b => CostNumber.compare b.cost a.cost) group).map CostedStep.content
        = stableSortBy compareCosts (group.map CostedStep.content) := by
    intro group
    refine (stableSort_map (fun s t => ?_) group).symm
    rfl
  rw [hmap, hmap]
  apply stableSortBy_eq_of_perm halike
  · show ((group.map CostedStep.content).map StepContent.cost).Nodup
    rw [List.map_map]
    exact hcosts
  · intro c c' heq
    exact (Binary64.eq_of_totalCompare_eq heq).symm

theorem forall₂_pieces {α β : Type} (f : α → β) (n : Nat) {xs ys : List α}
    (h : xs.map f = ys.map f) :
    List.Forall₂ (fun piece piece' => piece.map f = piece'.map f) (pieces n xs) (pieces n ys) := by
  induction xs using pieces.induct n generalizing ys with
  | case1 =>
    rw [List.map_nil] at h
    rw [List.map_eq_nil_iff.mp h.symm]
    simp [pieces]
  | case2 x rest ih =>
    cases ys with
    | nil => simp at h
    | cons y rest' =>
      rw [List.map_cons, List.map_cons, List.cons.injEq] at h
      rw [pieces, pieces]
      refine .cons ?_ (ih ?_)
      · rw [List.map_cons, List.map_cons, List.map_take, List.map_take, h.1, h.2]
      · rw [List.map_drop, List.map_drop, h.2]

/-- A group of steps of different costs is cut into the same pieces however it is listed. -/
theorem forall₂_narrow (limit : Nat) (halike : SameSteps group group')
    (hcosts : (group.map (·.cost)).Nodup) :
    List.Forall₂ SameSteps (narrow limit group) (narrow limit group') := by
  unfold narrow
  rw [halike.length_eq]
  split_ifs
  · exact .cons halike .nil
  · refine (forall₂_pieces _ _ (sorted_content_eq halike hcosts)).imp fun piece piece' heq => ?_
    exact List.Perm.of_eq heq

theorem forall₂_flatMap_narrow (limit : Nat) {groups groups' : List (List (CostedStep Binary64))}
    (halike : List.Forall₂ SameSteps groups groups')
    (hcosts : ∀ group ∈ groups, (group.map (·.cost)).Nodup) :
    List.Forall₂ SameSteps (groups.flatMap (narrow limit)) (groups'.flatMap (narrow limit)) := by
  induction halike with
  | nil => exact .nil
  | cons hgroup _ ih =>
    rw [List.forall_mem_cons] at hcosts
    rw [List.flatMap_cons, List.flatMap_cons]
    exact List.rel_append (forall₂_narrow limit hgroup hcosts.1) (ih hcosts.2)

/-- The groups of steps of different costs are the same however these are listed. -/
theorem forall₂_groups (config : StagingConfig) (hsteps : SameSteps steps steps')
    (halike : SameSteps order order') (hordered : Ordered order) (hordered' : Ordered order')
    (hnodup : (order.map (·.id)).Nodup) (hcosts : (steps.map (·.cost)).Nodup) :
    List.Forall₂ SameSteps (Stage.groups config steps order)
      (Stage.groups config steps' order') := by
  have hlevels := forall₂_levels hsteps halike hordered hordered' hnodup
  have hnarrowed : List.Forall₂ SameSteps ((levels steps order).flatMap (narrow config.width))
      ((levels steps' order').flatMap (narrow config.width)) := by
    apply forall₂_flatMap_narrow config.width hlevels
    intro group hgroup
    obtain ⟨k, -, rfl⟩ := List.mem_map.mp hgroup
    exact hcosts.sublist (List.filter_sublist.map _)
  unfold Stage.groups
  split_ifs
  · exact forall₂_joinAdjacent hnarrowed
  · exact hnarrowed

end Narrow

end Stage

/-! ### Stages -/

open StepOrder (Orderable)

theorem map_eq_of_forall₂ {α β : Type} {r : α → α → Prop} {f : α → β} {xs ys : List α}
    (h : List.Forall₂ r xs ys) (hf : ∀ x y, r x y → f x = f y) : xs.map f = ys.map f := by
  induction h with
  | nil => rfl
  | cons hxy _ ih => rw [List.map_cons, List.map_cons, hf _ _ hxy, ih]

/-- **Staging does not depend on how steps are listed.**  For steps that can be ordered and of which
no two cost the same, and for the same steps listed in any order, where each names what it waits for
in any order: both lists are divided into as many stages, with the same steps and of the same
costs. -/
theorem stages_of_relisted (config : StagingConfig) {steps steps' : List (CostedStep Binary64)}
    (h : Orderable steps) (hcosts : (steps.map (·.cost)).Nodup)
    (hrelisted : Relisted steps steps') :
    ∃ plan plan' : StagedPlan Binary64,
      StagedPlan.of config steps = .ok plan ∧ StagedPlan.of config steps' = .ok plan' ∧
      plan.stages.map (fun stage => stage.ids.toFinset)
        = plan'.stages.map (fun stage => stage.ids.toFinset) ∧
      plan.stages.map (·.cost) = plan'.stages.map (·.cost) := by
  have hsteps : SameSteps steps steps' := hrelisted.alike
  obtain ⟨order, horder, hperm, hordered⟩ := h.exists_of_eq_ok
  obtain ⟨order', horder', hperm', hordered'⟩ := (hsteps.orderable h).exists_of_eq_ok
  have hnodup : (order.map (·.id)).Nodup := (hperm.map (·.id)).nodup_iff.mpr h.nodup
  have halike : SameSteps order order' :=
    (hperm.map _).trans (List.Perm.trans hsteps (hperm'.map _).symm)
  have hgroups := Stage.forall₂_groups config hsteps halike hordered hordered' hnodup hcosts
  refine ⟨_, _, StagedPlan.of_eq_ok horder, StagedPlan.of_eq_ok horder', ?_, ?_⟩
  · have hids : ∀ groups : List (List (CostedStep Binary64)),
        (groups.mapIdx Stage.of).map (fun stage => stage.ids.toFinset)
          = groups.map fun group => (group.map (·.id)).toFinset := by
      intro groups
      conv_rhs => rw [← map_steps_stages groups, List.map_map]
      rfl
    show ((Stage.groups config steps order).mapIdx Stage.of).map _ = _
    rw [hids]
    refine Eq.trans ?_ (hids _).symm
    exact map_eq_of_forall₂ hgroups fun group group' hgroup =>
      List.toFinset_eq_of_perm _ _ hgroup.ids
  · show ((Stage.groups config steps order).mapIdx Stage.of).map _ = _
    rw [map_cost_stages]
    refine Eq.trans ?_ (map_cost_stages _).symm
    exact map_eq_of_forall₂ hgroups fun group group' hgroup =>
      CostNumber.maximum_perm hgroup.costs

/-- The diamond from its end to its start, where the last step names its dependencies the other way
round. -/
theorem stages_of_relisted_diamond :
    ∃ plan plan' : StagedPlan Binary64, StagedPlan.of { maxParallel := 1 } diamond = .ok plan ∧
      StagedPlan.of { maxParallel := 1 }
        [⟨"join", .ofNat 1, ["right", "left"]⟩, ⟨"right", .ofNat 20, ["load"]⟩,
          ⟨"left", .ofNat 5, ["load"]⟩, ⟨"load", .ofNat 10, []⟩] = .ok plan' ∧
      plan.stages.map (fun stage => stage.ids.toFinset)
        = plan'.stages.map (fun stage => stage.ids.toFinset) ∧
      plan.stages.map (·.cost) = plan'.stages.map (·.cost) := by
  have hsame : ∀ {id : String} {cost : Binary64} {dependsOn dependsOn' : List String},
      dependsOn'.Perm dependsOn →
        (id = id ∧ cost = cost ∧ dependsOn'.Perm dependsOn) := fun hperm => ⟨rfl, rfl, hperm⟩
  refine stages_of_relisted _ orderable_diamond (by decide +kernel)
    ⟨[⟨"load", .ofNat 10, []⟩, ⟨"left", .ofNat 5, ["load"]⟩, ⟨"right", .ofNat 20, ["load"]⟩,
      ⟨"join", .ofNat 1, ["right", "left"]⟩], ?_, (List.reverse_perm _).symm⟩
  exact .cons (hsame (.refl _)) (.cons (hsame (.refl _)) (.cons (hsame (.refl _))
    (.cons (hsame (.swap _ _ _)) .nil)))

end PropertyGraph
