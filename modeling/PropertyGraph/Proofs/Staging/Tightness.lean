import PropertyGraph.Proofs.Staging.CriticalPath

/-!
# How tight stages are

`stages_tight` says in two parts that a plan has no more stages than it needs.  Where stages are
joined, no two neighbours could still be joined.  Where they are not joined and no level has to be
cut, stage `k` holds the steps of depth `k`, in the order in which they are listed.

The test for joining is made once, against a stage that may still grow in front and behind.  It does
not matter, since a group that may join may also do so without some of its steps
(`canJoin_of_append`): what failed once fails for good (`joinOnto_isChain`).

The depth of a step is the length of the longest path in front of it (`IsDepth`), and this is what
the computed depths come to (`Ordered.isDepth_iff`): by induction along a path they are no less
(`Ordered.length_le_of_depth`), and step by step from the end of a path they are no more
(`Ordered.exists_path_of_depth`).
-/

namespace PropertyGraph

variable {κ : Type} {steps order path : List (CostedStep κ)} {s : CostedStep κ} {k : Nat}

/-! ### Depths are lengths of paths -/

/-- The longest chain of direct dependencies in front of a step has `k` steps. -/
structure IsDepth (steps : List (CostedStep κ)) (s : CostedStep κ) (k : Nat) : Prop where
  exists_path : ∃ path, IsPath steps (path ++ [s]) ∧ path.length = k
  length_le : ∀ path, IsPath steps (path ++ [s]) → path.length ≤ k

theorem IsDepth.unique {j : Nat} (hj : IsDepth steps s j) (hk : IsDepth steps s k) : j = k := by
  obtain ⟨path, hpath, hlength⟩ := hj.exists_path
  obtain ⟨path', hpath', hlength'⟩ := hk.exists_path
  have hle := hk.length_le path hpath
  have hge := hj.length_le path' hpath'
  omega

open Classical in
/-- The steps of a depth in the order in which they are listed. -/
noncomputable def stepsAtDepth (steps : List (CostedStep κ)) (k : Nat) : List (CostedStep κ) :=
  steps.filter fun s => IsDepth steps s k

namespace StepOrder

section Ordered

variable (hordered : Ordered order) (hnodup : (order.map (·.id)).Nodup)
include hordered hnodup

/-- There are no more steps in front of a step than its depth says. -/
theorem Ordered.length_le_of_depth (hpath : IsPath order (path ++ [s]))
    (hk : depth? order s.id = some k) : path.length ≤ k := by
  induction path using List.reverseRecOn generalizing s k with
  | nil => exact Nat.zero_le k
  | append_singleton path t ih =>
    obtain ⟨hfront, hs, hwait⟩ := isPath_snoc_iff.mp hpath
    obtain ⟨j, hj, hdepth⟩ := hordered.depth_lt hnodup hs hwait hk
    have hle : path.length ≤ j := ih hfront hdepth
    rw [List.length_append, List.length_singleton]
    omega

/-- There is a path of as many steps in front of a step as its depth says. -/
theorem Ordered.exists_path_of_depth (hs : s ∈ order) (hk : depth? order s.id = some k) :
    ∃ path, IsPath order (path ++ [s]) ∧ path.length = k := by
  induction k generalizing s with
  | zero => exact ⟨[], .singleton hs, rfl⟩
  | succ k ih =>
    obtain ⟨d, hd, hdepth⟩ := hordered.exists_depth_eq hnodup hs hk
    obtain ⟨t, ht, rfl⟩ := List.mem_map.mp (depth?_isSome.mp (Option.isSome_of_eq_some hdepth))
    obtain ⟨path, hpath, hlength⟩ := ih ht hdepth
    refine ⟨path ++ [t], isPath_snoc_iff.mpr ⟨hpath, hs, hd⟩, ?_⟩
    rw [List.length_append, List.length_singleton, hlength]

/-- The computed depth of a step is the length of the longest path in front of it. -/
theorem Ordered.isDepth_iff (hs : s ∈ order) : IsDepth order s k ↔ depth? order s.id = some k := by
  have hdepth : ∀ {k}, depth? order s.id = some k → IsDepth order s k := by
    intro k hk
    exact ⟨hordered.exists_path_of_depth hnodup hs hk,
      fun path hpath => hordered.length_le_of_depth hnodup hpath hk⟩
  constructor
  · intro h
    obtain ⟨j, hj⟩ := Option.isSome_iff_exists.mp (depth?_isSome.mpr (List.mem_map_of_mem hs))
    rw [hj, (hdepth hj).unique h]
  · exact hdepth

end Ordered

end StepOrder

theorem IsDepth.perm (hperm : order.Perm steps) : IsDepth order s k ↔ IsDepth steps s k := by
  have hpaths : ∀ path, IsPath order path ↔ IsPath steps path :=
    fun path => ⟨fun h => h.perm hperm.symm, fun h => h.perm hperm⟩
  constructor
  · rintro ⟨hexists, hle⟩
    exact ⟨by simpa only [hpaths] using hexists, by simpa only [hpaths] using hle⟩
  · rintro ⟨hexists, hle⟩
    exact ⟨by simpa only [hpaths] using hexists, by simpa only [hpaths] using hle⟩

namespace Stage

open StepOrder (Ordered depth?)

/-! ### Levels -/

/-- A level holds the steps of a depth in the order in which they are listed. -/
theorem level_eq (hordered : Ordered order) (hnodup : (order.map (·.id)).Nodup)
    (hperm : order.Perm steps) (k : Nat) : level steps order k = stepsAtDepth steps k := by
  classical
  unfold level stepsAtDepth
  refine List.filter_congr fun s hs => ?_
  have hdepth : IsDepth steps s k ↔ depth? order s.id = some k := by
    rw [← IsDepth.perm hperm, hordered.isDepth_iff hnodup (hperm.symm.subset hs)]
  rw [Bool.eq_iff_iff, beq_iff_eq, ← hdepth, decide_eq_true_eq]

/-- There is no step as deep as there are levels. -/
theorem stepsAtDepth_eq_nil (hordered : Ordered order) (hnodup : (order.map (·.id)).Nodup)
    (hperm : order.Perm steps) (hle : levelCount order ≤ k) : stepsAtDepth steps k = [] := by
  rw [← level_eq hordered hnodup hperm]
  refine List.filter_eq_nil_iff.mpr fun s _ hs => ?_
  have hlt := lt_levelCount (eq_of_beq hs)
  omega

/-- Groups that are narrow enough are not cut. -/
theorem flatMap_narrow_eq_self [CostNumber κ] {limit : Nat} {groups : List (List (CostedStep κ))}
    (h : ∀ group ∈ groups, group.length ≤ limit) : groups.flatMap (narrow limit) = groups := by
  have hnarrow : ∀ group ∈ groups, narrow limit group = [group] := by
    intro group hgroup
    exact if_pos (h group hgroup)
  rw [List.flatMap_def, List.map_congr_left hnarrow, ← List.flatMap_def, List.flatMap_singleton']

/-! ### Neighbours that cannot be joined -/

section Join

variable {limit : Nat} {current next more : List (CostedStep κ)}

/-- A group that may join another one may also do so without its last steps. -/
theorem canJoin_of_append (h : canJoin limit current (next ++ more)) :
    canJoin limit current next := by
  obtain ⟨hfits, hwaits⟩ := canJoin_iff.mp h
  rw [List.length_append] at hfits
  refine canJoin_iff.mpr ⟨by omega, fun s hs => ?_⟩
  exact hwaits s (List.mem_append_left more hs)

/-- Joining groups starts with the steps of the first one. -/
theorem exists_joinOnto_eq (limit : Nat) (current : List (CostedStep κ))
    (groups : List (List (CostedStep κ))) :
    ∃ more rest, joinOnto limit current groups = (current ++ more) :: rest := by
  induction groups generalizing current with
  | nil => exact ⟨[], [], by rw [joinOnto, List.append_nil]⟩
  | cons next groups ih =>
    unfold joinOnto
    split_ifs
    · obtain ⟨more, rest, heq⟩ := ih (current ++ next)
      exact ⟨next ++ more, rest, by rw [heq, List.append_assoc]⟩
    · exact ⟨[], joinOnto limit next groups, by rw [List.append_nil]⟩

/-- No two neighbours among joined groups can still be joined. -/
theorem joinOnto_isChain (limit : Nat) (current : List (CostedStep κ))
    (groups : List (List (CostedStep κ))) :
    (joinOnto limit current groups).IsChain fun earlier later => ¬ canJoin limit earlier later := by
  induction groups generalizing current with
  | nil => exact List.isChain_singleton current
  | cons next groups ih =>
    unfold joinOnto
    split_ifs with hjoin
    · exact ih (current ++ next)
    · -- the next group is in front of whatever has joined it by the end
      have hrest := ih next
      obtain ⟨more, rest, heq⟩ := exists_joinOnto_eq limit next groups
      rw [heq] at hrest ⊢
      exact List.isChain_cons_cons.mpr ⟨fun h => hjoin (canJoin_of_append h), hrest⟩

theorem joinAdjacent_isChain (limit : Nat) (groups : List (List (CostedStep κ))) :
    (joinAdjacent limit groups).IsChain fun earlier later => ¬ canJoin limit earlier later := by
  cases groups with
  | nil => exact List.isChain_nil
  | cons first rest => exact joinOnto_isChain limit first rest

theorem not_canJoin_iff :
    ¬ canJoin limit current next ↔
      limit < current.length + next.length ∨
        ∃ s ∈ next, ∃ d ∈ s.dependsOn, d ∈ current.map (·.id) := by
  rw [canJoin_iff, Classical.not_and_iff_not_or_not, Nat.not_le]
  simp only [not_forall, not_not, exists_prop]

end Join

/-! ### The groups of a plan -/

section Groups

variable [CostNumber κ] {config : StagingConfig}

/-- Where stages are joined no two neighbours can still be joined. -/
theorem groups_isChain (hmerge : config.mergeStages = true) :
    (Stage.groups config steps order).IsChain fun earlier later =>
      ¬ canJoin config.width earlier later := by
  unfold Stage.groups
  rw [if_pos hmerge]
  exact joinAdjacent_isChain config.width _

/-- Where stages are not joined and no level is too wide the groups are the levels. -/
theorem groups_eq_levels (hordered : Ordered order) (hnodup : (order.map (·.id)).Nodup)
    (hperm : order.Perm steps) (hmerge : config.mergeStages = false)
    (hfits : ∀ k, (stepsAtDepth steps k).length ≤ config.width) :
    Stage.groups config steps order
      = (List.range (levelCount order)).map (stepsAtDepth steps) := by
  have hlevels : levels steps order = (List.range (levelCount order)).map (stepsAtDepth steps) := by
    rw [levels_eq]
    exact List.map_congr_left fun k _ => level_eq hordered hnodup hperm k
  have hnarrow : (levels steps order).flatMap (narrow config.width) = levels steps order := by
    apply flatMap_narrow_eq_self
    intro group hgroup
    rw [hlevels] at hgroup
    obtain ⟨k, -, rfl⟩ := List.mem_map.mp hgroup
    exact hfits k
  unfold Stage.groups
  simp only [hmerge, hnarrow, Bool.false_eq_true, if_false]
  exact hlevels

end Groups

end Stage

/-! ### Tightness -/

open StepOrder (Orderable)

theorem getElem?_of_stages [CostNumber κ] {groups : List (List (CostedStep κ))} {i : Nat}
    {stage : Stage κ} (h : (groups.mapIdx Stage.of)[i]? = some stage) :
    groups[i]? = some stage.steps := by
  rw [← map_steps_stages groups, List.getElem?_map, h]
  rfl

/-- **Stages are tight.**  For steps that can be ordered: where stages are joined, two neighbours
together are wider than allowed, or some step of the later one waits for one of the earlier one;
where they are not joined and there are no more steps of any depth than allowed, stage `k` holds the
steps of depth `k` in the order in which they are listed, and no step is deeper. -/
theorem stages_tight [CostNumber κ] (config : StagingConfig) (h : Orderable steps) :
    ∃ plan : StagedPlan κ, StagedPlan.of config steps = .ok plan ∧
      (config.mergeStages = true →
        ∀ (i : Nat) (earlier later : Stage κ),
          plan.stages[i]? = some earlier → plan.stages[i + 1]? = some later →
          max 1 config.maxParallel < earlier.steps.length + later.steps.length ∨
            ∃ s ∈ later.steps, ∃ d ∈ s.dependsOn, d ∈ earlier.ids) ∧
      (config.mergeStages = false →
        (∀ k, (stepsAtDepth steps k).length ≤ max 1 config.maxParallel) →
        (∀ (k : Nat) (stage : Stage κ), plan.stages[k]? = some stage →
          stage.steps = stepsAtDepth steps k) ∧
          ∀ k, plan.stages.length ≤ k → stepsAtDepth steps k = []) := by
  obtain ⟨order, horder, hperm, hordered⟩ := h.exists_of_eq_ok
  have hnodup : (order.map (·.id)).Nodup := (hperm.map (·.id)).nodup_iff.mpr h.nodup
  have hwidth : max 1 config.maxParallel = config.width := Nat.max_comm _ _
  rw [hwidth]
  refine ⟨_, StagedPlan.of_eq_ok horder, ?_, ?_⟩
  · intro hmerge i earlier later hearlier hlater
    have hchain := List.isChain_iff_getElem.mp
      (@Stage.groups_isChain κ steps order _ config hmerge)
    obtain ⟨hi, heq⟩ := List.getElem?_eq_some_iff.mp (getElem?_of_stages hearlier)
    obtain ⟨hi', heq'⟩ := List.getElem?_eq_some_iff.mp (getElem?_of_stages hlater)
    have hapart := Stage.not_canJoin_iff.mp (hchain i hi')
    rw [heq, heq'] at hapart
    exact hapart
  · intro hmerge hfits
    have hgroups := Stage.groups_eq_levels hordered hnodup hperm hmerge hfits
    constructor
    · intro k stage hstage
      have hk := getElem?_of_stages hstage
      rw [hgroups, List.getElem?_map, Option.map_eq_some_iff] at hk
      obtain ⟨j, hj, heq⟩ := hk
      obtain ⟨hlt, hj⟩ := List.getElem?_eq_some_iff.mp hj
      rw [List.getElem_range] at hj
      rw [← heq, hj]
    · intro k hk
      have hlength : ((Stage.groups config steps order).mapIdx Stage.of).length
          = Stage.levelCount order := by
        simp [hgroups]
      apply Stage.stepsAtDepth_eq_nil hordered hnodup hperm
      rw [← hlength]
      exact hk

/-- With two steps at a time no neighbours of the diamond can be joined, since each waits for the
one in front; without joining, its stages are its depths. -/
theorem stages_tight_diamond :
    (∃ plan, StagedPlan.of { maxParallel := 2 } diamond = .ok plan ∧
      ∀ (i : Nat) (earlier later : Stage Binary64),
        plan.stages[i]? = some earlier → plan.stages[i + 1]? = some later →
        2 < earlier.steps.length + later.steps.length ∨
          ∃ s ∈ later.steps, ∃ d ∈ s.dependsOn, d ∈ earlier.ids) ∧
      ∃ plan, StagedPlan.of { mergeStages := false } diamond = .ok plan ∧
        ∀ (k : Nat) (stage : Stage Binary64), plan.stages[k]? = some stage →
          stage.steps = stepsAtDepth diamond k := by
  obtain ⟨joined, hjoined, hapart, -⟩ := stages_tight { maxParallel := 2 } orderable_diamond
  obtain ⟨plan, hplan, -, hlevels⟩ := stages_tight { mergeStages := false } orderable_diamond
  refine ⟨⟨joined, hjoined, hapart rfl⟩, plan, hplan, (hlevels rfl fun k => ?_).1⟩
  have hfour : (stepsAtDepth diamond k).length ≤ 4 := List.length_filter_le _ _
  exact hfour.trans (by decide)

end PropertyGraph
