import PropertyGraph.Proofs.Staging.Order
import PropertyGraph.Staging.Stage

/-!
# Groups of steps

Groups of steps are `Layered` if the steps of each wait only for steps of the groups in front of it.
Grouping by depth gives layered groups (`layered_levels`), and cutting wide groups and joining small
ones keeps them so (`Layered.narrow`, `Layered.joinOnto`).  `groups_spec` puts this together: the
groups hold each step once, none is empty or too wide, and they are layered.
-/

namespace PropertyGraph.Stage

open StepOrder (depth? depths Ordered Orderable)

variable {κ : Type} {finished finished' : List String}
variable {steps order group : List (CostedStep κ)} {groups rest : List (List (CostedStep κ))}

/-! ### Layers -/

/-- The steps of each group are ready behind the finished ones and the groups in front. -/
def Layered : List String → List (List (CostedStep κ)) → Prop
  | _, [] => True
  | finished, group :: rest =>
    (∀ s ∈ group, s.isReady finished) ∧ Layered (finished ++ group.map (·.id)) rest

theorem Layered.mono (h : Layered finished groups) (hle : ∀ d ∈ finished, d ∈ finished') :
    Layered finished' groups := by
  induction groups generalizing finished finished' with
  | nil => trivial
  | cons group rest ih =>
    obtain ⟨hready, hrest⟩ := h
    refine ⟨fun s hs => CostedStep.isReady_mono (hready s hs) hle, ih hrest fun d hd => ?_⟩
    rcases List.mem_append.mp hd with hd | hd
    · exact List.mem_append_left _ (hle d hd)
    · exact List.mem_append_right _ hd

/-- Groups that are ready at once may stand in any way in front of the others. -/
theorem Layered.append (hready : ∀ group ∈ groups, ∀ s ∈ group, s.isReady finished)
    (hrest : Layered (finished ++ groups.flatten.map (·.id)) rest) :
    Layered finished (groups ++ rest) := by
  induction groups generalizing finished with
  | nil => simpa using hrest
  | cons group groups ih =>
    refine ⟨hready group List.mem_cons_self, ih (fun other hother s hs => ?_) ?_⟩
    · exact CostedStep.isReady_mono (hready other (List.mem_cons_of_mem _ hother) s hs)
        fun d hd => List.mem_append_left _ hd
    · rw [List.append_assoc, ← List.map_append]
      exact hrest

/-- In layers a step waits only for what is finished or in a group in front of its own. -/
theorem Layered.exists_earlier (h : Layered finished groups) {i : Nat}
    {group : List (CostedStep κ)} (hi : groups[i]? = some group) {s : CostedStep κ} (hs : s ∈ group)
    {d : String} (hd : d ∈ s.dependsOn) :
    d ∈ finished ∨ ∃ j < i, ∃ earlier, groups[j]? = some earlier ∧ d ∈ earlier.map (·.id) := by
  induction groups generalizing finished i with
  | nil => cases hi
  | cons first rest ih =>
    obtain ⟨hfirst, hrest⟩ := h
    cases i with
    | zero =>
      obtain rfl := Option.some.inj hi
      exact Or.inl (CostedStep.isReady_iff.mp (hfirst s hs) d hd)
    | succ i =>
      rcases ih hrest hi with hd | ⟨j, hj, earlier, hearlier, hd⟩
      · rcases List.mem_append.mp hd with hd | hd
        · exact Or.inl hd
        · exact Or.inr ⟨0, Nat.succ_pos i, first, rfl, hd⟩
      · exact Or.inr ⟨j + 1, Nat.succ_lt_succ hj, earlier, hearlier, hd⟩

/-- Groups are layered where steps wait only for what is finished or in a group in front. -/
theorem layered_iff :
    Layered finished groups ↔
      ∀ (i : Nat) (group : List (CostedStep κ)), groups[i]? = some group →
        ∀ s ∈ group, ∀ d ∈ s.dependsOn, d ∈ finished ∨
          ∃ j < i, ∃ earlier, groups[j]? = some earlier ∧ d ∈ earlier.map (·.id) := by
  refine ⟨fun h i group hi s hs d hd => h.exists_earlier hi hs hd, fun h => ?_⟩
  induction groups generalizing finished with
  | nil => trivial
  | cons first rest ih =>
    refine ⟨fun s hs => ?_, ih fun i group hi s hs d hd => ?_⟩
    · refine CostedStep.isReady_iff.mpr fun d hd => ?_
      rcases h 0 first rfl s hs d hd with hd | ⟨j, hj, -⟩
      · exact hd
      · exact absurd hj (Nat.not_lt_zero j)
    · rcases h (i + 1) group hi s hs d hd with hd | ⟨j, hj, earlier, hearlier, hd⟩
      · exact Or.inl (List.mem_append_left _ hd)
      · cases j with
        | zero =>
          obtain rfl := Option.some.inj hearlier
          exact Or.inl (List.mem_append_right _ hd)
        | succ j => exact Or.inr ⟨j, Nat.lt_of_succ_lt_succ hj, earlier, hearlier, hd⟩

/-! ### Grouping by depth -/

/-- The steps of a depth. -/
def level (steps order : List (CostedStep κ)) (k : Nat) : List (CostedStep κ) :=
  steps.filter fun s => depth? order s.id == some k

/-- The number of depths. -/
def levelCount (order : List (CostedStep κ)) : Nat := ((depths order).map (·.2 + 1)).foldl max 0

theorem levels_eq (steps order : List (CostedStep κ)) :
    levels steps order = (List.range (levelCount order)).map (level steps order) :=
  rfl

theorem mem_level {k : Nat} {s : CostedStep κ} :
    s ∈ level steps order k ↔ s ∈ steps ∧ depth? order s.id = some k := by
  unfold level
  rw [List.mem_filter, beq_iff_eq]

theorem lt_levelCount {k : Nat} {id : String} (h : depth? order id = some k) :
    k < levelCount order := by
  obtain ⟨front, back, heq, -⟩ := List.lookup_eq_some_iff.mp h
  refine StepOrder.le_foldl_max (List.mem_map.mpr ⟨(id, k), ?_, rfl⟩)
  rw [heq]
  exact List.mem_append_right _ List.mem_cons_self

/-- Elements that have a number below a bound, by their numbers. -/
theorem flatten_filter_perm {α : Type} (number? : α → Option Nat) (xs : List α) (n : Nat) :
    ((List.range n).map fun k => xs.filter fun x => number? x == some k).flatten.Perm
      (xs.filter fun x => (number? x).any (· < n)) := by
  induction n with
  | zero =>
    have hnone : ∀ x ∈ xs, ¬ (number? x).any (· < 0) := by simp
    rw [List.filter_eq_nil_iff.mpr hnone]
    exact List.Perm.refl _
  | succ n ih =>
    rw [List.range_succ, List.map_append, List.flatten_append, List.map_singleton,
      List.flatten_singleton]
    -- the numbers below `n + 1` are those below `n` and `n` itself
    have hsplit := List.filter_append_perm (fun x => (number? x).any (· < n))
      (xs.filter fun x => (number? x).any (· < n + 1))
    rw [List.filter_filter, List.filter_filter] at hsplit
    refine ((ih.append_right _).trans ?_).trans hsplit
    have hbelow : (xs.filter fun x => (number? x).any (· < n))
        = xs.filter fun x => (number? x).any (· < n) && (number? x).any (· < n + 1) := by
      refine List.filter_congr fun x _ => ?_
      cases number? x with
      | none => rfl
      | some k =>
        simp only [Option.any_some, ← Bool.decide_and]
        exact decide_eq_decide.mpr (by omega)
    have hlast : (xs.filter fun x => number? x == some n)
        = xs.filter fun x => !(number? x).any (· < n) && (number? x).any (· < n + 1) := by
      refine List.filter_congr fun x _ => ?_
      cases number? x with
      | none => rfl
      | some k =>
        simp only [Option.any_some, ← decide_not, ← Bool.decide_and]
        rw [show (some k == some n) = decide (k = n) from rfl]
        exact decide_eq_decide.mpr (by omega)
    rw [hbelow, hlast]

theorem levels_perm (hknown : ∀ s ∈ steps, s.id ∈ order.map (·.id)) :
    (levels steps order).flatten.Perm steps := by
  rw [levels_eq]
  refine (flatten_filter_perm (fun s => depth? order s.id) steps _).trans ?_
  rw [List.filter_eq_self.mpr]
  intro s hs
  obtain ⟨k, hk⟩ := Option.isSome_iff_exists.mp (StepOrder.depth?_isSome.mpr (hknown s hs))
  rw [hk]
  exact decide_eq_true (lt_levelCount hk)

/-- Some step is the deepest. -/
theorem exists_deepest (hnodup : (order.map (·.id)).Nodup) (hpos : 0 < levelCount order) :
    ∃ s ∈ order, depth? order s.id = some (levelCount order - 1) := by
  have hne : (depths order).map (·.2 + 1) ≠ [] := by
    intro hnil
    unfold levelCount at hpos
    rw [hnil] at hpos
    exact Nat.not_lt_zero _ hpos
  obtain ⟨⟨id, k⟩, hmem, heq⟩ := List.mem_map.mp (StepOrder.foldl_max_mem hne)
  have hk : depth? order id = some k := StepOrder.lookup_of_mem_alongChains _ hnodup hmem
  obtain ⟨s, hs, rfl⟩ := List.mem_map.mp (StepOrder.depth?_isSome.mp (Option.isSome_of_eq_some hk))
  refine ⟨s, hs, hk.trans (congrArg some ?_)⟩
  unfold levelCount
  rw [← heq]
  rfl

/-- No depth is left out: from the deepest step on, each has a step of the depth before. -/
theorem exists_of_depth (hordered : Ordered order) (hnodup : (order.map (·.id)).Nodup) (n : Nat)
    (hn : n < levelCount order) :
    ∃ s ∈ order, depth? order s.id = some (levelCount order - 1 - n) := by
  induction n with
  | zero => exact exists_deepest hnodup hn
  | succ n ih =>
    obtain ⟨s, hs, hdepth⟩ := ih (Nat.lt_of_succ_lt hn)
    rw [show levelCount order - 1 - n = levelCount order - 1 - (n + 1) + 1 by omega] at hdepth
    obtain ⟨d, -, hd⟩ := hordered.exists_depth_eq hnodup hs hdepth
    obtain ⟨t, ht, rfl⟩ :=
      List.mem_map.mp (StepOrder.depth?_isSome.mp (Option.isSome_of_eq_some hd))
    exact ⟨t, ht, hd⟩

theorem ne_nil_of_mem_levels (hordered : Ordered order) (hnodup : (order.map (·.id)).Nodup)
    (hsteps : ∀ s ∈ order, s ∈ steps) (h : group ∈ levels steps order) : group ≠ [] := by
  rw [levels_eq] at h
  obtain ⟨k, hk, rfl⟩ := List.mem_map.mp h
  rw [List.mem_range] at hk
  obtain ⟨s, hs, hdepth⟩ := exists_of_depth hordered hnodup (levelCount order - 1 - k) (by omega)
  rw [show levelCount order - 1 - (levelCount order - 1 - k) = k by omega] at hdepth
  exact List.ne_nil_of_mem (mem_level.mpr ⟨hsteps s hs, hdepth⟩)

/-- What the steps of a depth wait for is less deep, so the levels from a depth on are layered behind
all that is less deep. -/
theorem layered_levels_from (hordered : Ordered order) (hnodup : (order.map (·.id)).Nodup)
    (hperm : order.Perm steps) (k n : Nat)
    (hfinished : ∀ d j, j < k → depth? order d = some j → d ∈ finished) :
    Layered finished ((List.range' k n).map (level steps order)) := by
  induction n generalizing k finished with
  | zero => trivial
  | succ n ih =>
    rw [List.range'_succ, List.map_cons]
    refine ⟨fun s hs => ?_, ih (k + 1) fun d j hj hd => ?_⟩
    · -- what a step of depth `k` waits for is less deep, so it is finished
      obtain ⟨hmem, hk⟩ := mem_level.mp hs
      refine CostedStep.isReady_iff.mpr fun d hd => ?_
      obtain ⟨j, hj, hdepth⟩ := hordered.depth_lt hnodup (hperm.symm.subset hmem) hd hk
      exact hfinished d j hj hdepth
    · rcases Nat.lt_succ_iff_lt_or_eq.mp hj with hlt | rfl
      · exact List.mem_append_left _ (hfinished d j hlt hd)
      · obtain ⟨s, hs, rfl⟩ :=
          List.mem_map.mp (StepOrder.depth?_isSome.mp (Option.isSome_of_eq_some hd))
        exact List.mem_append_right _ (List.mem_map_of_mem (mem_level.mpr ⟨hperm.subset hs, hd⟩))

theorem layered_levels (hordered : Ordered order) (hnodup : (order.map (·.id)).Nodup)
    (hperm : order.Perm steps) : Layered [] (levels steps order) := by
  rw [levels_eq, List.range_eq_range']
  refine layered_levels_from hordered hnodup hperm 0 _ fun d j hj => ?_
  exact absurd hj (Nat.not_lt_zero j)

/-! ### Cutting wide groups -/

theorem flatten_pieces {α : Type} (n : Nat) (xs : List α) : (pieces n xs).flatten = xs := by
  induction xs using pieces.induct n with
  | case1 => simp [pieces]
  | case2 x rest ih =>
    rw [pieces, List.flatten_cons, ih, List.cons_append, List.take_append_drop]

theorem of_mem_pieces {α : Type} {n : Nat} {xs piece : List α} (h : piece ∈ pieces n xs) :
    piece ≠ [] ∧ piece.length ≤ n + 1 := by
  induction xs using pieces.induct n with
  | case1 => simp [pieces] at h
  | case2 x rest ih =>
    rw [pieces, List.mem_cons] at h
    rcases h with rfl | h
    · refine ⟨List.cons_ne_nil _ _, ?_⟩
      rw [List.length_cons, List.length_take]
      omega
    · exact ih h

section Narrow

variable [CostNumber κ] {limit : Nat}

theorem flatten_narrow_perm (limit : Nat) (group : List (CostedStep κ)) :
    (narrow limit group).flatten.Perm group := by
  unfold narrow
  split_ifs
  · rw [List.flatten_singleton]
  · rw [flatten_pieces]
    exact stableSort_perm _ group

theorem of_mem_narrow (hlimit : 0 < limit) (hgroup : group ≠ []) {piece : List (CostedStep κ)}
    (h : piece ∈ narrow limit group) : piece ≠ [] ∧ piece.length ≤ limit := by
  unfold narrow at h
  split_ifs at h with hfits
  · obtain rfl := List.mem_singleton.mp h
    exact ⟨hgroup, hfits⟩
  · obtain ⟨hne, hle⟩ := of_mem_pieces h
    exact ⟨hne, by omega⟩

theorem flatten_flatMap_narrow_perm (limit : Nat) (groups : List (List (CostedStep κ))) :
    (groups.flatMap (narrow limit)).flatten.Perm groups.flatten := by
  induction groups with
  | nil => exact List.Perm.refl _
  | cons group rest ih =>
    rw [List.flatMap_cons, List.flatten_append, List.flatten_cons]
    exact (flatten_narrow_perm limit group).append ih

/-- Cutting groups keeps layers: the pieces of a group are ready when the group is. -/
theorem Layered.narrow (limit : Nat) (h : Layered finished groups) :
    Layered finished (groups.flatMap (narrow limit)) := by
  induction groups generalizing finished with
  | nil => trivial
  | cons group rest ih =>
    obtain ⟨hready, hrest⟩ := h
    have hperm := flatten_narrow_perm limit group
    rw [List.flatMap_cons]
    refine Layered.append (fun piece hpiece s hs => ?_) (ih (hrest.mono fun d hd => ?_))
    · exact hready s (hperm.subset (List.mem_flatten_of_mem hpiece hs))
    · rcases List.mem_append.mp hd with hd | hd
      · exact List.mem_append_left _ hd
      · exact List.mem_append_right _ ((hperm.map (·.id)).symm.subset hd)

end Narrow

/-! ### Joining small groups -/

section Join

variable {limit : Nat} {current : List (CostedStep κ)}

theorem flatten_joinOnto (limit : Nat) (current : List (CostedStep κ))
    (groups : List (List (CostedStep κ))) :
    (joinOnto limit current groups).flatten = current ++ groups.flatten := by
  induction groups generalizing current with
  | nil => simp [joinOnto]
  | cons next rest ih =>
    unfold joinOnto
    split_ifs
    · rw [ih, List.flatten_cons, List.append_assoc]
    · rw [List.flatten_cons, ih, List.flatten_cons]

theorem flatten_joinAdjacent (limit : Nat) (groups : List (List (CostedStep κ))) :
    (joinAdjacent limit groups).flatten = groups.flatten := by
  cases groups with
  | nil => rfl
  | cons first rest => exact flatten_joinOnto limit first rest

theorem canJoin_iff {next : List (CostedStep κ)} :
    canJoin limit current next ↔ current.length + next.length ≤ limit ∧
      ∀ s ∈ next, ∀ d ∈ s.dependsOn, d ∉ current.map (·.id) := by
  unfold canJoin
  rw [Bool.and_eq_true, decide_eq_true_eq, List.all_eq_true]
  simp only [List.all_eq_true, Bool.not_eq_true', List.contains_eq_mem, decide_eq_false_iff_not]

theorem of_mem_joinOnto (hcurrent : current ≠ [] ∧ current.length ≤ limit)
    (hgroups : ∀ group ∈ groups, group ≠ [] ∧ group.length ≤ limit)
    (h : group ∈ joinOnto limit current groups) : group ≠ [] ∧ group.length ≤ limit := by
  induction groups generalizing current with
  | nil =>
    obtain rfl := List.mem_singleton.mp h
    exact hcurrent
  | cons next rest ih =>
    rw [List.forall_mem_cons] at hgroups
    unfold joinOnto at h
    split_ifs at h with hjoin
    · refine ih ⟨?_, ?_⟩ hgroups.2 h
      · exact List.append_ne_nil_of_left_ne_nil hcurrent.1 next
      · rw [List.length_append]
        exact (canJoin_iff.mp hjoin).1
    · rcases List.mem_cons.mp h with rfl | h
      · exact hcurrent
      · exact ih hgroups.1 hgroups.2 h

/-- Joining groups keeps layers: a group that is joined does not wait for the one that it joins. -/
theorem Layered.joinOnto (h : Layered finished (current :: groups)) :
    Layered finished (joinOnto limit current groups) := by
  induction groups generalizing current finished with
  | nil => exact h
  | cons next rest ih =>
    obtain ⟨hcurrent, hnext, hrest⟩ := h
    unfold Stage.joinOnto
    split_ifs with hjoin
    · -- the steps that join are ready without the group that they join
      refine ih ⟨fun s hs => ?_, ?_⟩
      · rcases List.mem_append.mp hs with hs | hs
        · exact hcurrent s hs
        · refine CostedStep.isReady_iff.mpr fun d hd => ?_
          refine (List.mem_append.mp (CostedStep.isReady_iff.mp (hnext s hs) d hd)).resolve_right ?_
          exact (canJoin_iff.mp hjoin).2 s hs d hd
      · rw [List.map_append, ← List.append_assoc]
        exact hrest
    · exact ⟨hcurrent, ih ⟨hnext, hrest⟩⟩

theorem of_mem_joinAdjacent (hgroups : ∀ group ∈ groups, group ≠ [] ∧ group.length ≤ limit)
    (h : group ∈ joinAdjacent limit groups) : group ≠ [] ∧ group.length ≤ limit := by
  cases groups with
  | nil => exact (List.not_mem_nil h).elim
  | cons first rest =>
    rw [List.forall_mem_cons] at hgroups
    exact of_mem_joinOnto hgroups.1 hgroups.2 h

theorem Layered.joinAdjacent (h : Layered finished groups) :
    Layered finished (joinAdjacent limit groups) := by
  cases groups with
  | nil => exact h
  | cons first rest => exact h.joinOnto

end Join

/-! ### The groups of a plan -/

/-- What the groups of steps that can be ordered are like. -/
theorem groups_spec [CostNumber κ] (config : StagingConfig) (hordered : Ordered order)
    (hnodup : (steps.map (·.id)).Nodup) (hperm : order.Perm steps) :
    (Stage.groups config steps order).flatten.Perm steps ∧
      (∀ group ∈ Stage.groups config steps order,
        group ≠ [] ∧ group.length ≤ max 1 config.maxParallel) ∧
      Layered [] (Stage.groups config steps order) := by
  have hids : (order.map (·.id)).Nodup := ((hperm.map (·.id)).nodup_iff).mpr hnodup
  have hwidth : config.width = max 1 config.maxParallel := Nat.max_comm _ _
  set narrowed := (levels steps order).flatMap (narrow config.width) with hnarrowed
  have hflat : narrowed.flatten.Perm steps := by
    refine (flatten_flatMap_narrow_perm _ _).trans (levels_perm fun s hs => ?_)
    exact List.mem_map_of_mem (hperm.symm.subset hs)
  have hfit : ∀ group ∈ narrowed, group ≠ [] ∧ group.length ≤ config.width := by
    intro piece hpiece
    obtain ⟨group, hgroup, hpiece⟩ := List.mem_flatMap.mp hpiece
    have hne := ne_nil_of_mem_levels hordered hids (fun s hs => hperm.subset hs) hgroup
    exact of_mem_narrow (by rw [hwidth]; omega) hne hpiece
  have hlayered : Layered [] narrowed := (layered_levels hordered hids hperm).narrow config.width
  rw [← hwidth]
  unfold Stage.groups
  split_ifs
  · rw [← hnarrowed, flatten_joinAdjacent]
    exact ⟨hflat, fun group hgroup => of_mem_joinAdjacent hfit hgroup, hlayered.joinAdjacent⟩
  · exact ⟨hflat, hfit, hlayered⟩

end PropertyGraph.Stage
