import Mathlib.Data.List.Chain
import PropertyGraph.Proofs.Numeric.ExactSums
import PropertyGraph.Proofs.Staging.StagedPlan

/-!
# The critical path

A path (`IsPath`) is a chain of direct dependencies: each of its steps waits for the one before.
`critical_path_longest` says that, where sums of costs are exact, the critical path of a plan is a
path from a step that waits for nothing, that its costs come to the cost that is reported, and that
no path costs more.

The costliest chain that ends in a step is found from those that end in what it waits for.  It
describes a path (`exists_chain`), by induction along dependencies, and is at least as costly as any
path that ends in the step (`totalCost_le_of_chain`), by induction along the path from its end.
-/

namespace PropertyGraph

open Binary64 (ExactSums IsValue)

/-! ### Paths and their costs -/

/-- Steps of a list each of which waits for the one before. -/
structure IsPath {κ : Type} (steps path : List (CostedStep κ)) : Prop where
  mem : ∀ s ∈ path, s ∈ steps
  waits : path.IsChain fun s t => s.id ∈ t.dependsOn

/-- What steps cost together. -/
def totalCost (path : List (CostedStep Binary64)) : Rat := (path.map (·.cost.value)).sum

/-- Costs that are not negative and whose sums are exact. -/
structure ExactCosts (steps : List (CostedStep Binary64)) : Prop where
  finite : ∀ s ∈ steps, s.cost.isFinite = true
  nonneg : ∀ s ∈ steps, 0 ≤ s.cost.value
  exact : ExactSums (steps.map (·.cost))

section Paths

variable {κ : Type} {steps order path : List (CostedStep κ)} {s t : CostedStep κ}

theorem IsPath.nil : IsPath steps [] :=
  ⟨fun _ hs => (List.not_mem_nil hs).elim, List.isChain_nil⟩

theorem IsPath.singleton (hs : s ∈ steps) : IsPath steps [s] :=
  ⟨by simpa using hs, List.isChain_singleton s⟩

theorem IsPath.perm (h : IsPath steps path) (hperm : order.Perm steps) : IsPath order path :=
  ⟨fun s hs => hperm.symm.subset (h.mem s hs), h.waits⟩

theorem isPath_snoc_iff :
    IsPath steps (path ++ [t] ++ [s]) ↔
      IsPath steps (path ++ [t]) ∧ s ∈ steps ∧ t.id ∈ s.dependsOn := by
  constructor
  · rintro ⟨hmem, hwaits⟩
    obtain ⟨hfront, -, hlast⟩ := List.isChain_append.mp hwaits
    refine ⟨⟨fun u hu => hmem u (List.mem_append_left _ hu), hfront⟩, hmem s (by simp), ?_⟩
    exact hlast t (by simp) s (by simp)
  · rintro ⟨⟨hmem, hwaits⟩, hs, hwait⟩
    refine ⟨fun u hu => ?_, List.isChain_append.mpr ⟨hwaits, List.isChain_singleton s, ?_⟩⟩
    · rcases List.mem_append.mp hu with hu | hu
      · exact hmem u hu
      · exact List.mem_singleton.mp hu ▸ hs
    · simpa using hwait

/-- A path goes from step to deeper step, so it does not come to a step twice. -/
theorem IsPath.subperm (hpath : IsPath order path) (hordered : StepOrder.Ordered order)
    (hnodup : (order.map (·.id)).Nodup) : path.Subperm order := by
  let depth (s : CostedStep κ) : Nat := (StepOrder.depth? order s.id).getD 0
  have hdeeper : path.IsChain fun s t => depth s < depth t := by
    refine hpath.waits.imp_of_mem_imp fun s t _ ht hwait => ?_
    have ht : t ∈ order := hpath.mem t ht
    obtain ⟨k, hk⟩ :=
      Option.isSome_iff_exists.mp (StepOrder.depth?_isSome.mpr (List.mem_map_of_mem ht))
    obtain ⟨j, hj, hdepth⟩ := hordered.depth_lt hnodup ht hwait hk
    simpa only [depth, hk, hdepth, Option.getD_some] using hj
  have hsorted : (path.map depth).Pairwise (· < ·) :=
    List.isChain_iff_pairwise.mp ((List.isChain_map depth).mpr hdeeper)
  have hdistinct : path.Nodup := List.Nodup.of_map depth (hsorted.imp fun h => h.ne)
  exact List.subperm_of_subset hdistinct hpath.mem

end Paths

theorem totalCost_append (path others : List (CostedStep Binary64)) :
    totalCost (path ++ others) = totalCost path + totalCost others := by
  unfold totalCost
  rw [List.map_append, List.sum_append]

@[simp]
theorem totalCost_singleton (s : CostedStep Binary64) : totalCost [s] = s.cost.value := by
  unfold totalCost
  rw [List.map_singleton, List.sum_singleton]

section Costs

variable {steps path : List (CostedStep Binary64)}

theorem ExactCosts.totalCost_nonneg (hcosts : ExactCosts steps) (hmem : ∀ s ∈ path, s ∈ steps) :
    0 ≤ totalCost path := by
  refine List.sum_nonneg fun v hv => ?_
  obtain ⟨s, hs, rfl⟩ := List.mem_map.mp hv
  exact hcosts.nonneg s (hmem s hs)

theorem ExactCosts.isValue (hcosts : ExactCosts steps) (hsub : path.Subperm steps) :
    IsValue (totalCost path) := by
  obtain ⟨others, hperm, hsub⟩ := hsub
  have hvalue := hcosts.exact.isValue (hsub.map (·.cost)).subperm
  rw [List.map_map] at hvalue
  rwa [totalCost, ← (hperm.map (·.cost.value)).sum_eq]

end Costs

namespace StepOrder

open Binary64 (value_add)

/-! ### The costliest chains -/

/-- The costliest of some chains with a step behind it. -/
def extendCostliest {κ : Type} [CostNumber κ] (s : CostedStep κ) (before : List (Chain κ)) :
    Chain κ :=
  match CostNumber.lastMaximum? Chain.cost before with
  | some chain => ⟨chain.steps ++ [s.id], CostNumber.add s.cost chain.cost⟩
  | none => ⟨[s.id], CostNumber.add s.cost CostNumber.zero⟩

/-- The costliest chain that ends in the step of an identity. -/
def chain? (order : List (CostedStep Binary64)) (id : String) : Option (Chain Binary64) :=
  (chains order).lookup id

/-- A chain lists the steps of a path and has the cost of the path. -/
structure Chain.Describes (chain : Chain Binary64) (path : List (CostedStep Binary64)) : Prop where
  steps : chain.steps = path.map (·.id)
  finite : chain.cost.isFinite = true
  cost : chain.cost.value = totalCost path

section Ordered

variable {order path : List (CostedStep Binary64)} {s t : CostedStep Binary64}
variable {chain before : Chain Binary64}
variable (hordered : Ordered order) (hnodup : (order.map (·.id)).Nodup) (hcosts : ExactCosts order)
include hordered hnodup

/-- What the chain that ends in a step can be: the step alone, if it waits for nothing, or else the
costliest of the chains that end in what it waits for, with the step behind it. -/
theorem chain?_cases (hs : s ∈ order) :
    (s.dependsOn = [] ∧ chain? order s.id = some ⟨[s.id], s.cost.add .zero⟩) ∨
      ∃ t ∈ order, t.id ∈ s.dependsOn ∧ ∃ before, chain? order t.id = some before ∧
        chain? order s.id = some ⟨before.steps ++ [s.id], s.cost.add before.cost⟩ ∧
        ∀ d ∈ s.dependsOn, ∀ other, chain? order d = some other →
          other.cost.value ≤ before.cost.value := by
  have hchain : chain? order s.id
      = some (extendCostliest s (s.dependencies.filterMap (chain? order))) :=
    lookup_alongChains extendCostliest hordered hnodup hs
  have hmem : ∀ {d : String} {other : Chain Binary64}, d ∈ s.dependsOn →
      chain? order d = some other → other ∈ s.dependencies.filterMap (chain? order) :=
    fun hd hother => List.mem_filterMap.mpr ⟨_, mem_dependencies.mpr hd, hother⟩
  unfold extendCostliest at hchain
  cases hlast : CostNumber.lastMaximum? Chain.cost (s.dependencies.filterMap (chain? order)) with
  | none =>
    rw [hlast] at hchain
    refine Or.inl ⟨List.eq_nil_iff_forall_not_mem.mpr fun d hd => ?_, hchain⟩
    obtain ⟨other, hother⟩ := Option.isSome_iff_exists.mp
      ((lookup_alongChains_isSome extendCostliest).mpr (hordered.known hs hd))
    have hnone := hmem hd hother
    rw [(CostNumber.lastMaximum?_eq_none_iff _).mp hlast] at hnone
    exact List.not_mem_nil hnone
  | some before =>
    rw [hlast] at hchain
    obtain ⟨hbest, hmax⟩ := CostNumber.lastMaximum?_spec Chain.cost hlast
    obtain ⟨d, hd, hbefore⟩ := List.mem_filterMap.mp hbest
    have hd : d ∈ s.dependsOn := mem_dependencies.mp hd
    obtain ⟨t, ht, rfl⟩ := List.mem_map.mp (hordered.known hs hd)
    exact Or.inr ⟨t, ht, hd, before, hbefore, hchain,
      fun d hd other hother => hmax other (hmem hd hother)⟩

include hcosts

theorem Chain.describes_singleton (hs : s ∈ order) :
    Chain.Describes ⟨[s.id], s.cost.add .zero⟩ [s] := by
  have hvalue := hcosts.isValue ((IsPath.singleton hs).subperm hordered hnodup)
  rw [totalCost_singleton] at hvalue
  obtain ⟨hsum, hcost⟩ := value_add (hcosts.finite s hs) Binary64.isFinite_zero
    (by rwa [Binary64.value_zero, add_zero])
  rw [Binary64.value_zero, add_zero] at hcost
  exact ⟨rfl, hsum, hcost.trans (totalCost_singleton s).symm⟩

theorem Chain.Describes.snoc (hchain : chain.Describes (path ++ [t]))
    (hpath : IsPath order (path ++ [t] ++ [s])) :
    Chain.Describes ⟨chain.steps ++ [s.id], s.cost.add chain.cost⟩ (path ++ [t] ++ [s]) := by
  have htotal : s.cost.value + chain.cost.value = totalCost (path ++ [t] ++ [s]) := by
    rw [totalCost_append, hchain.cost, totalCost_singleton, add_comm]
  have hs : s ∈ order := (isPath_snoc_iff.mp hpath).2.1
  obtain ⟨hsum, hcost⟩ := value_add (hcosts.finite s hs) hchain.finite
    (htotal ▸ hcosts.isValue (hpath.subperm hordered hnodup))
  refine ⟨?_, hsum, hcost.trans htotal⟩
  rw [List.map_append, ← hchain.steps]
  rfl

/-- The chain that ends in a step describes a path that starts with a step without dependencies. -/
theorem exists_chain : ∀ s ∈ order, ∃ chain path, chain? order s.id = some chain ∧
    IsPath order (path ++ [s]) ∧ (∀ first ∈ (path ++ [s]).head?, first.dependsOn = []) ∧
    chain.Describes (path ++ [s]) := by
  refine hordered.induction hnodup fun s hs ih => ?_
  rcases chain?_cases hordered hnodup hs with
    ⟨hfree, hchain⟩ | ⟨t, ht, hwait, before, hbefore, hchain, -⟩
  · exact ⟨_, [], hchain, .singleton hs, by simpa using hfree,
      Chain.describes_singleton hordered hnodup hcosts hs⟩
  · obtain ⟨chain, path, hchain', hpath, hfirst, hdescribes⟩ := ih t ht hwait
    obtain rfl : chain = before := Option.some.inj (hchain'.symm.trans hbefore)
    have hpath' : IsPath order (path ++ [t] ++ [s]) := isPath_snoc_iff.mpr ⟨hpath, hs, hwait⟩
    refine ⟨_, path ++ [t], hchain, hpath', ?_, hdescribes.snoc hordered hnodup hcosts hpath'⟩
    rwa [List.head?_append_of_ne_nil _ (by simp)]

/-- The chain that ends in a step costs no less than the step behind the chain of a dependency. -/
theorem add_cost_le (hs : s ∈ order) (ht : t.id ∈ s.dependsOn)
    (hbefore : chain? order t.id = some before) (hchain : chain? order s.id = some chain) :
    before.cost.value + s.cost.value ≤ chain.cost.value := by
  rcases chain?_cases hordered hnodup hs with
    ⟨hfree, -⟩ | ⟨u, hu, hwait, best, hbest, hchain', hmax⟩
  · rw [hfree] at ht
    exact (List.not_mem_nil ht).elim
  · obtain ⟨best', path, hbest', hpath, -, hdescribes⟩ := exists_chain hordered hnodup hcosts u hu
    obtain rfl : best' = best := Option.some.inj (hbest'.symm.trans hbest)
    have hsnoc := hdescribes.snoc hordered hnodup hcosts (isPath_snoc_iff.mpr ⟨hpath, hs, hwait⟩)
    rw [Option.some.inj (hchain.symm.trans hchain'), hsnoc.cost, totalCost_append,
      totalCost_singleton, ← hdescribes.cost]
    exact add_le_add_left (hmax t.id ht before hbefore) _

/-- No path that ends in a step costs more than the chain that ends in it. -/
theorem totalCost_le_of_chain (hpath : IsPath order (path ++ [s]))
    (hchain : chain? order s.id = some chain) : totalCost (path ++ [s]) ≤ chain.cost.value := by
  induction path using List.reverseRecOn generalizing s chain with
  | nil =>
    obtain ⟨chain', front, hchain', hfront, -, hdescribes⟩ :=
      exists_chain hordered hnodup hcosts s (hpath.mem s (by simp))
    obtain rfl : chain' = chain := Option.some.inj (hchain'.symm.trans hchain)
    rw [hdescribes.cost, totalCost_append front, List.nil_append]
    have hnonneg := hcosts.totalCost_nonneg fun t ht => hfront.mem t (List.mem_append_left _ ht)
    exact le_add_of_nonneg_left hnonneg
  | append_singleton path t ih =>
    obtain ⟨hfront, hs, hwait⟩ := isPath_snoc_iff.mp hpath
    obtain ⟨before, -, hbefore, -⟩ :=
      exists_chain hordered hnodup hcosts t (hfront.mem t (by simp))
    calc totalCost (path ++ [t] ++ [s])
        = totalCost (path ++ [t]) + s.cost.value := by rw [totalCost_append, totalCost_singleton]
      _ ≤ before.cost.value + s.cost.value := add_le_add_left (ih hfront hbefore) _
      _ ≤ chain.cost.value := add_cost_le hordered hnodup hcosts hs hwait hbefore hchain

omit hordered hcosts in
/-- The costliest chain of all ends in some step, unless there are no steps. -/
theorem criticalChain_cases :
    order = [] ∧ criticalChain order = ⟨[], .zero⟩ ∨
      (∃ s ∈ order, chain? order s.id = some (criticalChain order)) ∧
        ∀ id chain, chain? order id = some chain →
          chain.cost.value ≤ (criticalChain order).cost.value := by
  unfold criticalChain
  cases hlast : CostNumber.lastMaximum? Chain.cost ((chains order).map (·.2)) with
  | none =>
    have hnil := (CostNumber.lastMaximum?_eq_none_iff _).mp hlast
    have hids := map_fst_alongChains extendCostliest order
    rw [show alongChains extendCostliest order = [] from List.map_eq_nil_iff.mp hnil] at hids
    exact Or.inl ⟨List.map_eq_nil_iff.mp hids.symm, rfl⟩
  | some best =>
    obtain ⟨hmem, hmax⟩ := CostNumber.lastMaximum?_spec Chain.cost hlast
    obtain ⟨⟨id, chain⟩, hpair, rfl⟩ := List.mem_map.mp hmem
    have hchain : chain? order id = some chain :=
      lookup_of_mem_alongChains extendCostliest hnodup hpair
    obtain ⟨s, hs, rfl⟩ := List.mem_map.mp
      ((lookup_alongChains_isSome extendCostliest).mp (Option.isSome_of_eq_some hchain))
    refine Or.inr ⟨⟨s, hs, hchain⟩, fun id other hother => hmax other ?_⟩
    obtain ⟨front, back, heq, -⟩ := List.lookup_eq_some_iff.mp hother
    exact List.mem_map.mpr ⟨(id, other), heq ▸ by simp, rfl⟩

/-- The costliest chain of all describes a path from a step without dependencies. -/
theorem exists_criticalPath : ∃ path, IsPath order path ∧
    (∀ first ∈ path.head?, first.dependsOn = []) ∧ (order ≠ [] → path ≠ []) ∧
    (criticalChain order).Describes path := by
  rcases criticalChain_cases hnodup with ⟨rfl, heq⟩ | ⟨⟨s, hs, hchain⟩, -⟩
  · refine ⟨[], .nil, nofun, fun h => (h rfl).elim, ?_⟩
    rw [heq]
    exact ⟨rfl, Binary64.isFinite_zero, Binary64.value_zero⟩
  · obtain ⟨chain, path, hchain', hpath, hfirst, hdescribes⟩ :=
      exists_chain hordered hnodup hcosts s hs
    obtain rfl : chain = criticalChain order := Option.some.inj (hchain'.symm.trans hchain)
    exact ⟨path ++ [s], hpath, hfirst, fun _ => by simp, hdescribes⟩

/-- No path costs more than the costliest chain of all. -/
theorem totalCost_le_criticalChain (hpath : IsPath order path) :
    totalCost path ≤ (criticalChain order).cost.value := by
  induction path using List.reverseRecOn with
  | nil =>
    obtain ⟨critical, hcritical, -, -, hdescribes⟩ := exists_criticalPath hordered hnodup hcosts
    rw [hdescribes.cost]
    exact hcosts.totalCost_nonneg hcritical.mem
  | append_singleton front s _ =>
    obtain ⟨chain, -, hchain, -⟩ := exists_chain hordered hnodup hcosts s (hpath.mem s (by simp))
    have hle := totalCost_le_of_chain hordered hnodup hcosts hpath hchain
    rcases criticalChain_cases hnodup with ⟨rfl, -⟩ | ⟨-, hmax⟩
    · cases hchain
    · exact hle.trans (hmax s.id chain hchain)

end Ordered

end StepOrder

/-! ### The critical path of a plan -/

open StepOrder (Orderable)

section Perm

variable {steps order : List (CostedStep Binary64)}

theorem ExactCosts.perm (h : ExactCosts steps) (hperm : order.Perm steps) : ExactCosts order where
  finite s hs := h.finite s (hperm.subset hs)
  nonneg s hs := h.nonneg s (hperm.subset hs)
  exact := by
    refine h.exact.perm (fun x hx => ?_) (hperm.map _)
    obtain ⟨s, hs, rfl⟩ := List.mem_map.mp hx
    exact h.finite s hs

/-- Costs are exact if they are whole numbers that come to less than `2 ^ 53`. -/
theorem exactCosts_of_eq_ofNat {ns : List Nat} (hns : steps.map (·.cost) = ns.map .ofNat)
    (hsum : ns.sum < 2 ^ 53) : ExactCosts steps := by
  have hwhole : ∀ s ∈ steps, ∃ n : Nat, s.cost.isFinite = true ∧ s.cost.value = n := by
    intro s hs
    have hcost : s.cost ∈ ns.map .ofNat := hns ▸ List.mem_map_of_mem hs
    obtain ⟨n, hn, heq⟩ := List.mem_map.mp hcost
    obtain ⟨hfinite, hvalue⟩ :=
      Binary64.ofNat_spec ((List.single_le_sum (fun _ _ => Nat.zero_le _) n hn).trans_lt hsum)
    exact ⟨n, heq ▸ hfinite, heq ▸ hvalue⟩
  refine ⟨fun s hs => ?_, fun s hs => ?_, hns ▸ Binary64.exactSums_ofNat hsum⟩
  · obtain ⟨n, hfinite, -⟩ := hwhole s hs
    exact hfinite
  · obtain ⟨n, -, hvalue⟩ := hwhole s hs
    exact hvalue ▸ Nat.cast_nonneg n

end Perm

/-- **The critical path is a longest path.**  For steps that can be ordered, with costs that are not
negative and whose sums are exact, it starts with a step that waits for nothing, each further step
on it waits for the one before, its costs come to the cost of the critical path, and no other chain
of direct dependencies costs more. -/
theorem critical_path_longest (config : StagingConfig) {steps : List (CostedStep Binary64)}
    (h : Orderable steps) (hcosts : ExactCosts steps) :
    ∃ plan, StagedPlan.of config steps = .ok plan ∧
      (∃ path, IsPath steps path ∧ plan.criticalPath = path.map (·.id) ∧
        (∀ first ∈ path.head?, first.dependsOn = []) ∧ (steps ≠ [] → path ≠ []) ∧
        plan.metrics.criticalPathCost.isFinite = true ∧
        plan.metrics.criticalPathCost.value = totalCost path) ∧
      ∀ path, IsPath steps path → totalCost path ≤ plan.metrics.criticalPathCost.value := by
  obtain ⟨order, horder, hperm, hordered⟩ := h.exists_of_eq_ok
  have hnodup : (order.map (·.id)).Nodup := (hperm.map (·.id)).nodup_iff.mpr h.nodup
  have hcosts' : ExactCosts order := hcosts.perm hperm
  obtain ⟨path, hpath, hfirst, hne, hdescribes⟩ :=
    StepOrder.exists_criticalPath hordered hnodup hcosts'
  refine ⟨_, StagedPlan.of_eq_ok horder, ⟨path, hpath.perm hperm.symm, hdescribes.steps, hfirst, ?_,
    hdescribes.finite, hdescribes.cost⟩, fun other hother => ?_⟩
  · exact fun hsteps => hne fun hnil => hsteps (List.Perm.nil_eq (hnil ▸ hperm)).symm
  · exact StepOrder.totalCost_le_criticalChain hordered hnodup hcosts' (hother.perm hperm)

theorem orderable_diamond : Orderable diamond :=
  StepOrder.orderable_of_toBool (by decide +kernel)

theorem exactCosts_diamond : ExactCosts diamond :=
  @exactCosts_of_eq_ofNat diamond [10, 5, 20, 1] rfl (by decide)

/-- The critical path costs no less than the way through the step on the right. -/
theorem critical_path_diamond :
    ∃ plan, StagedPlan.of {} diamond = .ok plan ∧ plan.criticalPath ≠ [] ∧
      31 ≤ plan.metrics.criticalPathCost.value := by
  obtain ⟨plan, hplan, ⟨path, -, hsteps, -, hne, -⟩, hlongest⟩ :=
    critical_path_longest {} orderable_diamond exactCosts_diamond
  refine ⟨plan, hplan, ?_, ?_⟩
  · rw [hsteps]
    exact fun hnil => hne (List.cons_ne_nil _ _) (List.map_eq_nil_iff.mp hnil)
  · let right : List (CostedStep Binary64) := [⟨"load", .ofNat 10, []⟩,
      ⟨"right", .ofNat 20, ["load"]⟩, ⟨"join", .ofNat 1, ["left", "right"]⟩]
    have hright : IsPath diamond right := ⟨by simp [right, diamond], by simp [right]⟩
    have hcost : totalCost right = 31 := by
      simp only [totalCost, right, List.map_cons, List.map_nil, List.sum_cons, List.sum_nil,
        (Binary64.ofNat_spec (show 10 < 2 ^ 53 by decide)).2,
        (Binary64.ofNat_spec (show 20 < 2 ^ 53 by decide)).2,
        (Binary64.ofNat_spec (show 1 < 2 ^ 53 by decide)).2]
      norm_num
    exact hcost ▸ hlongest right hright

end PropertyGraph
