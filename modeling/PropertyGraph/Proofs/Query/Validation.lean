import PropertyGraph.Proofs.Query.Optimization
import PropertyGraph.Query.Record
import PropertyGraph.Regex.Parser

/-!
# Valid plans

A plan is `Faultless` if there is nothing wrong with any of its steps; checking it finds errors in
its steps exactly where it is not (`errors_eq_nil_iff`).  Query records are read to faultless plans
(`ofRecord_faultless`), since the readers of the clauses refuse what the check of a step would
complain of, and optimizing keeps plans faultless and makes them no deeper (`Faultless.optimize`,
`depth_optimize_le`).
-/

namespace PropertyGraph

section AnyEngine

variable {ρ : Type} [RegexEngine ρ]

/-! ### Faultless plans -/

/-- Nothing is wrong with a step that has a number of inputs. -/
structure PlanStep.Faultless (step : PlanStep) (inputs : Nat) : Prop where
  arity : step.arityFaults inputs = []
  config : step.configFaults = []

namespace PlanTree

theorem everywhere_node_iff {P : PlanStep → List PlanTree → Prop} {step : PlanStep}
    {inputs : List PlanTree} :
    Everywhere P (.node step inputs) ↔ P step inputs ∧ ∀ t ∈ inputs, Everywhere P t :=
  ⟨fun h => by cases h with | node hroot hinputs => exact ⟨hroot, hinputs⟩,
    fun h => .node h.1 h.2⟩

/-- Nothing is wrong with any step. -/
def Faultless (t : PlanTree) : Prop :=
  t.Everywhere fun step inputs => step.Faultless inputs.length

theorem faultless_node_iff {step : PlanStep} {inputs : List PlanTree} :
    (PlanTree.node step inputs).Faultless ↔
      step.Faultless inputs.length ∧ ∀ t ∈ inputs, t.Faultless :=
  everywhere_node_iff

theorem nodeErrors_eq_nil_iff (step : PlanStep) (inputs : List PlanTree) (level : Nat) :
    nodeErrors (.node step inputs, level) = [] ↔ step.Faultless inputs.length := by
  unfold nodeErrors
  rw [List.map_eq_nil_iff, List.append_eq_nil_iff]
  exact ⟨fun h => ⟨h.1, h.2⟩, fun h => ⟨h.arity, h.config⟩⟩

theorem mem_preorderOfAll {ts : List PlanTree} {level : Nat} {n : PlanTree × Nat} :
    n ∈ preorderOfAll level ts ↔ ∃ t ∈ ts, n ∈ t.preorder level := by
  induction ts with
  | nil => simp [preorderOfAll]
  | cons t rest ih => rw [preorderOfAll, List.mem_append, ih, List.exists_mem_cons_iff]

/-- The nodes of a plan have no errors where nothing is wrong with its steps. -/
theorem nodes_faultless_iff (t : PlanTree) :
    ∀ level, (∀ n ∈ t.preorder level, nodeErrors n = []) ↔ t.Faultless := by
  induction t using induction with
  | node step inputs ih =>
    intro level
    have hinputs : (∀ n ∈ preorderOfAll (level + 1) inputs, nodeErrors n = []) ↔
        ∀ t ∈ inputs, t.Faultless := by
      constructor
      · intro h t ht
        exact (ih t ht (level + 1)).mp fun n hn => h n (mem_preorderOfAll.mpr ⟨t, ht, hn⟩)
      · intro h n hn
        obtain ⟨t, ht, hn⟩ := mem_preorderOfAll.mp hn
        exact (ih t ht (level + 1)).mpr (h t ht) n hn
    rw [preorder, List.forall_mem_cons, nodeErrors_eq_nil_iff, hinputs, faultless_node_iff]

theorem errors_eq (t : PlanTree) (maxDepth : Nat) :
    (t.validate maxDepth).errors
      = (if maxDepth < t.depth then [.queryTooDeep t.depth maxDepth] else [])
        ++ t.nodes.flatMap nodeErrors :=
  rfl

/-- All that can be wrong with a faultless plan is its depth. -/
theorem Faultless.errors {t : PlanTree} (h : t.Faultless) (maxDepth : Nat) :
    (t.validate maxDepth).errors
      = if maxDepth < t.depth then [.queryTooDeep t.depth maxDepth] else [] := by
  have hnodes : t.nodes.flatMap nodeErrors = [] :=
    List.flatMap_eq_nil_iff.mpr ((nodes_faultless_iff t 0).mpr h)
  rw [errors_eq, hnodes, List.append_nil]

/-- There are no errors in a plan that is faultless and not too deep. -/
theorem errors_eq_nil_iff (t : PlanTree) (maxDepth : Nat) :
    (t.validate maxDepth).errors = [] ↔ t.depth ≤ maxDepth ∧ t.Faultless := by
  rw [errors_eq, List.append_eq_nil_iff, List.flatMap_eq_nil_iff]
  refine and_congr ?_ (nodes_faultless_iff t 0)
  simp

/-- Only a selection has no input, and all other steps have one. -/
theorem arityFaults_eq_nil_iff {step : PlanStep} (h : step.kind ≠ .select) (inputs : Nat) :
    step.arityFaults inputs = [] ↔ inputs = 1 := by
  match inputs with
  | 0 => cases step <;> simp_all [PlanStep.arityFaults, PlanStep.kind]
  | 1 => cases step <;> simp_all [PlanStep.arityFaults, PlanStep.kind]
  | n + 2 => cases step <;> simp_all [PlanStep.arityFaults, PlanStep.kind]

/-! ### Plans of records -/

theorem Faultless.leaf {selector : Selector}
    (h : (PlanStep.select selector).configFaults = []) :
    (PlanTree.leaf (.select selector)).Faultless :=
  faultless_node_iff.mpr ⟨⟨rfl, h⟩, fun _ ht => (List.not_mem_nil ht).elim⟩

theorem Faultless.wrap {step : PlanStep} {input : PlanTree} (h : input.Faultless)
    (hkind : step.kind ≠ .select) (hconfig : step.configFaults = []) :
    (PlanTree.wrap step input).Faultless := by
  refine faultless_node_iff.mpr ⟨⟨(arityFaults_eq_nil_iff hkind 1).mpr rfl, hconfig⟩, ?_⟩
  intro t ht
  rw [List.mem_singleton.mp ht]
  exact h

end PlanTree

section Readers

variable {α β : Type}

theorem of_bind_eq_ok {read : Except Error α} {next : α → Except Error β} {b : β}
    (h : (read >>= next) = .ok b) : ∃ a, read = .ok a ∧ next a = .ok b := by
  cases read with
  | error e => cases h
  | ok a => exact ⟨a, rfl, h⟩

theorem mapM_ne_nil {xs : List α} {read : α → Except Error β} {ys : List β}
    (h : xs.mapM read = .ok ys) (hxs : xs ≠ []) : ys ≠ [] := by
  cases xs with
  | nil => exact absurd rfl hxs
  | cons x rest =>
    rw [List.mapM_cons] at h
    obtain ⟨y, -, h⟩ := of_bind_eq_ok h
    obtain ⟨others, -, h⟩ := of_bind_eq_ok h
    obtain rfl := Except.ok.inj h
    exact List.cons_ne_nil y others

/-- A selector that was read asks for something. -/
theorem Selector.ofJson_configFaults {given : Json} {selector : Selector}
    (h : Selector.ofJson given = .ok selector) : (PlanStep.select selector).configFaults = [] := by
  unfold Selector.ofJson at h
  split at h
  · -- a text: all nodes, those of a label or one of them
    split_ifs at h
    · cases h
    · obtain rfl := Except.ok.inj h
      rfl
    · split at h
      · split_ifs at h
        · cases h
        · obtain rfl := Except.ok.inj h
          rfl
      · obtain rfl := Except.ok.inj h
        rfl
  · cases h
  · -- a list that is not empty, so that the list of its ids is not either
    next items hitems =>
    obtain ⟨ids, hids, h⟩ := of_bind_eq_ok h
    obtain rfl := Except.ok.inj h
    have hne := mapM_ne_nil hids hitems
    cases ids with
    | nil => exact absurd rfl hne
    | cons id rest => rfl
  · -- criteria, which are refused if they are empty
    obtain ⟨⟨labels, properties⟩, -, h⟩ := of_bind_eq_ok h
    dsimp only at h
    split_ifs at h with hempty
    · cases h
    · obtain rfl := Except.ok.inj h
      cases labels with
      | nil => exact if_neg hempty
      | cons label rest => rfl
  · cases h

/-- Going on with a member of an object, or with a default where there is none. -/
theorem of_optional_eq_ok {member : Option Json} {default : α} {read : Json → Except Error α}
    {next : α → Except Error β} {b : β}
    (h : (match member with
      | none => pure default >>= next
      | some given => read given >>= next) = .ok b) : ∃ a, next a = .ok b := by
  cases member with
  | none => exact ⟨default, h⟩
  | some given =>
    obtain ⟨a, -, h⟩ := of_bind_eq_ok h
    exact ⟨a, h⟩

/-- A traversal that was read has depths at which it may stop. -/
theorem Traversal.ofJson_configFaults {given : Json} {t : Traversal}
    (h : Traversal.ofJson given = .ok t) : (PlanStep.traverse t).configFaults = [] := by
  unfold Traversal.ofJson at h
  obtain ⟨members, -, h⟩ := of_bind_eq_ok h
  -- what is read of the other members does not matter, so each step only goes on to the next
  extract_lets withDirection at h
  obtain ⟨direction, h⟩ := of_optional_eq_ok h
  dsimp -zeta only [withDirection] at h
  extract_lets withEdgeType at h
  obtain ⟨edgeType, h⟩ : ∃ edgeType, withEdgeType edgeType = .ok t := by
    split at h
    · exact ⟨none, h⟩
    · obtain ⟨name, -, h⟩ := of_bind_eq_ok h
      exact ⟨_, h⟩
  dsimp -zeta only [withEdgeType] at h
  extract_lets withMaxDepth at h
  obtain ⟨maxDepth, h⟩ := of_optional_eq_ok h
  dsimp -zeta only [withMaxDepth] at h
  extract_lets withMinDepth at h
  obtain ⟨minDepth, h⟩ := of_optional_eq_ok h
  dsimp -zeta only [withMinDepth] at h
  extract_lets withFilter withRange at h
  split_ifs at h with hrange
  · cases h
  · dsimp -zeta only [withRange] at h
    obtain ⟨filter, h⟩ := of_optional_eq_ok h
    obtain rfl := Except.ok.inj h
    exact if_neg hrange

/-- What is refused if it is empty is not empty if it is read. -/
theorem ne_nil_of_refused {xs ys : List α} {fault : QueryFault}
    (h : (if xs.isEmpty then queryError fault else return xs) = (.ok ys : Except Error (List α))) :
    ys ≠ [] := by
  split_ifs at h with hempty
  · cases h
  · obtain rfl := Except.ok.inj h
    exact fun hnil => hempty (List.isEmpty_iff.mpr hnil)

theorem aggregationsOf_configFaults {given : Json} {columns : List Aggregation}
    (h : aggregationsOf given = .ok columns) : (PlanStep.aggregate columns).configFaults = [] := by
  unfold aggregationsOf at h
  obtain ⟨members, -, h⟩ := of_bind_eq_ok h
  obtain ⟨read, -, h⟩ := of_bind_eq_ok h
  have hne := ne_nil_of_refused h
  cases columns with
  | nil => exact absurd rfl hne
  | cons first rest => rfl

theorem sortKeysOf_configFaults {given : Json} {keys : List SortKey}
    (h : sortKeysOf given = .ok keys) : (PlanStep.sort keys).configFaults = [] := by
  unfold sortKeysOf at h
  extract_lets withKeys at h
  obtain ⟨read, h⟩ : ∃ read, withKeys read = .ok keys := by
    split at h
    all_goals
      obtain ⟨read, -, h⟩ := of_bind_eq_ok h
      exact ⟨read, h⟩
  have hne := ne_nil_of_refused h
  cases keys with
  | nil => exact absurd rfl hne
  | cons first rest => rfl

end Readers

namespace PlanTree

/-- A clause adds a step that nothing is wrong with, if that is what it is read to. -/
theorem addClause_faultless {name : String} {read : Json → Except Error (Option PlanStep)}
    {members : List (String × Json)} {below t : PlanTree}
    (hread : ∀ given step, read given = .ok (some step) →
      step.kind ≠ .select ∧ step.configFaults = [])
    (h : addClause name read members below = .ok t) (hbelow : below.Faultless) : t.Faultless := by
  unfold addClause at h
  split at h
  · obtain rfl := Except.ok.inj h
    exact hbelow
  · next given _ =>
    obtain ⟨step?, hstep, h⟩ := of_bind_eq_ok h
    cases step? with
    | none =>
      obtain rfl := Except.ok.inj h
      exact hbelow
    | some step =>
      obtain rfl := Except.ok.inj h
      obtain ⟨hkind, hconfig⟩ := hread given step hstep
      exact hbelow.wrap hkind hconfig

/-- Nothing is wrong with the plan of a query record. -/
theorem ofRecord_faultless {record : Json} {t : PlanTree} (h : ofRecord record = .ok t) :
    t.Faultless := by
  unfold ofRecord at h
  obtain ⟨members, -, h⟩ := of_bind_eq_ok h
  extract_lets withMembers at h
  split at h
  · cases h
  dsimp only [withMembers] at h
  obtain ⟨select, -, h⟩ := of_bind_eq_ok h
  obtain ⟨selector, hselector, h⟩ := of_bind_eq_ok h
  have hleaf := Faultless.leaf (Selector.ofJson_configFaults hselector)
  obtain ⟨traversed, htraverse, h⟩ := of_bind_eq_ok h
  obtain ⟨filtered, hfilter, h⟩ := of_bind_eq_ok h
  obtain ⟨aggregated, haggregate, h⟩ := of_bind_eq_ok h
  obtain ⟨sorted, hsort, hlimit⟩ := of_bind_eq_ok h
  have htraversed : traversed.Faultless := by
    refine addClause_faultless (fun given step hread => ?_) htraverse hleaf
    obtain ⟨t, ht, hread⟩ := of_bind_eq_ok hread
    obtain rfl := Option.some.inj (Except.ok.inj hread)
    exact ⟨nofun, Traversal.ofJson_configFaults ht⟩
  have hfiltered : filtered.Faultless := by
    refine addClause_faultless (fun given step hread => ?_) hfilter htraversed
    obtain ⟨conditions, -, hread⟩ := of_bind_eq_ok hread
    have hsome := Except.ok.inj hread
    split_ifs at hsome with hempty
    obtain rfl := Option.some.inj hsome
    cases conditions with
    | nil => exact absurd rfl hempty
    | cons first rest => exact ⟨nofun, rfl⟩
  have haggregated : aggregated.Faultless := by
    refine addClause_faultless (fun given step hread => ?_) haggregate hfiltered
    obtain ⟨columns, hcolumns, hread⟩ := of_bind_eq_ok hread
    obtain rfl := Option.some.inj (Except.ok.inj hread)
    exact ⟨nofun, aggregationsOf_configFaults hcolumns⟩
  have hsorted : sorted.Faultless := by
    refine addClause_faultless (fun given step hread => ?_) hsort haggregated
    obtain ⟨keys, hkeys, hread⟩ := of_bind_eq_ok hread
    obtain rfl := Option.some.inj (Except.ok.inj hread)
    exact ⟨nofun, sortKeysOf_configFaults hkeys⟩
  refine addClause_faultless (fun given step hread => ?_) hlimit hsorted
  obtain ⟨count, -, hread⟩ := of_bind_eq_ok hread
  obtain rfl := Option.some.inj (Except.ok.inj hread)
  exact ⟨nofun, rfl⟩

/-! ### Optimized plans -/

/-- The inputs of limits and sorts are alike, so a sort may sink below limits. -/
theorem placeSort_faultless {keys : List SortKey} {inputs : List PlanTree}
    (h : (PlanTree.node (.sort keys) inputs).Faultless) : (placeSort keys inputs).Faultless := by
  induction inputs using placeSort.induct with
  | case1 count inputs ih =>
    obtain ⟨hsort, hlimit⟩ := faultless_node_iff.mp h
    obtain ⟨hroot, hinputs⟩ := faultless_node_iff.mp (hlimit _ List.mem_cons_self)
    have hone : inputs.length = 1 :=
      (@arityFaults_eq_nil_iff (.limit count) nofun _).mp hroot.arity
    have hbelow : (placeSort keys inputs).Faultless := by
      refine ih (faultless_node_iff.mpr ⟨⟨?_, hsort.config⟩, hinputs⟩)
      exact (@arityFaults_eq_nil_iff (.sort keys) nofun _).mpr hone
    rw [placeSort]
    exact hbelow.wrap nofun rfl
  | case2 inputs hlimit =>
    rw [placeSort_eq fun count below heq => hlimit count below heq]
    exact h

/-- Conditions are added to a step of the same kind, which keeps its inputs. -/
theorem placeFilter_faultless {conditions : List Filter} {inputs : List PlanTree}
    (h : (PlanTree.node (.filter conditions) inputs).Faultless) :
    (placeFilter conditions inputs).Faultless := by
  obtain ⟨hfilter, hinput⟩ := faultless_node_iff.mp h
  unfold placeFilter
  split
  · next t below =>
    obtain ⟨hroot, hbelow⟩ := faultless_node_iff.mp (hinput _ List.mem_cons_self)
    exact faultless_node_iff.mpr ⟨⟨hroot.arity, hroot.config⟩, hbelow⟩
  · next inner below =>
    obtain ⟨hroot, hbelow⟩ := faultless_node_iff.mp (hinput _ List.mem_cons_self)
    refine faultless_node_iff.mpr ⟨⟨hroot.arity, ?_⟩, hbelow⟩
    -- the joined conditions are none only if there were none in either filter
    cases inner with
    | nil => exact hfilter.config
    | cons first rest => rfl
  · exact h

theorem place_faultless {step : PlanStep} {inputs : List PlanTree}
    (h : (PlanTree.node step inputs).Faultless) : (place step inputs).Faultless := by
  cases step with
  | sort keys => exact placeSort_faultless h
  | filter conditions => exact placeFilter_faultless h
  | select selector => exact h
  | traverse t => exact h
  | aggregate columns => exact h
  | limit count => exact h

/-- Optimizing keeps plans faultless. -/
theorem Faultless.optimize {t : PlanTree} (h : t.Faultless) : t.optimize.Faultless := by
  induction t using induction with
  | node step inputs ih =>
    obtain ⟨hstep, hinputs⟩ := faultless_node_iff.mp h
    rw [optimize_node]
    refine place_faultless (faultless_node_iff.mpr ⟨?_, fun u hu => ?_⟩)
    · rw [List.length_map]
      exact hstep
    · obtain ⟨t, ht, rfl⟩ := List.mem_map.mp hu
      exact ih t ht (hinputs t ht)

theorem depthOfAll_singleton (t : PlanTree) : depthOfAll [t] = t.depth := Nat.max_zero _

theorem depthOfAll_map_le {ts : List PlanTree} {f : PlanTree → PlanTree}
    (h : ∀ t ∈ ts, (f t).depth ≤ t.depth) : depthOfAll (ts.map f) ≤ depthOfAll ts := by
  induction ts with
  | nil => exact Nat.le_refl 0
  | cons t rest ih =>
    rw [List.forall_mem_cons] at h
    have hrest := ih h.2
    rw [List.map_cons, depthOfAll, depthOfAll]
    omega

theorem depth_placeSort_le (keys : List SortKey) (inputs : List PlanTree) :
    (placeSort keys inputs).depth ≤ 1 + depthOfAll inputs := by
  induction inputs using placeSort.induct with
  | case1 count inputs ih =>
    rw [placeSort, depth, depthOfAll_singleton, depthOfAll_singleton, depth]
    omega
  | case2 inputs hlimit =>
    rw [placeSort_eq fun count below heq => hlimit count below heq]
    exact Nat.le_refl _

theorem depth_placeFilter_le (conditions : List Filter) (inputs : List PlanTree) :
    (placeFilter conditions inputs).depth ≤ 1 + depthOfAll inputs := by
  unfold placeFilter
  split
  · rw [depthOfAll_singleton, depth, depth]
    omega
  · rw [depthOfAll_singleton, depth, depth]
    omega
  · exact Nat.le_refl _

theorem depth_place_le (step : PlanStep) (inputs : List PlanTree) :
    (place step inputs).depth ≤ 1 + depthOfAll inputs := by
  cases step with
  | sort keys => exact depth_placeSort_le keys inputs
  | filter conditions => exact depth_placeFilter_le conditions inputs
  | select selector => exact Nat.le_refl _
  | traverse t => exact Nat.le_refl _
  | aggregate columns => exact Nat.le_refl _
  | limit count => exact Nat.le_refl _

/-- Optimizing makes no plan deeper. -/
theorem depth_optimize_le (t : PlanTree) : t.optimize.depth ≤ t.depth := by
  induction t using induction with
  | node step inputs ih =>
    -- the inputs get no deeper, and placing the step on them adds one level at most
    rw [optimize_node, depth]
    exact Nat.le_trans (depth_place_le step _) (Nat.add_le_add_left (depthOfAll_map_le ih) 1)

end PlanTree

/-! ### Agreement -/

/-- **Reading, optimizing and checking agree.**  The only error in the plan of a query record is that
it is too deep, where it is deeper than allowed.  If there is no error in a plan, however it was
made, there is none in the optimized plan, which is no deeper. -/
theorem validation_agrees (maxDepth : Nat) :
    (∀ record t, PlanTree.ofRecord record = .ok t →
      (t.validate maxDepth).errors
        = if maxDepth < t.depth then [.queryTooDeep t.depth maxDepth] else []) ∧
      ∀ t : PlanTree, (t.validate maxDepth).errors = [] →
        (t.optimize.validate maxDepth).errors = [] ∧ t.optimize.depth ≤ t.depth := by
  refine ⟨fun record t h => (PlanTree.ofRecord_faultless h).errors maxDepth, fun t h => ?_⟩
  obtain ⟨hdepth, hfaultless⟩ := (t.errors_eq_nil_iff maxDepth).mp h
  have hle := t.depth_optimize_le
  refine ⟨(t.optimize.errors_eq_nil_iff maxDepth).mpr ⟨?_, hfaultless.optimize⟩, hle⟩
  exact Nat.le_trans hle hdepth

end AnyEngine

/-- Three of the people that somebody older than thirty knows. -/
def knownByOlder : Json :=
  .object
    [("select", .string "label:Person"), ("traverse", .object [("type", .string "knows")]),
      ("filter", .object [("age", .object [("$gt", .ofNat 30)])]), ("sort", .string "age"),
      ("limit", .ofNat 3)]

theorem validation_knownByOlder :
    ∃ t, PlanTree.ofRecord knownByOlder = .ok t ∧
      (t.validate 4).errors = [.queryTooDeep 5 4] ∧ (t.validate 5).errors = [] ∧
      (t.optimize.validate 5).errors = [] ∧ t.optimize.depth ≤ 5 := by
  have hread : PlanTree.ofRecord knownByOlder = .ok
      (.wrap (.limit 3)
        (.wrap (.sort [⟨"age", .ascending⟩])
          (.wrap (.filter [.condition ⟨"age", .gt, .int 30⟩])
            (.wrap (.traverse { edgeType := some "knows" })
              (.leaf (.select (.label "Person"))))))) := by
    rfl
  have hvalid := (validation_agrees 5).1 _ _ hread
  exact ⟨_, hread, (validation_agrees 4).1 _ _ hread, hvalid, (validation_agrees 5).2 _ hvalid⟩

end PropertyGraph
