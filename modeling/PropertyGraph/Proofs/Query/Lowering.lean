import PropertyGraph.Proofs.Numeric.ExactCost
import PropertyGraph.Proofs.Query.Optimization
import PropertyGraph.Proofs.Staging.Order
import PropertyGraph.Query.Cost

/-!
# The steps of a plan

`PlanTree.located` lists the nodes of a plan with their addresses.  The steps of the plan are these
nodes one by one: each waits for the nodes whose addresses are longer by one (`costedStepsAt_eq`) and
has an identity of its own (`nodup_costedStepsAt`).  Listed backwards they can run in their order
(`ordered_reverse_costedStepsAt`), and where costs are added exactly, theirs add up to the cost of the
plan (`sum_costedStepsAt`).
-/

namespace PropertyGraph.PlanTree

/-! ### Nodes and addresses -/

mutual

/-- The nodes of a plan with their addresses, each before its inputs.  An address says which input
to go down to at each step from the root. -/
def located : PlanTree → List (List Nat × PlanTree)
  | .node step inputs =>
    ([], .node step inputs) :: (locatedInAll inputs).map fun p => (p.1 :: p.2.1, p.2.2)

/-- The nodes of a list of plans: the number of the plan, the address in it and the node. -/
def locatedInAll : List PlanTree → List (Nat × List Nat × PlanTree)
  | [] => []
  | t :: rest =>
    (located t).map (fun p => (0, p)) ++ (locatedInAll rest).map fun p => (p.1 + 1, p.2)

end

/-- The node at an address. -/
def at? : PlanTree → List Nat → Option PlanTree
  | t, [] => some t
  | t, k :: address => t.inputs[k]?.bind fun u => u.at? address

mutual

theorem mem_located : ∀ (t : PlanTree) (address : List Nat) (n : PlanTree),
    (address, n) ∈ t.located ↔ t.at? address = some n
  | .node step inputs, [], n => by
    simp [located, at?, eq_comm]
  | .node step inputs, k :: address, n => by
    have hinputs := mem_locatedInAll inputs k address n
    simp [located, at?, PlanTree.inputs, hinputs]

theorem mem_locatedInAll : ∀ (ts : List PlanTree) (k : Nat) (address : List Nat) (n : PlanTree),
    (k, address, n) ∈ locatedInAll ts ↔ (ts[k]?.bind fun u => u.at? address) = some n
  | [], _, _, _ => by simp [locatedInAll]
  | t :: rest, 0, address, n => by
    have ht := mem_located t address n
    simp [locatedInAll, ht]
  | t :: rest, k + 1, address, n => by
    have hrest := mem_locatedInAll rest k address n
    simp [locatedInAll, hrest]

end

/-! ### Steps of nodes -/

mutual

/-- The identity of the step of the node at an address, where the steps are numbered from a given
place on. -/
def idAt (place : Nat) : PlanTree → List Nat → String
  | .node step inputs, [] => stepId place (.node step inputs)
  | .node _ inputs, k :: address => idInAll (place + 1) inputs k address

def idInAll (place : Nat) : List PlanTree → Nat → List Nat → String
  | [], _, _ => ""
  | t :: _, 0, address => idAt place t address
  | t :: rest, k + 1, address => idInAll (place + t.located.length) rest k address

end

variable {κ : Type} [CostNumber κ]

/-- The step of a node under the names that are given to addresses: it waits for the inputs of the
node. -/
def stepAs (name : List Nat → String) (p : List Nat × PlanTree) : CostedStep κ :=
  ⟨name p.1, p.2.stepCost, (List.range p.2.inputs.length).map fun k => name (p.1 ++ [k])⟩

mutual

/-- A plan has one step for each node, which waits for those of the inputs of the node. -/
theorem costedStepsAt_eq : ∀ (t : PlanTree) (place : Nat),
    (costedStepsAt place t : List (CostedStep κ)) = t.located.map (stepAs (t.idAt place))
  | .node step inputs, place => by
    have hinputs := costedStepsOfAll_eq inputs (place + 1)
    rw [costedStepsAt, hinputs, located, List.map_cons, List.map_map]
    rfl

theorem costedStepsOfAll_eq : ∀ (ts : List PlanTree) (place : Nat),
    (costedStepsOfAll place ts : List String × List (CostedStep κ))
      = ((List.range ts.length).map fun k => idInAll place ts k [],
        (locatedInAll ts).map fun p => stepAs (idInAll place ts p.1) p.2)
  | [], _ => rfl
  | t :: rest, place => by
    have ht := costedStepsAt_eq t place
    -- the first plan has number zero, and the numbers of the others are higher by one than among
    -- themselves
    rw [costedStepsOfAll, ht, List.length_map, costedStepsOfAll_eq rest (place + t.located.length),
      locatedInAll, List.map_append, List.map_map, List.map_map, List.length_cons,
      List.range_succ_eq_map, List.map_cons, List.map_map]
    cases t
    rfl

end

/-! ### Identities -/

theorem colon_not_mem_name (kind : StepKind) : ':' ∉ kind.name.toList := by
  cases kind <;> decide

theorem colon_not_mem_toDigits (n : Nat) : ':' ∉ Nat.toDigits 10 n := by
  intro hmem
  have hdigit := Nat.isDigit_of_mem_toDigits (by decide) (by decide) hmem
  exact absurd hdigit (by decide)

/-- Steps at different places have different identities, whatever the steps are. -/
theorem stepId_injective {i j : Nat} {t u : PlanTree} (h : stepId i t = stepId j u) : i = j := by
  have hlist : (stepId i t).toList = (stepId j u).toList := congrArg String.toList h
  simp only [stepId, Nat.toString_eq_ofList_toDigits, String.toList_append, String.toList_ofList,
    List.append_assoc, String.reduceToList, List.singleton_append] at hlist
  -- the digits end at the only colon
  obtain ⟨hdigits, -⟩ := (List.append_cons_inj_of_notMem (colon_not_mem_toDigits i)
    (colon_not_mem_name t.step.kind)).mp hlist
  rw [← @Nat.ofDigitChars_ten_toDigits i, hdigits, Nat.ofDigitChars_ten_toDigits]

theorem mapIdx_map {α β γ : Type} (xs : List α) (g : α → β) (f : Nat → β → γ) :
    (xs.map g).mapIdx f = xs.mapIdx fun i x => f i (g x) :=
  List.ext_getElem (by simp) fun i hi hi' => by simp

mutual

/-- The steps are named by their places, from the given one on. -/
theorem ids_costedStepsAt : ∀ (t : PlanTree) (place : Nat),
    (costedStepsAt place t : List (CostedStep κ)).map (·.id)
      = t.located.mapIdx fun i p => stepId (place + i) p.2
  | .node step inputs, place => by
    have hinputs := ids_costedStepsOfAll inputs (place + 1)
    rw [costedStepsAt, List.map_cons, hinputs, located, List.mapIdx_cons, mapIdx_map]
    simp only [Nat.add_assoc, Nat.add_comm 1, Nat.add_zero]

theorem ids_costedStepsOfAll : ∀ (ts : List PlanTree) (place : Nat),
    ((costedStepsOfAll place ts : List String × List (CostedStep κ)).2).map (·.id)
      = (locatedInAll ts).mapIdx fun i p => stepId (place + i) p.2.2
  | [], _ => rfl
  | t :: rest, place => by
    have ht := ids_costedStepsAt t place
    have hrest := ids_costedStepsOfAll rest (place + t.located.length)
    -- the places of the other plans begin behind all those of the first
    have hlength : (costedStepsAt place t : List (CostedStep κ)).length = t.located.length := by
      rw [costedStepsAt_eq, List.length_map]
    rw [costedStepsOfAll, hlength, List.map_append, ht, hrest, locatedInAll, List.mapIdx_append,
      mapIdx_map, mapIdx_map, List.length_map]
    simp only [Nat.add_assoc, Nat.add_comm t.located.length]

end

/-- No two steps have the same identity. -/
theorem nodup_costedStepsAt (t : PlanTree) (place : Nat) :
    ((costedStepsAt place t : List (CostedStep κ)).map (·.id)).Nodup := by
  rw [ids_costedStepsAt, List.Nodup, List.pairwise_iff_getElem]
  intro i j hi hj hlt heq
  rw [List.getElem_mapIdx, List.getElem_mapIdx] at heq
  have hplaces := stepId_injective heq
  omega

/-! ### Order -/

mutual

/-- Backwards, each step stands behind all it waits for. -/
theorem ordered_reverse_costedStepsAt : ∀ (t : PlanTree) (place : Nat),
    StepOrder.Ordered (costedStepsAt place t : List (CostedStep κ)).reverse
  | .node step inputs, place => by
    obtain ⟨hordered, hknown⟩ := ordered_reverse_costedStepsOfAll inputs (place + 1)
    -- backwards the root comes last, behind all its inputs
    rw [costedStepsAt, List.reverse_cons]
    refine hordered.snoc (CostedStep.isReady_iff.mpr fun d hd => ?_)
    rw [List.map_reverse, List.mem_reverse]
    exact hknown d hd

theorem ordered_reverse_costedStepsOfAll : ∀ (ts : List PlanTree) (place : Nat),
    StepOrder.Ordered
        (costedStepsOfAll place ts : List String × List (CostedStep κ)).2.reverse ∧
      ∀ d ∈ (costedStepsOfAll place ts : List String × List (CostedStep κ)).1,
        d ∈ (costedStepsOfAll place ts : List String × List (CostedStep κ)).2.map (·.id)
  | [], _ => ⟨.nil, fun _ hd => (List.not_mem_nil hd).elim⟩
  | t :: rest, place => by
    have ht := ordered_reverse_costedStepsAt t place
    obtain ⟨hordered, hknown⟩ := ordered_reverse_costedStepsOfAll rest
      (place + (costedStepsAt place t : List (CostedStep κ)).length)
    have hroot : stepId place t ∈ (costedStepsAt place t : List (CostedStep κ)).map (·.id) := by
      cases t
      exact List.mem_cons_self
    rw [costedStepsOfAll, List.reverse_append, List.map_append]
    refine ⟨hordered.append ht, fun d hd => ?_⟩
    rcases List.mem_cons.mp hd with rfl | hd
    · exact List.mem_append_left _ hroot
    · exact List.mem_append_right _ (hknown d hd)

end

/-! ### Costs -/

/-- The estimates of a list of plans are added up from left to right. -/
theorem estimateAll_eq (ts : List PlanTree) (before : κ × κ) :
    estimateAll before ts
      = ((ts.map fun t => (t.estimate : κ × κ).1).foldl CostNumber.add before.1,
        (ts.map fun t => (t.estimate : κ × κ).2).foldl CostNumber.add before.2) := by
  induction ts generalizing before with
  | nil => rfl
  | cons t rest ih => rw [estimateAll, ih]; rfl

section ExactAddition

variable (exact : CostNumber.ExactAddition κ)
include exact

/-- The cost of a plan is that of its root and those of its inputs. -/
theorem estimate_eq (step : PlanStep) (inputs : List PlanTree) :
    ((PlanTree.node step inputs).estimate : κ × κ).2
      = CostNumber.add (PlanTree.node step inputs).stepCost
        (CostNumber.sum (inputs.map fun t => (t.estimate : κ × κ).2)) := by
  rw [estimate, estimateAll_eq, exact.foldl_add, exact.foldl_add, exact.zero_add, exact.zero_add,
    exact.add_comm]
  rfl

mutual

theorem sum_costedStepsAt : ∀ (t : PlanTree) (place : Nat),
    CostNumber.sum ((costedStepsAt place t : List (CostedStep κ)).map (·.cost)) = t.estimate.2
  | .node step inputs, place => by
    have hinputs := sum_costedStepsOfAll inputs (place + 1)
    rw [costedStepsAt, List.map_cons, exact.sum_cons, hinputs, estimate_eq exact]

theorem sum_costedStepsOfAll : ∀ (ts : List PlanTree) (place : Nat),
    CostNumber.sum ((costedStepsOfAll place ts : List String × List (CostedStep κ)).2.map (·.cost))
      = CostNumber.sum (ts.map fun t => (t.estimate : κ × κ).2)
  | [], _ => rfl
  | t :: rest, place => by
    have ht := sum_costedStepsAt t place
    have hrest := sum_costedStepsOfAll rest
      (place + (costedStepsAt place t : List (CostedStep κ)).length)
    rw [costedStepsOfAll, List.map_append, exact.sum_append, ht, hrest, List.map_cons,
      exact.sum_cons]

end

end ExactAddition

end PropertyGraph.PlanTree
