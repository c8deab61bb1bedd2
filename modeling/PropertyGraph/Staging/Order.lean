import PropertyGraph.Error
import PropertyGraph.Staging.Step

/-!
# The order of steps

`StepOrder.of` puts a list of steps into an order in which each step stands behind all it waits
for.  A step is released as soon as the last of its dependencies has been taken, and released
steps are taken first come, first served.  Where no such order exists, it says why.

`StepOrder.alongChains` computes a value for each step from the values of its dependencies; the
depth of a step (`StepOrder.depths`) and the costliest chain that ends in it
(`StepOrder.chains`) are two such values.
-/

namespace PropertyGraph.StepOrder

variable {κ : Type}

/-! ### What is wrong with a list of steps -/

/-- The first step whose identity an earlier step has. -/
def repeated? : List String → List (CostedStep κ) → Option String
  | _, [] => none
  | seen, s :: rest => if seen.contains s.id then some s.id else repeated? (s.id :: seen) rest

/-- The first step that waits for something unknown, and what that is. -/
def stranger? (known : List String) : List (CostedStep κ) → Option (String × String)
  | [] => none
  | s :: rest =>
    match s.dependsOn.find? fun d => !known.contains d with
    | some d => some (s.id, d)
    | none => stranger? known rest

/-! ### Taking steps in order -/

/-- The steps that may run behind the given ones. -/
def released (taken waiting : List (CostedStep κ)) : List (CostedStep κ) :=
  waiting.filter fun s => s.isReady (taken.map (·.id))

/-- The steps that still have to wait behind the given ones. -/
def held (taken waiting : List (CostedStep κ)) : List (CostedStep κ) :=
  waiting.filter fun s => !s.isReady (taken.map (·.id))

theorem length_released_add_length_held (taken waiting : List (CostedStep κ)) :
    (released taken waiting).length + (held taken waiting).length = waiting.length := by
  induction waiting with
  | nil => rfl
  | cons s rest ih =>
    simp only [released, held, List.filter_cons] at ih ⊢
    cases s.isReady (taken.map (·.id)) <;> simp <;> omega

/-- Takes the steps of a queue one by one and queues what each of them releases.  The result is the
order in which steps are taken, behind those taken before, and the steps that stay waiting. -/
def takeAll (taken queue waiting : List (CostedStep κ)) :
    List (CostedStep κ) × List (CostedStep κ) :=
  match queue with
  | [] => (taken, waiting)
  | s :: rest =>
    takeAll (taken ++ [s]) (rest ++ released (taken ++ [s]) waiting) (held (taken ++ [s]) waiting)
termination_by queue.length + waiting.length
decreasing_by
  have h := length_released_add_length_held (taken ++ [s]) waiting
  simp only [List.length_append, List.length_cons]
  omega

/-- The steps in an order in which each stands behind all it waits for. -/
def of (steps : List (CostedStep κ)) : Except Error (List (CostedStep κ)) := do
  match repeated? [] steps with
  | some id => throw (.invalidPlan (.duplicateStep id))
  | none => pure ()
  match stranger? (steps.map (·.id)) steps with
  | some (step, dependency) => throw (.unknownDependency step dependency)
  | none => pure ()
  let (order, stuck) := takeAll [] (released [] steps) (held [] steps)
  if stuck.isEmpty then return order
  else throw (.circularDependency (stuck.map (·.id)))

/-! ### Values along chains of dependencies -/

/-- The value of each step of an ordered list, computed from the values of its dependencies. -/
def alongChains {β : Type} (value : CostedStep κ → List β → β) (order : List (CostedStep κ)) :
    List (String × β) :=
  order.foldl
    (fun known s => known ++ [(s.id, value s (s.dependencies.filterMap fun d => known.lookup d))]) []

/-- The number of steps in front of each step on the longest chain that ends in it. -/
def depths (order : List (CostedStep κ)) : List (String × Nat) :=
  alongChains (fun _ before => (before.map (· + 1)).foldl max 0) order

/-- Steps each of which waits for the one before, with the sum of their costs. -/
structure Chain (κ : Type) where
  steps : List String
  cost : κ

variable [CostNumber κ]

/-- The costliest chain that ends in each step.  Of equally costly ones, the one through the
dependency that is named last. -/
def chains (order : List (CostedStep κ)) : List (String × Chain κ) :=
  alongChains (fun s before =>
    match CostNumber.lastMaximum? Chain.cost before with
    | some chain => ⟨chain.steps ++ [s.id], CostNumber.add s.cost chain.cost⟩
    | none => ⟨[s.id], CostNumber.add s.cost CostNumber.zero⟩) order

/-- The costliest chain of all; of equally costly ones, the one whose end is taken last. -/
def criticalChain (order : List (CostedStep κ)) : Chain κ :=
  (CostNumber.lastMaximum? Chain.cost ((chains order).map (·.2))).getD ⟨[], CostNumber.zero⟩

end PropertyGraph.StepOrder
