import PropertyGraph.Collection.StableSort
import PropertyGraph.Staging.Order

/-!
# Stages

A stage is a group of steps that may run at the same time; the stages of a plan run one after the
other.  Steps are grouped by depth (`levels`), groups that are too wide are cut (`narrow`) and
groups that stay small enough together are joined (`joinAdjacent`).
-/

namespace PropertyGraph

variable {κ : Type}

structure StagingConfig where
  /-- The most steps that a stage may have; none counts as one. -/
  maxParallel : Nat := 8
  /-- Join neighbouring stages where nothing speaks against it. -/
  mergeStages : Bool := true

/-- The widest stage that a configuration allows. -/
def StagingConfig.width (config : StagingConfig) : Nat := max config.maxParallel 1

structure Stage (κ : Type) where
  index : Nat
  steps : List (CostedStep κ)
  /-- That of the most expensive step, since they run at the same time. -/
  cost : κ

namespace Stage

def ids (stage : Stage κ) : List String := stage.steps.map (·.id)

/-- The stage of a group of steps. -/
def of [CostNumber κ] (index : Nat) (steps : List (CostedStep κ)) : Stage κ :=
  ⟨index, steps, CostNumber.maximum (steps.map (·.cost))⟩

/-! ### Grouping steps -/

/-- The steps of each depth in the order in which they are listed, given an order in which they can
run. -/
def levels (steps order : List (CostedStep κ)) : List (List (CostedStep κ)) :=
  let depths := StepOrder.depths order
  let count := (depths.map (·.2 + 1)).foldl max 0
  (List.range count).map fun depth => steps.filter fun s => depths.lookup s.id == some depth

/-- Cuts a list into pieces of `n + 1` elements and a last one of at most as many. -/
def pieces {α : Type} (n : Nat) : List α → List (List α)
  | [] => []
  | x :: rest => (x :: rest.take n) :: pieces n (rest.drop n)
termination_by xs => xs.length
decreasing_by simp only [List.length_drop, List.length_cons]; omega

/-- Cuts a group that is wider than a limit into groups that are not, the most expensive steps
first. -/
def narrow [CostNumber κ] (limit : Nat) (group : List (CostedStep κ)) :
    List (List (CostedStep κ)) :=
  if group.length ≤ limit then [group]
  else pieces (limit - 1) (stableSortBy (fun a b => CostNumber.compare b.cost a.cost) group)

/-- Two groups may run at the same time: they fit and the later one does not wait for the earlier
one. -/
def canJoin (limit : Nat) (earlier later : List (CostedStep κ)) : Bool :=
  earlier.length + later.length ≤ limit &&
    later.all fun s => s.dependsOn.all fun d => !(earlier.map (·.id)).contains d

/-- Joins a group with as many of the following groups as possible, and goes on behind them. -/
def joinOnto (limit : Nat) (current : List (CostedStep κ)) :
    List (List (CostedStep κ)) → List (List (CostedStep κ))
  | [] => [current]
  | next :: rest =>
    if canJoin limit current next then joinOnto limit (current ++ next) rest
    else current :: joinOnto limit next rest

/-- Joins each group with as many of the following groups as possible. -/
def joinAdjacent (limit : Nat) : List (List (CostedStep κ)) → List (List (CostedStep κ))
  | [] => []
  | first :: rest => joinOnto limit first rest

/-- The groups of steps to run one after the other. -/
def groups [CostNumber κ] (config : StagingConfig) (steps order : List (CostedStep κ)) :
    List (List (CostedStep κ)) :=
  let narrowed := (levels steps order).flatMap (narrow config.width)
  if config.mergeStages then joinAdjacent config.width narrowed else narrowed

end Stage

end PropertyGraph
