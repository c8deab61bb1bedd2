import PropertyGraph.Staging.Stage

/-!
# Checking stages

`StagingFault.ofStages` lists all that is wrong with stages as a division of a list of steps: each
step has to run exactly once, no other step may run, and a step may only run behind the stages of
all it waits for.
-/

namespace PropertyGraph

inductive StagingFault where
  | missing (id : String)
  | repeated (id : String) (times : Nat)
  | unknown (stageIndex : Nat) (id : String)
  | tooEarly (id : String) (position : Nat) (dependency : String)
deriving DecidableEq

namespace StagingFault

def message : StagingFault → String
  | .missing id => "step '" ++ id ++ "' is missing from the optimized plan"
  | .repeated id times => "step '" ++ id ++ "' is scheduled " ++ toString times ++ " times"
  | .unknown index id => "stage " ++ toString index ++ " contains unknown step '" ++ id ++ "'"
  | .tooEarly id position dependency =>
    "step '" ++ id ++ "' in stage " ++ toString position ++ " depends on '" ++ dependency ++
      "', which has not executed yet"

variable {κ : Type}

/-- The faults in how often the given steps run. -/
def inCounts (scheduled : List String) (steps : List (CostedStep κ)) : List StagingFault :=
  steps.filterMap fun s =>
    match scheduled.count s.id with
    | 0 => some (.missing s.id)
    | 1 => none
    | times => some (.repeated s.id times)

/-- The steps of stages that are not among the given ones. -/
def inNames (known : List String) (stages : List (Stage κ)) : List StagingFault :=
  stages.flatMap fun stage =>
    (stage.ids.filter fun id => !known.contains id).map (.unknown stage.index)

/-- What a step of a stage waits for: what the last step of its name in the list says, or what it
says itself if the list has none. -/
def expected (steps : List (CostedStep κ)) (s : CostedStep κ) : List String :=
  ((steps.reverse.find? fun known => known.id == s.id).getD s).dependsOn

/-- The steps of stages that run too early, where the stages from `position` on are left and those
with the identities `finished` have run. -/
def inOrder (steps : List (CostedStep κ)) (finished : List String) (position : Nat) :
    List (Stage κ) → List StagingFault
  | [] => []
  | stage :: rest =>
    (stage.steps.flatMap fun s =>
      ((expected steps s).filter fun d => !finished.contains d).map (.tooEarly s.id position)) ++
      inOrder steps (finished ++ stage.ids) (position + 1) rest

/-- All that is wrong with stages as a division of the given steps. -/
def ofStages (steps : List (CostedStep κ)) (stages : List (Stage κ)) : List StagingFault :=
  inCounts (stages.flatMap Stage.ids) steps ++ inNames (steps.map (·.id)) stages ++
    inOrder steps [] 0 stages

end StagingFault

end PropertyGraph
