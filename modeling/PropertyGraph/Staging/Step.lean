import PropertyGraph.Numeric.CostNumber

/-!
# Steps to be staged

A `CostedStep` is an operation with a cost and the identities of the steps it has to wait for.
-/

namespace PropertyGraph

structure CostedStep (κ : Type) where
  id : String
  cost : κ
  dependsOn : List String := []

namespace CostedStep

variable {κ : Type}

/-- The steps that a step waits for, each once. -/
def dependencies (s : CostedStep κ) : List String := s.dependsOn.eraseDups

/-- All that a step waits for is among the given identities. -/
def isReady (finished : List String) (s : CostedStep κ) : Bool :=
  s.dependsOn.all fun d => finished.contains d

end CostedStep

end PropertyGraph
