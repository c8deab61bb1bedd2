import PropertyGraph.Graph.Path
import PropertyGraph.Query.Operator

/-!
# Path patterns

A pattern of a path is a pattern of its first node and then, hop by hop, a pattern of what is
followed and of the node it leads to.  Parts of a pattern may have a variable as their name;
`PathPattern.variableNames` lists them.
-/

namespace PropertyGraph

variable {ρ : Type} [RegexEngine ρ]

/-! ### Conditions on properties -/

/-- What has to hold of one property. -/
structure PropertyConstraint where
  key : String
  operator : Operator
  operand : Value

namespace PropertyConstraint

/-- The constraint with an operand that suits the operator. -/
def of (key : String) (operator : Operator) (operand : Value) : Except Error PropertyConstraint := do
  operator.check operand
  return ⟨key, operator, operand⟩

/-- The constraint that a property is loosely equal to a value. -/
def equals (key : String) (operand : Value) : PropertyConstraint := ⟨key, .eq, operand⟩

def holds (c : PropertyConstraint) (properties : PropertyMap) : Bool :=
  c.operator.evaluate (properties.find? c.key) c.operand

end PropertyConstraint

/-! ### Patterns of nodes -/

structure NodePattern where
  name : Option String := none
  /-- All of these labels are asked for. -/
  labels : List String := []
  constraints : List PropertyConstraint := []

namespace NodePattern

def accepts (p : NodePattern) (n : Node) : Bool :=
  p.labels.all n.hasLabel && p.constraints.all fun c => c.holds n.properties

/-- How much a pattern asks for: two for a label, one and a half for a constraint. -/
def specificity (p : NodePattern) : Binary64 :=
  ((Binary64.ofNat 2).mul (.ofNat p.labels.length)).add
    ((Binary64.ofRatio 3 2).mul (.ofNat p.constraints.length))

end NodePattern

/-! ### Patterns of hops -/

/-- What is followed from a node: one edge, or a path of edges if there is a bound on its length. -/
structure RelationshipPattern where
  name : Option String := none
  /-- One of these labels is asked for; any will do if there are none. -/
  types : List String := []
  direction : Direction := .outgoing
  constraints : List PropertyConstraint := []
  minHops : Option Nat := none
  maxHops : Option Nat := none

namespace RelationshipPattern

/-- The pattern with bounds on the number of hops, at least one if no lower bound is given. -/
def hops (p : RelationshipPattern) (min max : Option Nat) : RelationshipPattern :=
  { p with minHops := some (min.getD 1), maxHops := max }

def isVariableLength (p : RelationshipPattern) : Bool := p.minHops.isSome || p.maxHops.isSome

/-- The least and the largest number of hops.  An open upper bound is replaced by a cap, but stays
above the lower bound. -/
def hopRange (p : RelationshipPattern) (cap : Nat) : Nat × Nat :=
  let min := p.minHops.getD 1
  (min, p.maxHops.getD (max cap min))

def accepts (p : RelationshipPattern) (e : Edge) : Bool :=
  (p.types.isEmpty || p.types.contains e.label) && p.constraints.all fun c => c.holds e.properties

/-- How much a pattern asks for: one for a label, one and a half for a constraint. -/
def specificity (p : RelationshipPattern) : Binary64 :=
  (Binary64.ofNat p.types.length).add
    ((Binary64.ofRatio 3 2).mul (.ofNat p.constraints.length))

end RelationshipPattern

/-! ### Patterns of paths -/

structure PathPattern where
  start : NodePattern
  segments : List (RelationshipPattern × NodePattern) := []

namespace PathPattern

/-- The names in a pattern in their order, each once. -/
def variableNames (p : PathPattern) : List String :=
  (p.start.name.toList ++
    p.segments.flatMap fun (hop, node) => hop.name.toList ++ node.name.toList).eraseDups

/-- How much the parts of a pattern ask for together. -/
def specificity (p : PathPattern) : Binary64 :=
  p.start.specificity.add
    (Binary64.sum (p.segments.map fun (hop, node) => hop.specificity.add node.specificity))

end PathPattern

end PropertyGraph
