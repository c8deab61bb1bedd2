import PropertyGraph.Value.Basic

/-!
# Nodes and edges

A node has an identity, labels and properties.  An edge has no identity of its own: its `EdgeKey`,
the two nodes and the label, names it.
-/

namespace PropertyGraph

/-- The identity of a node, given by whoever stores it. -/
abbrev NodeId := String

/-! ### Directions -/

/-- The way in which edges are followed from a node. -/
inductive Direction where
  | outgoing
  | incoming
  | both
deriving DecidableEq

namespace Direction

/-- The direction of a name; the long names are accepted too. -/
def ofName? (name : String) : Option Direction :=
  if name = "out" ∨ name = "outgoing" then some .outgoing
  else if name = "in" ∨ name = "incoming" then some .incoming
  else if name = "both" then some .both
  else none

def name : Direction → String
  | .outgoing => "out"
  | .incoming => "in"
  | .both => "both"

end Direction

/-! ### Nodes -/

structure Node where
  id : NodeId
  labels : List String
  properties : PropertyMap

namespace Node

def hasLabel (n : Node) (label : String) : Bool := n.labels.contains label

def property? (n : Node) (key : String) : Option Value := n.properties.find? key

/-- The row of a node: a map of its id, labels and properties. -/
def toValue (n : Node) : Value :=
  .map [("id", .string n.id), ("labels", .list (n.labels.map Value.string)),
    ("properties", Value.ofProperties n.properties)]

end Node

/-! ### Edges -/

/-- What names an edge: where it starts, where it ends and its label. -/
structure EdgeKey where
  source : NodeId
  target : NodeId
  label : String
deriving DecidableEq

namespace EdgeKey

/-- Keys are ordered by source, then target, then label. -/
instance : Ord EdgeKey :=
  ⟨compareLex (compareOn source) (compareLex (compareOn target) (compareOn label))⟩

instance : Std.TransOrd EdgeKey :=
  inferInstanceAs (Std.TransCmp (compareLex (compareOn source)
    (compareLex (compareOn target) (compareOn label))))

instance : Std.LawfulEqOrd EdgeKey where
  eq_of_compare {a b} h := by
    obtain ⟨s, t, l⟩ := a
    obtain ⟨s', t', l'⟩ := b
    replace h : compareLex (compareOn source) (compareLex (compareOn target) (compareOn label))
      ⟨s, t, l⟩ ⟨s', t', l'⟩ = .eq := h
    simp only [compareLex_eq_eq, compareOn] at h
    simp_all

def toText (k : EdgeKey) : String := k.source ++ "->" ++ k.target ++ ":" ++ k.label

end EdgeKey

structure Edge where
  source : NodeId
  target : NodeId
  label : String
  properties : PropertyMap

namespace Edge

def key (e : Edge) : EdgeKey := ⟨e.source, e.target, e.label⟩

/-- The end of the edge that is not the given node; a loop leads back to its node. -/
def otherNode? (e : Edge) (node : NodeId) : Option NodeId :=
  if node = e.source then some e.target
  else if node = e.target then some e.source
  else none

def touches (e : Edge) (node : NodeId) : Bool := e.source == node || e.target == node

def toValue (e : Edge) : Value :=
  .map [("from", .string e.source), ("label", .string e.label),
    ("properties", Value.ofProperties e.properties), ("to", .string e.target)]

end Edge

end PropertyGraph
