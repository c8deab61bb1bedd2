import PropertyGraph.Graph.Path

/-!
# Bindings of variables

A variable of a pattern is bound to a node, an edge or a path.  `Bindings` keep the variables in
the order in which they were bound.  Two bindings are of the same element if their identities
agree, whatever their properties are.
-/

namespace PropertyGraph

inductive Binding where
  | node (n : Node)
  | edge (e : Edge)
  | path (p : Path)

/-- What makes an element the same as another one. -/
inductive ElementIdentity where
  | node (id : NodeId)
  | edge (key : EdgeKey)
  | path (nodes : List NodeId) (edges : List EdgeKey)
deriving DecidableEq

namespace Binding

def identity : Binding → ElementIdentity
  | .node n => .node n.id
  | .edge e => .edge e.key
  | .path p => .path (p.nodes.map Node.id) (p.edges.map Edge.key)

def sameElement (a b : Binding) : Bool := a.identity == b.identity

def node? : Binding → Option Node
  | .node n => some n
  | _ => none

def edge? : Binding → Option Edge
  | .edge e => some e
  | _ => none

def path? : Binding → Option Path
  | .path p => some p
  | _ => none

def toValue : Binding → Value
  | .node n => n.toValue
  | .edge e => e.toValue
  | .path p => p.toValue

end Binding

/-- Variables and what they are bound to, in the order of binding. -/
structure Bindings where
  entries : List (String × Binding) := []

namespace Bindings

def empty : Bindings := {}

def find? (b : Bindings) (name : String) : Option Binding := Entries.find? name b.entries

def contains (b : Bindings) (name : String) : Bool := (b.find? name).isSome

def size (b : Bindings) : Nat := b.entries.length

def isEmpty (b : Bindings) : Bool := b.entries.isEmpty

/-- The id of the node a variable is bound to, if it is a node. -/
def nodeId? (b : Bindings) (name : String) : Option NodeId :=
  ((b.find? name).bind Binding.node?).map Node.id

/-- Puts an entry in the place of one with the same name, else at the end. -/
def place (name : String) (x : Binding) : List (String × Binding) → List (String × Binding)
  | [] => [(name, x)]
  | (name', x') :: rest =>
    if name' = name then (name, x) :: rest else (name', x') :: place name x rest

/-- Binds a variable, whatever it was bound to before. -/
def insert (b : Bindings) (name : String) (x : Binding) : Bindings := ⟨place name x b.entries⟩

/-- Binds a variable unless it is bound to another element.  Without a name there is nothing to
bind. -/
def bind? (b : Bindings) (name : Option String) (x : Binding) : Option Bindings :=
  match name with
  | none => some b
  | some name =>
    match b.find? name with
    | some bound => if bound.sameElement x then some b else none
    | none => some (b.insert name x)

/-- Adds entries one after the other, up to one whose variable is bound to another element.  Says
whether all of them could be added. -/
def joinEntries (b : Bindings) : List (String × Binding) → Bool × Bindings
  | [] => (true, b)
  | (name, x) :: rest =>
    match b.bind? (some name) x with
    | some b => joinEntries b rest
    | none => (false, b)

/-- Adds the bindings of others, up to a variable that is bound to another element.  Says whether
all of them could be added. -/
def join (b others : Bindings) : Bool × Bindings := b.joinEntries others.entries

/-- The bindings as a row: a map from the variables to the elements. -/
def toValue (b : Bindings) : Value :=
  .ofEntries (b.entries.map fun (name, x) => (name, x.toValue))

end Bindings

end PropertyGraph
